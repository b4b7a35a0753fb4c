import StarcosDriver.Framework

/-!
# From OpenSC access rules to STARCOS headers

STARCOS creates a file from a fixed-size header that carries the file's identity, its
size, one byte per access condition and one or more Secure-Messaging bytes.
`starcos_process_acl` builds that header from a descriptor: 19 bytes for the MF, 25
for a DF (plus the two size bytes REGISTER DF sends in P1 P2), 16 for a working EF.

`process_acl_entry` translates one entry of the descriptor's ACL into a STARCOS access
byte.  It tests the entry's method as a bit mask: first against `SC_AC_CHV`, then
against `SC_AC_NEVER`.  Which methods reach which branch therefore depends on the values
of those masks, which is why `processAclEntry_chv`, `processAclEntry_never` and
`processAclEntry_default` are stated for the masks as they are.

Two details of `starcos_process_acl` are kept as the code has them:

* the EF's SM byte comes from a loop whose condition `tmp != 0` is false from the start,
  so the loop never runs (`efSmLoop`);
* the EF's structure tail is chosen by `switch (file->type)` with the EF-structure
  constants as labels (`efTail`).

`CreateData` is `sc_starcos_create_data`; each header carries its length, the size of
its array.

`processAcl_smBytes` says what the Secure-Messaging bytes of every header are: for an MF
or a DF each is `createSmByte`, the bit test of the CREATE entry's method against
`SC_AC_PRO`, and for an EF it is `00` whatever its entries say, since the loop that
would read them never runs (`efSmByte_eq_zero`).
-/

namespace StarcosDriver

variable (F : Framework)

/-! ## `process_acl_entry` -/

/-- `STARCOS_AC_ALWAYS`. -/
def starcosAcAlways : Nat := 0x9f

/-- `STARCOS_AC_NEVER`. -/
def starcosAcNever : UInt8 := 0x5f

/-- `STARCOS_PINID2STATE(a)`: the STARCOS state byte of a PIN reference. -/
def pinId2State (a : Nat) : Nat :=
  if a &&& 0x0f = 0x01 then a &&& 0x0f else 0x0f - ((0x0f &&& a) >>> 1)

/-- The access byte of a CHV entry with key reference `keyRef`: bit `10` for a local
(`80`) reference, and `01` for the SO PIN (low nibble `1`), else the PIN's state byte. -/
def chvAccessByte (keyRef : Nat) : UInt8 :=
  if keyRef &&& 0x0f = 1 then ((if keyRef &&& 0x80 ≠ 0 then 0x10 else 0x00) ||| 0x01).toUInt8
  else ((if keyRef &&& 0x80 ≠ 0 then 0x10 else 0x00) ||| pinId2State keyRef).toUInt8

/-- `process_acl_entry(in, method, in_def)`: the access byte for operation `op`. -/
def processAclEntry (file : ScFile) (op inDef : Nat) : UInt8 :=
  match file.aclEntry op with
  | none => inDef.toUInt8
  | some entry =>
    if entry.method &&& F.acChv ≠ 0 then
      if entry.keyRef = F.acKeyRefNone then inDef.toUInt8 else chvAccessByte entry.keyRef
    else if entry.method &&& F.acNever ≠ 0 then starcosAcNever
    else inDef.toUInt8

/-- **A CHV entry** naming a key gets that key's access byte. -/
theorem processAclEntry_chv {file : ScFile} {op inDef : Nat} {e : AclEntry}
    (he : file.aclEntry op = some e) (hchv : e.method &&& F.acChv ≠ 0)
    (hk : e.keyRef ≠ F.acKeyRefNone) :
    processAclEntry F file op inDef = chvAccessByte e.keyRef := by
  simp [processAclEntry, he, hchv, hk]

/-- **An entry outside the CHV mask and inside the NEVER mask** is `AC_NEVER`. -/
theorem processAclEntry_never {file : ScFile} {op inDef : Nat} {e : AclEntry}
    (he : file.aclEntry op = some e) (hchv : e.method &&& F.acChv = 0)
    (hnever : e.method &&& F.acNever ≠ 0) :
    processAclEntry F file op inDef = starcosAcNever := by
  simp [processAclEntry, he, hchv, hnever]

/-- **Every other entry**, and an absent one, gets the default. -/
theorem processAclEntry_default {file : ScFile} {op inDef : Nat}
    (h : ∀ e, file.aclEntry op = some e →
      (e.method &&& F.acChv ≠ 0 ∧ e.keyRef = F.acKeyRefNone) ∨
      (e.method &&& F.acChv = 0 ∧ e.method &&& F.acNever = 0)) :
    processAclEntry F file op inDef = inDef.toUInt8 := by
  unfold processAclEntry
  split
  · rfl
  · rename_i e he
    rcases h e he with ⟨hchv, hk⟩ | ⟨hchv, hnever⟩
    · simp [hchv, hk]
    · simp [hchv, hnever]

/-- **A NEVER entry is encoded as `AC_ALWAYS`** when the NEVER mask has the CHV bit, as
OpenSC's all-ones `SC_AC_NEVER` has: the entry `{NEVER, KEY_REF_NONE}` passes the CHV
test first, and the CHV branch returns the default for `KEY_REF_NONE`. -/
theorem processAclEntry_never_entry (hmask : F.acNever &&& F.acChv ≠ 0) {file : ScFile}
    {op : Nat} (hop : file.aclEntry op = some ⟨F.acNever, F.acKeyRefNone⟩) :
    processAclEntry F file op starcosAcAlways = 0x9f := by
  simp only [processAclEntry, hop, ne_eq, hmask, not_false_eq_true, if_true]
  rfl

/-- With OpenSC's masks, an EF whose READ entry is NEVER gets the READ byte `9F`. -/
theorem processAclEntry_never_entry_read :
    Framework.opensc.acNever &&& Framework.opensc.acChv ≠ 0 ∧
    ({ ScFile.new with type := 1, acl := [some ⟨0xFFFFFFFF, 0xFFFFFFFF⟩] } : ScFile).aclEntry
        Framework.opensc.acOpRead =
      some ⟨Framework.opensc.acNever, Framework.opensc.acKeyRefNone⟩ ∧
    processAclEntry Framework.opensc
        { ScFile.new with type := 1, acl := [some ⟨0xFFFFFFFF, 0xFFFFFFFF⟩] }
        Framework.opensc.acOpRead starcosAcAlways = 0x9f :=
  ⟨by decide, rfl, processAclEntry_never_entry _ (by decide) rfl⟩

/-! ## `starcos_process_acl` -/

/-- `sc_starcos_create_data`: the header of an MF, of a DF (with the size bytes REGISTER
DF sends), or of an EF.  `unknown` is a `type` that is none of the three. -/
inductive CreateData where
  | mf (header : List UInt8) (h : header.length = 19)
  | df (header : List UInt8) (hh : header.length = 25) (size : List UInt8)
      (hs : size.length = 2)
  | ef (header : List UInt8) (h : header.length = 16)
  | unknown
  deriving DecidableEq, Repr

/-- `def_key`, the MF's default key `01 .. 08`. -/
def defKey : List UInt8 := [0x01, 0x02, 0x03, 0x04, 0x05, 0x06, 0x07, 0x08]

/-- The bytes `(n >> s) & 0xff`. -/
def byteAt (n s : Nat) : UInt8 := ((n >>> s) &&& 0xff).toUInt8

/-- The Secure-Messaging byte of an MF or a DF: `03` (combined mode) when the CREATE
entry's method has the `SC_AC_PRO` bit. -/
def createSmByte (file : ScFile) : UInt8 :=
  match file.aclEntry F.acOpCreate with
  | some e => if e.method &&& F.acPro ≠ 0 then 0x03 else 0x00
  | none => 0x00

/-- The access byte for creating under an MF or a DF. -/
def acCreate (file : ScFile) : UInt8 :=
  processAclEntry F file F.acOpCreate starcosAcAlways

/-- The first 15 bytes of the MF header: default key, size, guessed ISF size and the
three CREATE access bytes (EF, key, DF). -/
def mfHeaderHead (file : ScFile) : List UInt8 :=
  defKey ++ [byteAt file.size 8, byteAt file.size 0, byteAt file.size 10, byteAt file.size 2,
    acCreate F file, acCreate F file, acCreate F file]

/-- The MF header: the register-DF byte is a copy of `header[14]`, the create-DF byte,
and the SM byte is used for all three operations. -/
def mfHeader (file : ScFile) : List UInt8 :=
  mfHeaderHead F file ++ [(mfHeaderHead F file).getD 14 0] ++
    [createSmByte F file, createSmByte F file, createSmByte F file]

/-- The 17 bytes of a DF header after its FID: the AID length and the AID padded to 16
bytes, or the FID used as a 2-byte AID when the DF has none.  A descriptor's name has
at most 16 bytes, the size of its array. -/
def dfAidField (file : ScFile) : List UInt8 :=
  if file.name.length ≠ 0 then
    (file.name.length &&& 0xff).toUInt8 :: (file.name ++ List.replicate 16 0).take 16
  else 2 :: [byteAt file.id 8, byteAt file.id 0] ++ List.replicate 14 0

/-- The DF header. -/
def dfHeader (file : ScFile) : List UInt8 :=
  [byteAt file.id 8, byteAt file.id 0] ++ dfAidField file ++
    [byteAt file.size 10, byteAt file.size 2, acCreate F file, acCreate F file,
      createSmByte F file, createSmByte F file]

/-- The loop at lines 646-648, `for (tmp = 0, r = 0; tmp != 0 && r < 4; r++)`, with
`n` the iterations left: it runs while `tmp` is nonzero. -/
def efSmLoop (file : ScFile) : Nat → UInt8 → Nat → UInt8
  | 0, tmp, _ => tmp
  | n + 1, tmp, r =>
    if tmp ≠ 0 then
      efSmLoop file n
        (match file.aclEntry r with
         | some e => if e.method &&& F.acPro ≠ 0 then 0x03 else tmp
         | none => tmp) (r + 1)
    else tmp

/-- The EF's SM byte: the loop started with `tmp = 0`, `r = 0`. -/
def efSmByte (file : ScFile) : UInt8 := efSmLoop F file 4 0 0

/-- The first 13 bytes of an EF header: FID, READ, WRITE and ERASE access bytes, four
`AC_ALWAYS` bytes, two reserved bytes, the SM byte and the SID byte. -/
def efHeaderHead (file : ScFile) : List UInt8 :=
  [byteAt file.id 8, byteAt file.id 0,
    processAclEntry F file F.acOpRead starcosAcAlways,
    processAclEntry F file F.acOpWrite starcosAcAlways,
    processAclEntry F file F.acOpErase starcosAcAlways,
    0x9f, 0x9f, 0x9f, 0x9f, 0x00, 0x00, efSmByte F file, 0x00]

/-- The EF header's 3-byte tail, chosen by `switch (file->type)` with the EF-structure
constants as labels; `none` is the `default:` label. -/
def efTail (file : ScFile) : Option (List UInt8) :=
  if file.type = F.efTransparent then some [0x81, byteAt file.size 8, byteAt file.size 0]
  else if file.type = F.efLinearFixed then
    some [0x82, byteAt file.recordCount 0, byteAt file.recordLength 0]
  else if file.type = F.efCyclic then
    some [0x84, byteAt file.recordCount 0, byteAt file.recordLength 0]
  else none

theorem length_mfHeader (file : ScFile) : (mfHeader F file).length = 19 := rfl

theorem length_dfHeader (file : ScFile) : (dfHeader F file).length = 25 := by
  unfold dfHeader dfAidField
  split <;> simp

theorem length_efTail {file : ScFile} {tail : List UInt8} (h : efTail F file = some tail) :
    tail.length = 3 := by
  unfold efTail at h
  split_ifs at h <;> (cases h; rfl)

/-- `starcos_process_acl`: the create data for an MF (a DF with FID `3F00`), another DF
or a working EF; `none` is `SC_ERROR_INVALID_ARGUMENTS`. -/
def processAcl (file : ScFile) : Option CreateData :=
  if file.type = F.fileTypeDf ∧ file.id = 0x3f00 then
    some (.mf (mfHeader F file) (length_mfHeader F file))
  else if file.type = F.fileTypeDf then
    some (.df (dfHeader F file) (length_dfHeader F file) [byteAt file.size 8, byteAt file.size 0]
      rfl)
  else if file.type = F.fileTypeWorkingEf then
    match h : efTail F file with
    | some tail => some (.ef (efHeaderHead F file ++ tail) (by simp [efHeaderHead, length_efTail F h]))
    | none => none
  else none

/-! ## The Secure-Messaging bytes -/

/-- The Secure-Messaging bytes of a header: the three of the MF header (bytes 16 to 18),
SM CR and SM ISF of a DF header (bytes 23 and 24), the SM byte of an EF header
(byte 11). -/
def CreateData.smBytes : CreateData → List UInt8
  | .mf header _ => header.drop 16
  | .df header _ _ _ => header.drop 23
  | .ef header _ => [header.getD 11 0]
  | .unknown => []

theorem length_dfAidField (file : ScFile) : (dfAidField file).length = 17 := by
  unfold dfAidField
  split <;> simp

/-- The EF's loop starts with `tmp = 0` under the condition `tmp != 0`, so it never runs. -/
theorem efSmByte_eq_zero (file : ScFile) : efSmByte F file = 0x00 := rfl

/-- **Every SM byte of a header is the CREATE entry's bit test for an MF or a DF, and
`00` for an EF.** -/
theorem processAcl_smBytes {file : ScFile} {d : CreateData} (h : processAcl F file = some d) :
    ∀ b ∈ d.smBytes, b = if file.type = F.fileTypeDf then createSmByte F file else 0x00 := by
  unfold processAcl at h
  split_ifs at h with hmf hdf hef
  · cases h
    rw [if_pos hmf.1]
    show ∀ b ∈ [createSmByte F file, createSmByte F file, createSmByte F file], _
    simp
  · cases h
    rw [if_pos hdf]
    have hsm : (dfHeader F file).drop 23 = [createSmByte F file, createSmByte F file] := by
      rw [dfHeader, List.drop_append_eq_append_drop]
      simp [length_dfAidField]
    simp [CreateData.smBytes, hsm]
  · rw [if_neg hdf]
    split at h
    · cases h
      show ∀ b ∈ [efSmByte F file], b = 0x00
      simp [efSmByte_eq_zero]
    · cases h

/-- With OpenSC's values: an EF whose READ entry is PRO gets the SM byte `00`, and an MF
whose CREATE entry is NEVER gets the SM bytes `03`. -/
theorem processAcl_smBytes_ef_pro_mf_never :
    ({ ScFile.new with type := 1, id := 0x2f01, acl := [some ⟨4, 0⟩] } : ScFile).aclEntry
        Framework.opensc.acOpRead = some ⟨Framework.opensc.acPro, 0⟩ ∧
    (∃ d, processAcl Framework.opensc
        { ScFile.new with type := 1, id := 0x2f01, acl := [some ⟨4, 0⟩] } = some d ∧
      ∀ b ∈ d.smBytes, b = 0x00) ∧
    ({ ScFile.new with
        type := 4, id := 0x3f00, acl := [none, none, none, some ⟨0xFFFFFFFF, 0xFFFFFFFF⟩] } :
        ScFile).aclEntry Framework.opensc.acOpCreate =
      some ⟨Framework.opensc.acNever, Framework.opensc.acKeyRefNone⟩ ∧
    (∃ d, processAcl Framework.opensc { ScFile.new with
        type := 4, id := 0x3f00, acl := [none, none, none, some ⟨0xFFFFFFFF, 0xFFFFFFFF⟩] } =
        some d ∧
      ∀ b ∈ d.smBytes, b = 0x03) :=
  ⟨rfl, ⟨_, rfl, fun b hb => (@processAcl_smBytes Framework.opensc
      { ScFile.new with type := 1, id := 0x2f01, acl := [some ⟨4, 0⟩] } _ rfl b hb).trans
        rfl⟩,
    rfl, ⟨_, rfl, fun b hb => (@processAcl_smBytes Framework.opensc { ScFile.new with
      type := 4, id := 0x3f00, acl := [none, none, none, some ⟨0xFFFFFFFF, 0xFFFFFFFF⟩] }
      _ rfl b hb).trans rfl⟩⟩

end StarcosDriver
