import StarcosDriver.KeyChunks
import StarcosDriver.Select

/-!
# The FCI round trip

`process_fci` decodes the FCI template a STARCOS card returns to a SELECT of an EF: the
tag `6F` and its length, and inside it the number of bytes of the file (tag `80`, two
bytes, the high one first) and the file descriptor (tag `82`: `01` for a transparent EF,
`11` for an object EF, `02 21 rl`, `07 21 rl` and `17 21 rl` for linear fixed, cyclic
and compute EFs of records of `rl` bytes).  `efFci` writes the template of an EF of a
given size and `EfShape`, and `processFci_efFci` says that the driver reads back what
was written, whatever bytes follow the template in the answer: the size, the structure
as OpenSC names it, and the record length.

The driver takes `sc_asn1_find_tag` from OpenSC.  The round trip needs of it only what
`Framework.FindsShortTlv` says: in a sequence of BER objects of the short form (one-byte
tags and lengths) it finds the value of the first object with the tag.
`findTlv_encodeTlvs` proves this of the stand-in of `Framework.opensc`.

`selectFid_efFci` lifts the round trip to `starcos_select_fid`: a SELECT answered with
the FCI of an EF, whose READ BINARY probe is not answered "no current EF", hands out the
descriptor of that EF.
-/

namespace StarcosDriver

/-! ## Short BER objects -/

/-- A sequence of BER objects with one-byte tags and lengths. -/
def encodeTlvs : List (UInt8 × List UInt8) → List UInt8
  | [] => []
  | (tag, value) :: objs => tag :: value.length.toUInt8 :: (value ++ encodeTlvs objs)

/-- The value of the first object with tag `tag`. -/
def lookupTag (objs : List (UInt8 × List UInt8)) (tag : Nat) : Option (List UInt8) :=
  (objs.find? fun o => o.1.toNat = tag).map Prod.snd

/-- A tag of one byte: neither padding (`00`, `FF`) nor the first byte of a longer tag
(`xx1F`). -/
def ShortTag (t : UInt8) : Prop := t &&& 0x1F ≠ 0x1F ∧ t ≠ 0x00 ∧ t ≠ 0xFF

instance (t : UInt8) : Decidable (ShortTag t) := inferInstanceAs (Decidable (_ ∧ _))

/-- An object of the short form: a one-byte tag, and a length below `80`, which takes one
byte. -/
def ShortTlv (o : UInt8 × List UInt8) : Prop := ShortTag o.1 ∧ o.2.length < 0x80

/-- What the FCI round trip needs of `sc_asn1_find_tag`. -/
def Framework.FindsShortTlv (F : Framework) : Prop :=
  ∀ (objs : List (UInt8 × List UInt8)) (tag : Nat), (∀ o ∈ objs, ShortTlv o) →
    F.asn1FindTag (encodeTlvs objs) tag = lookupTag objs tag

theorem toNat_toUInt8 {n : Nat} (h : n < 256) : n.toUInt8.toNat = n :=
  show n % 256 = n by omega

/-- The search of `Framework.opensc` reads back every sequence of objects whose values
have fewer than 256 bytes. -/
theorem findTlv_encodeTlvs {objs : List (UInt8 × List UInt8)}
    (h : ∀ o ∈ objs, o.2.length < 256) (tag : Nat) :
    findTlv (encodeTlvs objs) tag = lookupTag objs tag := by
  induction objs with
  | nil => simp [encodeTlvs, findTlv, lookupTag]
  | cons o objs ih =>
    obtain ⟨t, v⟩ := o
    have hv : v.length.toUInt8.toNat = v.length := toNat_toUInt8 (h _ (List.mem_cons_self _ _))
    rw [encodeTlvs, findTlv, hv, List.take_left, List.drop_left,
      ih fun o ho => h o (List.mem_cons_of_mem _ ho)]
    by_cases ht : t.toNat = tag <;> simp [lookupTag, List.find?_cons, ht]

theorem Framework.opensc_findsShortTlv : Framework.opensc.FindsShortTlv :=
  fun _ tag h => findTlv_encodeTlvs (fun o ho => by have := (h o ho).2; omega) tag

/-! ## The FCI of an EF -/

/-- The structure of an EF as the descriptor byte of its FCI tells it. -/
inductive EfShape where
  | transparent
  | object
  | linearFixed (recordLength : UInt8)
  | cyclic (recordLength : UInt8)
  | compute (recordLength : UInt8)
  deriving DecidableEq, Repr

/-- The value of the descriptor object `82`. -/
def EfShape.descriptor : EfShape → List UInt8
  | .transparent => [0x01]
  | .object => [0x11]
  | .linearFixed rl => [0x02, 0x21, rl]
  | .cyclic rl => [0x07, 0x21, rl]
  | .compute rl => [0x17, 0x21, rl]

/-- The EF structure as OpenSC names it. -/
def EfShape.efStructure (F : Framework) : EfShape → Nat
  | .transparent | .object => F.efTransparent
  | .linearFixed _ => F.efLinearFixed
  | .cyclic _ => F.efCyclic
  | .compute _ => F.efUnknown

/-- The length of the records, `0` for an EF without records. -/
def EfShape.recordLength : EfShape → Nat
  | .transparent | .object => 0
  | .linearFixed rl | .cyclic rl | .compute rl => rl.toNat

/-- The objects of the FCI of an EF of `size` bytes. -/
def efFciObjects (size : Nat) (shape : EfShape) : List (UInt8 × List UInt8) :=
  [(0x80, [byteAt size 8, byteAt size 0]), (0x82, shape.descriptor)]

/-- The FCI template of an EF of `size` bytes. -/
def efFci (size : Nat) (shape : EfShape) : List UInt8 :=
  0x6f :: (encodeTlvs (efFciObjects size shape)).length.toUInt8 ::
    encodeTlvs (efFciObjects size shape)

/-- The descriptor `file` becomes for the EF. -/
def efFile (F : Framework) (file : ScFile) (size : Nat) (shape : EfShape) : ScFile :=
  { file with
    type := F.fileTypeWorkingEf, efStructure := shape.efStructure F, shareable := false,
    recordLength := shape.recordLength, size, magic := true }

theorem EfShape.length_descriptor_le (shape : EfShape) : shape.descriptor.length ≤ 3 := by
  cases shape <;> simp [EfShape.descriptor]

theorem shortTlv_efFciObjects (size : Nat) (shape : EfShape) :
    ∀ o ∈ efFciObjects size shape, ShortTlv o := by
  have := shape.length_descriptor_le
  simp only [efFciObjects, List.mem_cons, List.mem_singleton, List.not_mem_nil, or_false]
  rintro o (rfl | rfl)
  · exact ⟨(by decide : ShortTag 0x80), by simp⟩
  · exact ⟨(by decide : ShortTag 0x82), Nat.lt_of_le_of_lt this (by decide)⟩

theorem length_encodeTlvs_efFciObjects (size : Nat) (shape : EfShape) :
    (encodeTlvs (efFciObjects size shape)).length = 6 + shape.descriptor.length := by
  simp [encodeTlvs, efFciObjects]
  omega

/-- The two bytes of the size object give the size back, modulo `65536`. -/
theorem byteAt_hi_lo (n : Nat) : (byteAt n 8).toNat * 256 + (byteAt n 0).toNat = n % 65536 := by
  rw [byteAt_toNat, byteAt_toNat]
  omega

/-- The descriptor object decodes to the shape's structure and record length. -/
theorem fciDescriptor_descriptor (F : Framework) {file : ScFile} (h : file.recordLength = 0)
    (shape : EfShape) :
    fciDescriptor F file shape.descriptor =
      { file with
        type := F.fileTypeWorkingEf, efStructure := shape.efStructure F,
        recordLength := shape.recordLength } := by
  cases file
  subst h
  cases shape <;> rfl

variable {F : Framework}

/-- **The FCI round trip.**  Whatever follows the template, `process_fci` reads the FCI
of an EF back into its descriptor: the size, when it fits the two bytes, the structure
and the record length. -/
theorem processFci_efFci (hF : F.FindsShortTlv) {size : Nat} (hsize : size < 65536)
    (file : ScFile) (shape : EfShape) (trailing : List UInt8) :
    processFci F file (efFci size shape ++ trailing) = (scSuccess, efFile F file size shape) := by
  have hL : (encodeTlvs (efFciObjects size shape)).length.toUInt8.toNat =
      (encodeTlvs (efFciObjects size shape)).length :=
    toNat_toUInt8 (by have := shape.length_descriptor_le; rw [length_encodeTlvs_efFciObjects]; omega)
  have h80 : F.asn1FindTag (encodeTlvs (efFciObjects size shape)) 0x80 =
      some [byteAt size 8, byteAt size 0] := hF _ _ (shortTlv_efFciObjects size shape)
  have h82 : F.asn1FindTag (encodeTlvs (efFciObjects size shape)) 0x82 = some shape.descriptor :=
    hF _ _ (shortTlv_efFciObjects size shape)
  have hsz : (byteAt size 8).toNat * 256 + (byteAt size 0).toNat = size :=
    (byteAt_hi_lo size).trans (Nat.mod_eq_of_lt hsize)
  simp only [processFci, efFci, List.cons_append, List.length_cons, List.getD_cons_zero,
    List.getD_cons_succ, hL, List.drop_succ_cons, List.drop_zero, List.take_left, h80, h82,
    List.length_append, List.length_nil, ne_eq, not_true_eq_false, if_false, hsz]
  rw [if_neg (by omega), if_neg (by omega), if_pos (by simp), fciDescriptor_descriptor F rfl]
  rfl

/-- **Selecting an EF hands out its descriptor.**  When `starcos_select_fid` asks for a
descriptor, and the card answers the SELECT with `90 00` or `61 xx` and the FCI of an
EF, and the READ BINARY probe with anything but `69 86`, the run goes on to the
allocation, and once that succeeds it returns the EF's descriptor, with its FID as id and
the cache as path, and leaves the handle as it was. -/
theorem selectFid_efFci (hF : F.FindsShortTlv) {size : Nat} (hsize : size < 65536)
    (card : ScCard) (hi lo : UInt8) (shape : EfShape) (trailing : List UInt8)
    {sw1 sw2 psw1 psw2 : Nat} (hsw : IsOk sw1 sw2 ∨ sw1 = 0x61)
    (hprobe : ¬ (psw1 = 0x69 ∧ psw2 = 0x86)) (presp : List UInt8)
    (x : ScRet × ScCard × Option ScFile) :
    Prog.Trace (selectFid F card hi lo true)
      [.exchange (selectFidApdu F card hi lo true) (.answer sw1 sw2 (efFci size shape ++ trailing)),
        .exchange (probeApdu card) (.answer psw1 psw2 presp), .alloc true] x ↔
    x = (scSuccess, card, some (efFile F
      { ScFile.new with id := hi.toNat * 256 + lo.toNat, path := card.cache } size shape)) := by
  have hne : ¬ (sw1 = 0x62 ∧ sw2 = 0x84) := by rintro ⟨rfl, -⟩; simp [IsOk] at hsw
  have hsel : sw1 = 0x61 ∨ IsOk sw1 sw2 := hsw.symm
  have hdone : ¬ (sw1 ≠ 0x61 ∧ ¬ IsOk sw1 sw2) := fun h' => hsel.elim h'.1 h'.2
  simp only [selectFid, selectFidDone, Prog.trace_send_answer, true_and, hne, and_false, if_false,
    hsel, if_true, hprobe, decide_False, Bool.false_eq_true, hdone, Prog.trace_allocOr_true,
    processFci_efFci hF hsize, Prog.trace_ret_iff]

/-- Selecting the linear fixed EF `2F 01` of 300 bytes in records of 20 below the MF. -/
theorem selectFid_efFci_linearFixed :
    Prog.Trace (selectFid Framework.opensc ⟨0, true, ⟨.path, [0x3f, 0x00]⟩, [], 128, 128, .zero⟩
        0x2F 0x01 true)
      [.exchange (selectFidApdu Framework.opensc ⟨0, true, ⟨.path, [0x3f, 0x00]⟩, [], 128, 128, .zero⟩
          0x2F 0x01 true) (.answer 0x90 0x00 (efFci 300 (.linearFixed 20))),
        .exchange (probeApdu ⟨0, true, ⟨.path, [0x3f, 0x00]⟩, [], 128, 128, .zero⟩)
          (.answer 0x90 0x00 [0x00]), .alloc true]
      (scSuccess, ⟨0, true, ⟨.path, [0x3f, 0x00]⟩, [], 128, 128, .zero⟩,
        some (efFile Framework.opensc { ScFile.new with id := 0x2F01, path := ⟨.path, [0x3f, 0x00]⟩ }
          300 (.linearFixed 20))) :=
  (selectFid_efFci Framework.opensc_findsShortTlv (by decide) _ 0x2F 0x01 (.linearFixed 20) []
    (.inl ⟨rfl, rfl⟩) (by decide) [0x00] _).mpr rfl

end StarcosDriver
