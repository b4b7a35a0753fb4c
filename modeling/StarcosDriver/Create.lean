import StarcosDriver.Acl
import StarcosDriver.Card

/-!
# Creating files, erasing the card, logging out

The creation commands all use the proprietary class (`CLA | 80`) and send the header
`starcos_process_acl` built: CREATE MF (`E0 00 00`), REGISTER DF (`52 size.hi size.lo`)
then CREATE DF (`E0 01 00`), CREATE EF (`E0 03 00`), and CREATE END (`E0 02 00`) with a
DF's FID.  `starcos_create_df` checks only the transport result of REGISTER DF: CREATE
DF is sent whatever the card answered.

`starcos_erase_card` deletes the MF and invalidates the path cache whatever the answer;
`starcos_logout` selects the MF and leaves the cache as it is.  Both take `69 85` ("no
MF") as success.
-/

namespace StarcosDriver

variable (F : Framework)

/-- The command APDU of the creation family: proprietary class, case 3, data `data`. -/
def proprietaryApdu (card : ScCard) (ins p1 p2 : UInt8) (data : List UInt8) : Apdu :=
  { formatApdu card .case3Short ins p1 p2 with cla := card.cla ||| 0x80, data }

/-- Send one command and return the translation of its status word. -/
def sendCheck (apdu : Apdu) : Prog ScRet :=
  Prog.send apdu .err fun sw1 sw2 _ => .ret (checkSw F sw1 sw2)

/-- `starcos_create_mf`. -/
def createMf (card : ScCard) (header : List UInt8) : Prog ScRet :=
  sendCheck F (proprietaryApdu card 0xE0 0x00 0x00 header)

/-- The REGISTER DF command: the first `3 + header[2]` bytes of the header (FID, AID
length, AID), with the size bytes as P1 P2. -/
def registerDfApdu (card : ScCard) (header size : List UInt8) : Apdu :=
  proprietaryApdu card 0x52 (size.getD 0 0) (size.getD 1 0)
    (header.take (3 + (header.getD 2 0).toNat))

/-- `starcos_create_df`: REGISTER DF, then CREATE DF on any answer but a transport
error. -/
def createDf (card : ScCard) (header size : List UInt8) : Prog ScRet :=
  Prog.send (registerDfApdu card header size) .err fun _ _ _ =>
    sendCheck F (proprietaryApdu card 0xE0 0x01 0x00 header)

/-- `starcos_create_ef`. -/
def createEf (card : ScCard) (header : List UInt8) : Prog ScRet :=
  sendCheck F (proprietaryApdu card 0xE0 0x03 0x00 header)

/-- `starcos_create_end`: activate the access conditions of a DF. -/
def createEnd (card : ScCard) (file : ScFile) : Prog ScRet :=
  if file.type ≠ F.fileTypeDf then .ret (.err .invalidArguments)
  else sendCheck F (proprietaryApdu card 0xE0 0x02 0x00 [byteAt file.id 8, byteAt file.id 0])

/-- The `SC_CARDCTL_STARCOS_CREATE_FILE` branch of `starcos_card_ctl`: create what the
data's type says. -/
def createByData (card : ScCard) : CreateData → Prog ScRet
  | .mf header _ => createMf F card header
  | .df header _ size _ => createDf F card header size
  | .ef header _ => createEf F card header
  | .unknown => .ret (.err .internal)

/-- `starcos_create_file`: an MF, a DF or a working EF from its descriptor.  The source
calls `starcos_create_mf`, `_df` or `_ef` in the branch of the file's type, which is the
kind of data `starcos_process_acl` returns there. -/
def createFile (card : ScCard) (file : ScFile) : Prog ScRet :=
  if file.type = F.fileTypeDf ∨ file.type = F.fileTypeWorkingEf then
    match processAcl F file with
    | some data => createByData F card data
    | none => .ret (.err .invalidArguments)
  else .ret (.err .invalidArguments)

/-- An EF's structure tail is the transparent one when the working-EF type code is the
transparent structure code, whatever the EF's structure. -/
theorem efTail_workingEf (hwt : F.fileTypeWorkingEf = F.efTransparent) {file : ScFile}
    (hef : file.type = F.fileTypeWorkingEf) :
    efTail F file = some [0x81, byteAt file.size 8, byteAt file.size 0] := by
  simp [efTail, hef, hwt]

/-- **Every working EF is created with the transparent tail** `81 size.hi size.lo` when
the working-EF type code is the transparent structure code, as it is in OpenSC: the tail
is chosen by `switch (file->type)`, so `ef_structure` is never read. -/
theorem createFile_workingEf_tail (hwt : F.fileTypeWorkingEf = F.efTransparent)
    (hdf : F.fileTypeWorkingEf ≠ F.fileTypeDf) (card : ScCard) (file : ScFile)
    (hef : file.type = F.fileTypeWorkingEf) :
    createFile F card file =
      createEf F card (efHeaderHead F file ++ [0x81, byteAt file.size 8, byteAt file.size 0]) := by
  have htail := efTail_workingEf F hwt hef
  simp only [createFile, processAcl, hef, hdf, false_and, if_false, or_true, if_true]
  split
  · rename_i data hdata
    split at hdata
    · rename_i tail h
      rw [htail] at h
      cases h
      cases hdata
      rfl
    · simp_all
  · rename_i hnone
    split at hnone <;> simp_all

/-- A linear-fixed EF created with OpenSC's codes is sent the transparent tail. -/
theorem createFile_workingEf_tail_linearFixed :
    Framework.opensc.fileTypeWorkingEf = Framework.opensc.efTransparent ∧
    Framework.opensc.fileTypeWorkingEf ≠ Framework.opensc.fileTypeDf ∧
    (⟨0x2f01, ⟨.fileId, []⟩, 1, 2, 0x40, 0x10, 4, false, [], false, []⟩ : ScFile).type =
      Framework.opensc.fileTypeWorkingEf ∧
    createFile Framework.opensc ⟨0, false, ⟨.path, []⟩, [], 128, 128, .zero⟩
        ⟨0x2f01, ⟨.fileId, []⟩, 1, 2, 0x40, 0x10, 4, false, [], false, []⟩ =
      createEf Framework.opensc ⟨0, false, ⟨.path, []⟩, [], 128, 128, .zero⟩
        (efHeaderHead Framework.opensc
            ⟨0x2f01, ⟨.fileId, []⟩, 1, 2, 0x40, 0x10, 4, false, [], false, []⟩ ++
          [0x81, 0x00, 0x40]) :=
  ⟨rfl, by decide, rfl, createFile_workingEf_tail _ rfl (by decide) _ _ rfl⟩

/-! ## Erase and logout -/

/-- `starcos_erase_card`: delete the MF.  The cache is invalid afterwards whatever the
card answered. -/
def eraseCard (card : ScCard) : Prog (ScRet × ScCard) :=
  Prog.send (proprietaryApdu card 0xE4 0x00 0x00 [0x3f, 0x00]) (fun e => (.err e, card))
    fun sw1 sw2 _ =>
  let card := { card with cacheValid := false }
  if sw1 = 0x69 ∧ sw2 = 0x85 then .ret (scSuccess, card) else .ret (checkSw F sw1 sw2, card)

/-- **Erasing writes only the validity flag of the cache.** -/
theorem eraseCard_card (card : ScCard) :
    (eraseCard F card).Always fun x => x.2 = card ∨ x.2 = { card with cacheValid := false } := by
  unfold eraseCard
  simp only [Prog.always_send, true_or, implies_true, true_and]
  intro sw1 sw2 _
  split_ifs <;> simp

/-- The SELECT MF of `starcos_logout`. -/
def logoutApdu (card : ScCard) : Apdu :=
  { formatApdu card .case3Short 0xA4 0x00 0x0C with data := [0x3f, 0x00] }

/-- `starcos_logout`: select the MF; the cache is not touched. -/
def logout (card : ScCard) : Prog ScRet :=
  Prog.send (logoutApdu card) .err fun sw1 sw2 _ =>
  if sw1 = 0x69 ∧ sw2 = 0x85 then .ret scSuccess else .ret (checkSw F sw1 sw2)

end StarcosDriver
