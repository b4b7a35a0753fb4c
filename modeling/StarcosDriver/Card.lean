import StarcosDriver.Prog

/-!
# Recognising the card, setting it up, and reading its status words

The three hooks that do not select or create anything: `starcos_match_card` compares
the ATR with the two STARCOS SPK 2.3 strings, `starcos_init` allocates the zeroed
extension state and clamps the transfer sizes, and `starcos_check_sw` translates a
status word.

`starcos_check_sw` decides what a refusal of the card becomes.  It takes every status
word whose first byte is `90` as success, whatever the second byte; it reports `63 Cx`
as a wrong PIN; it looks the word up in the card's own table `starcosErrors`; and it
hands every other word to the ISO 7816 driver.  `checkSw_sw1_eq_0x90` and
`checkSw_isErr` say which words come back as errors, the second under the assumption
`IsoRejects` on the ISO translation; `checkSw_starcosErrors` says that every entry of the
table is what its word translates to.
-/

namespace StarcosDriver

/-! ## `starcos_match_card` -/

/-- `starcos_atrs`, the two ATRs of a STARCOS SPK 2.3 card. -/
def starcosAtrs : List (List UInt8) :=
  [[0x3B, 0xB7, 0x94, 0x00, 0xc0, 0x24, 0x31, 0xfe, 0x65, 0x53, 0x50, 0x4b, 0x32, 0x33,
    0x90, 0x00, 0xb4],
   [0x3B, 0xB7, 0x94, 0x00, 0x81, 0x31, 0xfe, 0x65, 0x53, 0x50, 0x4b, 0x32, 0x33, 0x90,
    0x00, 0xd1]]

/-- `starcos_match_card`.  Modelled from the spec: `_sc_match_atr`, which is not part of
the driver, compares the card's ATR with each string of the table. -/
def starcosMatchCard (atr : List UInt8) : Bool :=
  starcosAtrs.contains atr

/-! ## `starcos_init` -/

/-- `starcos_init`: allocate the zeroed extension state, set the class byte to `00` and
clamp both transfer sizes to 128 bytes.  A failed allocation changes nothing. -/
def starcosInit (card : ScCard) : Prog (ScRet × ScCard) :=
  Prog.allocOr (.err .outOfMemory, card) <| .ret (scSuccess,
    { card with
      cla := 0x00
      drvData := .zero
      maxSendSize := if card.maxSendSize > 128 then 128 else card.maxSendSize
      maxRecvSize := if card.maxRecvSize > 128 then 128 else card.maxRecvSize })

/-! ## `starcos_check_sw` -/

/-- `starcos_errors`: a status word of the card, the error it stands for, and the text
the driver logs. -/
def starcosErrors : List (Nat × ScError × String) :=
  [(0x6600, .incorrectParameters, "Error setting the security env"),
   (0x66F0, .incorrectParameters, "No space left for padding"),
   (0x69F0, .notAllowed, "Command not allowed"),
   (0x6A89, .fileAlreadyExists, "Files exists"),
   (0x6A8A, .fileAlreadyExists, "Application exists"),
   (0x6F01, .cardCmdFailed, "public key not complete"),
   (0x6F02, .cardCmdFailed, "data overflow"),
   (0x6F03, .cardCmdFailed, "invalid command sequence"),
   (0x6F05, .cardCmdFailed, "security enviroment invalid"),
   (0x6F07, .fileNotFound, "key part not found"),
   (0x6F08, .cardCmdFailed, "signature failed"),
   (0x6F0A, .incorrectParameters, "key format does not match key length"),
   (0x6F0B, .incorrectParameters, "length of key component inconsistent with algorithm"),
   (0x6F81, .cardCmdFailed, "system error")]

/-- `starcos_check_sw`.  `sw2 & ~0x0fU` is `sw2` with its low nibble cleared. -/
def checkSw (F : Framework) (sw1 sw2 : Nat) : ScRet :=
  if sw1 = 0x90 then scSuccess
  else if sw1 = 0x63 ∧ sw2 - sw2 % 16 = 0xc0 then .err .pinCodeIncorrect
  else
    match starcosErrors.find? (fun e => e.1 = (sw1 <<< 8 ||| sw2)) with
    | some (_, e, _) => .err e
    | none => F.isoCheckSw sw1 sw2

/-- The ISO 7816 translation refuses every status word whose first byte is not `90`. -/
def Framework.IsoRejects (F : Framework) : Prop :=
  ∀ sw1 sw2, sw1 ≠ 0x90 → (F.isoCheckSw sw1 sw2).IsErr

/-- The ISO translation of OpenSC refuses every word outside `90 xx`. -/
theorem Framework.opensc_isoRejects : Framework.opensc.IsoRejects := by
  intro sw1 sw2 h
  simp [Framework.opensc, h]

variable (F : Framework)

/-- Every word `90 xx` is success, the second byte unread. -/
@[simp] theorem checkSw_sw1_eq_0x90 (sw2 : Nat) : checkSw F 0x90 sw2 = scSuccess := rfl

/-- **Every other word is an error**, when the ISO translation refuses them too. -/
theorem checkSw_isErr (hF : F.IsoRejects) {sw1 sw2 : Nat} (h : sw1 ≠ 0x90) :
    (checkSw F sw1 sw2).IsErr := by
  unfold checkSw
  rw [if_neg h]
  split
  · trivial
  · split
    · trivial
    · exact hF sw1 sw2 h

/-- **The table is the translation**: each of its words comes back as its error. -/
theorem checkSw_starcosErrors :
    ∀ x ∈ starcosErrors, checkSw F (x.1 >>> 8) (x.1 % 256) = .err x.2.1 := by
  simp only [starcosErrors, List.mem_cons, List.not_mem_nil, or_false]
  rintro x (rfl | rfl | rfl | rfl | rfl | rfl | rfl | rfl | rfl | rfl | rfl | rfl | rfl |
    rfl) <;> rfl

end StarcosDriver
