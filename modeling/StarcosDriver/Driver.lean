import StarcosDriver.Select
import StarcosDriver.Keys
import StarcosDriver.SecurityEnv

/-!
# The driver as a state machine over the card handle

Between two calls, what the driver keeps is in the card handle: the path cache, the
cached serial number and the extension state.  This file lists the driver's entry points
as `DriverOp`, gives each its effect on the handle (`DriverOp.exec`), and defines the
handles a run can reach: `starcos_init`, then any sequence of operations, each under any
answers of the card and any outcome of the transport.

`starcos_get_serialnr` is here too, with the `card_ctl` dispatch that reaches it.  It
keeps the first serial number it reads; what it stores is the whole answer of GET CARD
DATA, whatever its length.

`exec_drvData` and its siblings are the frame lemmas: each operation touches only the
part of the handle its source writes.
-/

namespace StarcosDriver

variable (F : Framework)

/-! ## `starcos_get_serialnr` -/

/-- The GET CARD DATA command. -/
def getCardDataApdu (card : ScCard) : Apdu :=
  { formatApdu card .case2Short 0xf6 0x00 0x00 with
    cla := card.cla ||| 0x80, resplen := F.maxApduBufferSize, le := 256 }

/-- `starcos_get_serialnr`; `hasOut` says whether the caller passed a buffer.  The
serial number handed out is `card->serialnr` after the call. -/
def getSerialnr (card : ScCard) (hasOut : Bool) :
    Prog (ScRet × ScCard × Option (List UInt8)) :=
  if ¬ hasOut then .ret (.err .invalidArguments, card, none)
  else if card.serialnr.length ≠ 0 then .ret (scSuccess, card, some card.serialnr)
  else
    Prog.send (getCardDataApdu F card) (fun e => (.err e, card, none)) fun sw1 sw2 resp =>
    if ¬ IsOk sw1 sw2 then .ret (.err .internal, card, none)
    else .ret (scSuccess, { card with serialnr := resp }, some resp)

/-- **Reading the serial number writes only the cached serial number.** -/
theorem getSerialnr_card (card : ScCard) (hasOut : Bool) :
    (getSerialnr F card hasOut).Always fun x => x.2.1 = { card with serialnr := x.2.1.serialnr } := by
  unfold getSerialnr
  split_ifs <;> simp
  intro sw1 sw2 _
  split_ifs <;> simp

/-! ## `starcos_card_ctl` -/

/-- The commands of `starcos_card_ctl` with their payloads.  `generateKey` carries the
earlier contents of `starcos_gen_key`'s response buffer. -/
inductive CardCtl where
  | createFile (data : CreateData)
  | createEnd (file : ScFile)
  | writeKey (data : WkeyData)
  | generateKey (data : GenKeyData) (rbuf0 : List UInt8)
  | eraseCard
  | getSerialnr (hasOut : Bool)
  | unsupported

/-- `starcos_card_ctl`: the result, the handle afterwards, and the bytes handed out (the
modulus or the serial number) when the command produces some. -/
def cardCtl (card : ScCard) : CardCtl → Prog (ScRet × ScCard × Option (List UInt8))
  | .createFile data => (createByData F card data).map fun r => (r, card, none)
  | .createEnd file => (createEnd F card file).map fun r => (r, card, none)
  | .writeKey data => (writeKey F card data).map fun r => (r, card, none)
  | .generateKey data rbuf0 => (genKey F card data rbuf0).map fun (r, m) => (r, card, m)
  | .eraseCard => (eraseCard F card).map fun (r, card) => (r, card, none)
  | .getSerialnr hasOut => getSerialnr F card hasOut
  | .unsupported => .ret (.err .notSupported, card, none)

/-- **`card_ctl` leaves the extension state alone.** -/
theorem cardCtl_drvData (card : ScCard) (cmd : CardCtl) :
    (cardCtl F card cmd).Always fun x => x.2.1.drvData = card.drvData := by
  cases cmd with
  | eraseCard =>
    simp only [cardCtl, Prog.always_map]
    exact (eraseCard_card F card).mono fun x hx => by rcases hx with h | h <;> rw [h]
  | getSerialnr hasOut =>
    exact (getSerialnr_card F card hasOut).mono fun x hx => by rw [hx]
  | _ => simp [cardCtl]

/-! ## The operations table -/

/-- A call of one of the hooks `starcos_ops` overrides, other than `init` and `finish`. -/
inductive DriverOp where
  | selectFile (path : ScPath) (wantFile : Bool)
  | logout
  | createFile (file : ScFile)
  | setSecurityEnv (env : ScSecurityEnv)
  | computeSignature (data : List UInt8) (outlen : Nat)
  | cardCtl (cmd : CardCtl)

/-- The result of a call and the card handle afterwards; `fuel` bounds the recursion of
`starcos_select_file`. -/
def DriverOp.exec (fuel : Nat) (card : ScCard) : DriverOp → Prog (ScRet × ScCard)
  | .selectFile path wantFile =>
    (StarcosDriver.selectFile F fuel card path wantFile).map fun (r, c, _) => (r, c)
  | .logout => (StarcosDriver.logout F card).map fun r => (r, card)
  | .createFile file => (StarcosDriver.createFile F card file).map fun r => (r, card)
  | .setSecurityEnv env =>
    (StarcosDriver.setSecurityEnv F card env).map fun (r, ex) => (r, { card with drvData := ex })
  | .computeSignature data outlen =>
    (StarcosDriver.computeSignature F card data outlen).map fun (r, ex, _) =>
      (r, { card with drvData := ex })
  | .cardCtl cmd => (StarcosDriver.cardCtl F card cmd).map fun (r, c, _) => (r, c)

/-- The card handles a run can reach: `starcos_init` succeeded on the handle the
framework passed, and every later call returned, under some answers of the card. -/
inductive Reachable : ScCard → Prop
  | init {card card' : ScCard} : (starcosInit card).Yields (scSuccess, card') → Reachable card'
  | step {card card' : ScCard} {r : ScRet} (fuel : Nat) (op : DriverOp) :
      Reachable card → (op.exec F fuel card).Yields (r, card') → Reachable card'

/-- **Induction over runs**: a property of the handle that `starcos_init` establishes
and every returning call keeps holds of every reachable handle. -/
theorem Reachable.invariant {P : ScCard → Prop}
    (hinit : ∀ card, (starcosInit card).Always fun x => x.1 = scSuccess → P x.2)
    (hstep : ∀ (fuel : Nat) (op : DriverOp) (card : ScCard), P card →
      (op.exec F fuel card).Always fun x => P x.2)
    {card : ScCard} (h : Reachable F card) : P card := by
  induction h with
  | init hy => exact Prog.always_iff.mp (hinit _) _ hy rfl
  | step fuel op _ hy ih => exact Prog.always_iff.mp (hstep fuel op _ ih) _ hy

/-- The handles a sequence of calls leads to from `card`, under some answers of the
card. -/
inductive Reaches : ScCard → ScCard → Prop
  | refl (card : ScCard) : Reaches card card
  | step {card card' card'' : ScCard} {r : ScRet} (fuel : Nat) (op : DriverOp) :
      Reaches card card' → (op.exec F fuel card').Yields (r, card'') → Reaches card card''

/-- A property of the handle that every returning call keeps holds along every sequence
of calls. -/
theorem Reaches.invariant {P : ScCard → Prop}
    (hstep : ∀ (fuel : Nat) (op : DriverOp) (card : ScCard), P card →
      (op.exec F fuel card).Always fun x => P x.2)
    {card card' : ScCard} (h : Reaches F card card') (h0 : P card) : P card' := by
  induction h with
  | refl => exact h0
  | step fuel op _ hy ih => exact Prog.always_iff.mp (hstep fuel op _ ih) _ hy

/-! ## The cached serial number -/

/-- **The serial number stored is the whole answer of GET CARD DATA**: with no serial
cached, an answer 90 00 of any length is copied into `card->serialnr` as it is. -/
theorem getSerialnr_stores_whole_answer (card : ScCard) (resp : List UInt8)
    (hnone : card.serialnr = []) :
    Prog.Trace (cardCtl F card (.getSerialnr true))
      [.exchange (getCardDataApdu F card) (.answer 0x90 0x00 resp)]
      (scSuccess, { card with serialnr := resp }, some resp) := by
  simp only [cardCtl, getSerialnr, hnone, List.length_nil, ne_eq, not_true_eq_false,
    if_false, Bool.not_eq_true', Bool.true_eq_false, Prog.send]
  exact .transmit _ (.ret _)

/-- A 33-byte answer, one byte past OpenSC's `SC_MAX_SERIALNR`, is stored whole. -/
theorem getSerialnr_stores_whole_answer_33 :
    Framework.opensc.maxSerialnr < (List.replicate 33 (0 : UInt8)).length ∧
    (⟨0, false, ⟨.path, []⟩, [], 128, 128, .zero⟩ : ScCard).serialnr = [] ∧
    Prog.Trace (cardCtl Framework.opensc ⟨0, false, ⟨.path, []⟩, [], 128, 128, .zero⟩
        (.getSerialnr true))
      [.exchange (getCardDataApdu Framework.opensc ⟨0, false, ⟨.path, []⟩, [], 128, 128, .zero⟩)
        (.answer 0x90 0x00 (List.replicate 33 0))]
      (scSuccess, ⟨0, false, ⟨.path, []⟩, List.replicate 33 0, 128, 128, .zero⟩,
        some (List.replicate 33 0)) :=
  ⟨by decide, rfl, getSerialnr_stores_whole_answer _ _ _ rfl⟩

/-- Once a serial number is cached, no call changes it. -/
theorem exec_serialnr (fuel : Nat) (op : DriverOp) {card : ScCard}
    (h : card.serialnr ≠ []) :
    (op.exec F fuel card).Always fun x => x.2.serialnr = card.serialnr := by
  cases op with
  | selectFile path w =>
    simp only [DriverOp.exec, Prog.always_map]
    exact (selectFile_cacheOnly F fuel card path w).mono fun x hx => hx.serialnr
  | cardCtl cmd =>
    cases cmd with
    | eraseCard =>
      simp only [DriverOp.exec, cardCtl, Prog.always_map]
      exact (eraseCard_card F card).mono fun x hx => by rcases hx with hx | hx <;> rw [hx]
    | getSerialnr hasOut => cases hasOut <;> simp [DriverOp.exec, cardCtl, getSerialnr, h]
    | _ => simp [DriverOp.exec, cardCtl]
  | _ => simp [DriverOp.exec]

/-- **A cached serial number is handed out with no command**: along every sequence of
calls from a handle with a serial number, `GET_SERIALNR` returns that serial number
without sending anything. -/
theorem getSerialnr_cached {card card' : ScCard} (h : Reaches F card card')
    (hne : card.serialnr ≠ []) :
    cardCtl F card' (.getSerialnr true) = .ret (scSuccess, card', some card.serialnr) := by
  have hs : card'.serialnr = card.serialnr :=
    Reaches.invariant F (fun fuel op c (hc : c.serialnr = card.serialnr) =>
      (exec_serialnr F fuel op (hc ▸ hne)).mono fun x hx => hx.trans hc) h rfl
  simp [cardCtl, getSerialnr, hs, hne]

end StarcosDriver
