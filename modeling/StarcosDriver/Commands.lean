import StarcosDriver.Driver

/-!
# The commands of each operation

The card tells the STARCOS commands from the ISO 7816 ones by the class byte: the
driver sends CREATE (`E0`), REGISTER DF (`52`), DELETE MF (`E4`), WRITE KEY (`F4`),
READ PUBLIC KEY (`F0`) and GET CARD DATA (`F6`) with `CLA | 80`, and SELECT, READ
BINARY, MANAGE SECURITY ENVIRONMENT, PERFORM SECURITY OPERATION, INTERNAL AUTHENTICATE
and GENERATE KEY with the card's class byte as it is.  `InsIn cla l` says that a command
has one of the instructions `l`, with the class byte its instruction calls for, and
`exec_insIn` gives each operation its list, `DriverOp.instructions`: what it sends under
any answers of the card.

`starcos_init` sets the class byte to `00` and no operation writes it.  A `Session` is a
run together with the events it exchanged, and over every session
`session_cla` says that every command went out with class `00` or `80` as its
instruction requires.
-/

namespace StarcosDriver

/-! ## Class bytes -/

/-- The STARCOS instructions, sent with the proprietary class `CLA | 80`. -/
def proprietaryIns : List UInt8 := [0xE0, 0x52, 0xE4, 0xF4, 0xF0, 0xF6]

/-- The class byte of instruction `ins` on a card whose class byte is `cla`. -/
def claFor (cla ins : UInt8) : UInt8 := if ins ∈ proprietaryIns then cla ||| 0x80 else cla

/-- A command whose instruction is one of `l`, with the class byte that instruction calls
for. -/
def InsIn (cla : UInt8) (l : List UInt8) (a : Apdu) : Prop :=
  a.ins ∈ l ∧ a.cla = claFor cla a.ins

namespace Prog

variable {α β : Type} {ok : Apdu → Prop}

theorem SendsOnly.mono {ok' : Apdu → Prop} {p : Prog α} (h : p.SendsOnly ok)
    (hok : ∀ a, ok a → ok' a) : p.SendsOnly ok' := by
  induction p with
  | ret a => trivial
  | transmit apdu k ih => exact ⟨hok _ h.1, fun r => ih r (h.2 r)⟩
  | alloc k ih => exact fun b => ih b (h b)
  | diverge => trivial

/-- Sequencing, where the rest needs only to be looked at after the results of the first
part. -/
theorem sendsOnly_bind_of_always {p : Prog α} {f : α → Prog β} {Q : α → Prop}
    (hp : p.SendsOnly ok) (hq : p.Always Q) (hf : ∀ a, Q a → (f a).SendsOnly ok) :
    (p.bind f).SendsOnly ok := by
  induction p with
  | ret a => exact hf a hq
  | transmit apdu k ih => exact ⟨hp.1, fun r => ih r (hp.2 r) (hq r)⟩
  | alloc k ih => exact fun b => ih b (hp b) (hq b)
  | diverge => trivial

/-- Every command of a trace is one the program may send. -/
theorem SendsOnly.mem_trace {p : Prog α} (h : p.SendsOnly ok) {t : List Event} {x : α}
    (ht : Trace p t x) {a : Apdu} {r : Reply} (ha : Event.exchange a r ∈ t) : ok a := by
  induction ht with
  | ret => cases ha
  | @transmit apdu k r' t x _ ih =>
    rcases List.mem_cons.mp ha with he | ha
    · cases he
      exact h.1
    · exact ih (h.2 r') ha
  | alloc b _ ih => exact ih (h b) ((List.mem_cons.mp ha).resolve_left (by simp))

end Prog

/-! ## The commands of each function -/

variable (F : Framework)

/-- A command of instruction `i`, with its class byte, then `k`. -/
theorem insIn_send {α : Type} {cla : UInt8} {l : List UInt8} {apdu : Apdu} {i : UInt8}
    (h : apdu.ins = i) (hc : apdu.cla = claFor cla i) (hi : i ∈ l) {fail : ScError → α}
    {k : Nat → Nat → List UInt8 → Prog α}
    (hk : ∀ sw1 sw2 resp, (k sw1 sw2 resp).SendsOnly (InsIn cla l)) :
    (Prog.send apdu fail k).SendsOnly (InsIn cla l) :=
  (Prog.sendsOnly_send _ _ _).mpr ⟨⟨h ▸ hi, h ▸ hc⟩, hk⟩

theorem selectFidDone_sendsOnly {ok : Apdu → Prop} (card : ScCard) (hi lo : UInt8)
    (w b : Bool) (sw1 sw2 : Nat) (resp : List UInt8) :
    (selectFidDone F card hi lo w b sw1 sw2 resp).SendsOnly ok := by
  rcases selectFidDone_eq F card hi lo w b sw1 sw2 resp with h | ⟨c, -, h | ⟨x, h⟩⟩ <;>
    simp [h]

/-- The instructions of a selection: SELECT and READ BINARY. -/
def selectIns : List UInt8 := [0xA4, 0xB0]

theorem selectFid_insIn (card : ScCard) (hi lo : UInt8) (w : Bool) :
    (selectFid F card hi lo w).SendsOnly (InsIn card.cla selectIns) :=
  insIn_send (i := 0xA4) rfl rfl (by decide) fun _ _ _ =>
    Prog.sendsOnly_ite
      (fun _ => insIn_send (i := 0xA4) rfl rfl (by decide) fun _ _ _ =>
        selectFidDone_sendsOnly F ..)
      fun _ => Prog.sendsOnly_ite
        (fun _ => insIn_send (i := 0xB0) rfl rfl (by decide) fun _ _ _ =>
          selectFidDone_sendsOnly F ..)
        fun _ => selectFidDone_sendsOnly F ..

theorem selectAid_insIn (card : ScCard) (aid : List UInt8) (w : Bool) :
    (selectAid F card aid w).SendsOnly (InsIn card.cla selectIns) :=
  insIn_send (i := 0xA4) rfl rfl (by decide) fun _ _ _ => by
    split_ifs <;> simp

theorem ScCard.CacheOnly.cla {card c : ScCard} (h : card.CacheOnly c) : c.cla = card.cla := by
  rw [h]

/-- A selection step, then a selection from the handle it leaves. -/
theorem selectStep_insIn {α : Type} {card : ScCard} {p : Prog (ScRet × ScCard × α)}
    (hp : p.SendsOnly (InsIn card.cla selectIns)) (hc : p.Always fun x => card.CacheOnly x.2.1)
    {f : ScRet × ScCard × α → Prog (ScRet × ScCard × Option ScFile)}
    (hf : ∀ x, (f x).SendsOnly (InsIn x.2.1.cla selectIns)) :
    (p.bind f).SendsOnly (InsIn card.cla selectIns) :=
  Prog.sendsOnly_bind_of_always hp hc fun x hx => hx.cla ▸ hf x

theorem selectCold_insIn (card : ScCard) (path : List UInt8) (w : Bool) :
    (selectCold F card path w).SendsOnly (InsIn card.cla selectIns) := by
  induction card, path, w using selectCold.induct F with
  | case1 card hi lo w => exact selectFid_insIn F card hi lo w
  | case2 card hi lo rest w hne ih =>
    rw [selectCold.eq_2 F card w hi lo rest hne]
    refine selectStep_insIn (selectFid_insIn F card hi lo false)
      (selectFid_cacheOnly F card hi lo false) fun ⟨r, c, _⟩ => ?_
    cases r with
    | err e => trivial
    | ok n => exact ih c
  | case3 path card w h₁ h₂ =>
    rw [selectCold.eq_3 F card path w h₁ h₂]
    trivial

theorem selectPath_insIn
    {recurse : ScCard → ScPath → Bool → Prog (ScRet × ScCard × Option ScFile)}
    (hrec : ∀ c p w, (recurse c p w).SendsOnly (InsIn c.cla selectIns))
    (card : ScCard) (path : List UInt8) (w : Bool) :
    (selectPath F recurse card path w).SendsOnly (InsIn card.cla selectIns) := by
  refine selectPath_cases F trivial (fun _ _ _ _ _ _ _ => selectFid_insIn F _ _ _ _)
    (fun _ _ _ _ _ _ _ _ => selectStep_insIn (selectFid_insIn F _ _ _ _)
      (selectFid_cacheOnly F _ _ _ _) fun ⟨r, c, _⟩ => ?_)
    (fun _ _ _ _ _ _ _ => ?_) fun _ _ => selectCold_insIn F _ _ _
  · cases r with
    | err e => trivial
    | ok n => exact hrec c _ w
  · split <;> simp

theorem selectFile_insIn (fuel : Nat) (card : ScCard) (path : ScPath) (w : Bool) :
    (selectFile F fuel card path w).SendsOnly (InsIn card.cla selectIns) := by
  induction fuel generalizing card path w with
  | zero => trivial
  | succ fuel ih =>
    unfold selectFile
    split
    · exact Prog.sendsOnly_ite (fun _ => trivial) fun _ => selectFid_insIn F _ _ _ _
    · exact Prog.sendsOnly_ite (fun _ => trivial) fun _ => selectAid_insIn F _ _ _
    · exact selectPath_insIn F ih card _ w
    · trivial

theorem logout_insIn (card : ScCard) : (logout F card).SendsOnly (InsIn card.cla [0xA4]) :=
  insIn_send (i := 0xA4) rfl rfl (by decide) fun _ _ _ => by split_ifs <;> trivial

theorem createByData_insIn (card : ScCard) (data : CreateData) :
    (createByData F card data).SendsOnly (InsIn card.cla [0x52, 0xE0]) := by
  cases data with
  | mf => exact insIn_send (i := 0xE0) rfl rfl (by decide) fun _ _ _ => trivial
  | df => exact insIn_send (i := 0x52) rfl rfl (by decide) fun _ _ _ =>
      insIn_send (i := 0xE0) rfl rfl (by decide) fun _ _ _ => trivial
  | ef => exact insIn_send (i := 0xE0) rfl rfl (by decide) fun _ _ _ => trivial
  | unknown => trivial

theorem createFile_insIn (card : ScCard) (file : ScFile) :
    (createFile F card file).SendsOnly (InsIn card.cla [0x52, 0xE0]) := by
  unfold createFile
  split_ifs
  · split
    · exact createByData_insIn F ..
    · trivial
  · trivial

theorem writeKeyLoop_insIn (card : ScCard) (mode kid : Nat) (key : List UInt8)
    (offset tlen : Nat) :
    (writeKeyLoop F card mode kid key offset tlen).SendsOnly (InsIn card.cla [0xF4]) := by
  induction offset, tlen using writeKeyLoop.induct F card mode kid key with
  | case1 offset =>
    rw [writeKeyLoop, if_pos rfl]
    trivial
  | case2 offset tlen h clen ih =>
    rw [writeKeyLoop, if_neg h]
    exact insIn_send (i := 0xF4) rfl rfl (by decide) fun _ _ _ =>
      Prog.sendsOnly_ite (fun _ => trivial) fun _ => ih

theorem writeKey_insIn (card : ScCard) (data : WkeyData) :
    (writeKey F card data).SendsOnly (InsIn card.cla [0xF4]) := by
  have hchunks : (if data.key = none ∧ data.mode = 0 then Prog.ret scSuccess
      else writeKeyLoop F card data.mode data.kid (data.key.getD []) 0
        (data.key.getD []).length).SendsOnly (InsIn card.cla [0xF4]) :=
    Prog.sendsOnly_ite (fun _ => trivial) fun _ => writeKeyLoop_insIn F ..
  unfold writeKey
  exact Prog.sendsOnly_ite (fun _ => insIn_send (i := 0xF4) rfl rfl (by decide) fun _ _ _ =>
    Prog.sendsOnly_ite (fun _ => trivial) fun _ => hchunks) fun _ => hchunks

theorem genKey_insIn (card : ScCard) (data : GenKeyData) (rbuf0 : List UInt8) :
    (genKey F card data rbuf0).SendsOnly (InsIn card.cla [0x46, 0xF0]) :=
  insIn_send (i := 0x46) rfl rfl (by decide) fun _ _ _ =>
    Prog.sendsOnly_ite (fun _ => trivial) fun _ =>
      insIn_send (i := 0xF0) rfl rfl (by decide) fun _ _ _ => by split_ifs <;> simp

/-- The instructions of each `card_ctl` command. -/
def CardCtl.instructions : CardCtl → List UInt8
  | .createFile _ => [0x52, 0xE0]
  | .createEnd _ => [0xE0]
  | .writeKey _ => [0xF4]
  | .generateKey _ _ => [0x46, 0xF0]
  | .eraseCard => [0xE4]
  | .getSerialnr _ => [0xF6]
  | .unsupported => []

theorem cardCtl_insIn (card : ScCard) (cmd : CardCtl) :
    (cardCtl F card cmd).SendsOnly (InsIn card.cla cmd.instructions) := by
  cases cmd with
  | createFile data => exact Prog.sendsOnly_map.mpr (createByData_insIn F ..)
  | createEnd file =>
    refine Prog.sendsOnly_map.mpr (Prog.sendsOnly_ite (fun _ => trivial) fun _ => ?_)
    exact insIn_send (i := 0xE0) rfl rfl (List.mem_singleton_self _) fun _ _ _ => trivial
  | writeKey data => exact Prog.sendsOnly_map.mpr (writeKey_insIn F ..)
  | generateKey data rbuf0 => exact Prog.sendsOnly_map.mpr (genKey_insIn F ..)
  | eraseCard =>
    exact Prog.sendsOnly_map.mpr (insIn_send (i := 0xE4) rfl rfl (by decide) fun _ _ _ => by
      split_ifs <;> trivial)
  | getSerialnr hasOut =>
    exact Prog.sendsOnly_ite (fun _ => trivial) fun _ => Prog.sendsOnly_ite (fun _ => trivial)
      fun _ => insIn_send (i := 0xF6) rfl rfl (List.mem_singleton_self _) fun _ _ _ => by
        split_ifs <;> trivial
  | unsupported => trivial

theorem setSecurityEnv_insIn (card : ScCard) (env : ScSecurityEnv) :
    (setSecurityEnv F card env).SendsOnly (InsIn card.cla [0x22]) := by
  have hauth : (tryAuthenticate F card env).SendsOnly (InsIn card.cla [0x22]) :=
    Prog.sendsOnly_ite (fun _ => insIn_send (i := 0x22) rfl rfl (by decide) fun _ _ _ =>
      Prog.sendsOnly_ite (fun _ => trivial) fun _ => trivial) fun _ => trivial
  unfold setSecurityEnv
  split
  · exact Prog.sendsOnly_ite (fun _ => insIn_send (i := 0x22) rfl rfl (by decide) fun _ _ _ =>
      Prog.sendsOnly_ite (fun _ => trivial) fun _ => trivial) fun _ => trivial
  · refine Prog.sendsOnly_ite (fun _ => ?_) fun _ => trivial
    split
    · trivial
    · exact hauth
    · exact insIn_send (i := 0x22) rfl rfl (by decide) fun _ _ _ =>
        Prog.sendsOnly_ite (fun _ => trivial) fun _ => hauth
  · exact hauth

theorem computeSignature_insIn (card : ScCard) (data : List UInt8) (outlen : Nat) :
    (computeSignature F card data outlen).SendsOnly (InsIn card.cla [0x2A, 0x88]) := by
  have hdone : ∀ ex sw1 sw2 resp,
      (signatureDone F ex outlen sw1 sw2 resp).SendsOnly (InsIn card.cla [0x2A, 0x88]) :=
    fun _ _ _ _ => Prog.sendsOnly_ite (fun _ => trivial) fun _ => trivial
  unfold computeSignature
  dsimp only
  refine Prog.sendsOnly_ite (fun _ => trivial) fun _ => ?_
  split
  · exact insIn_send (i := 0x2A) rfl rfl (by decide) fun _ _ _ =>
      Prog.sendsOnly_ite (fun _ => trivial) fun _ =>
        insIn_send (i := 0x2A) rfl rfl (by decide) fun _ _ _ => hdone ..
  · split
    · trivial
    · exact insIn_send (i := 0x88) rfl rfl (by decide) fun _ _ _ => hdone ..
  · trivial

/-! ## Every operation -/

/-- The instructions each operation may send. -/
def DriverOp.instructions : DriverOp → List UInt8
  | .selectFile _ _ => selectIns
  | .logout => [0xA4]
  | .createFile _ => [0x52, 0xE0]
  | .setSecurityEnv _ => [0x22]
  | .computeSignature _ _ => [0x2A, 0x88]
  | .cardCtl cmd => cmd.instructions

/-- **What each operation sends**, under any answers of the card: commands of its own
instructions only, each with the class byte its instruction calls for. -/
theorem exec_insIn (fuel : Nat) (card : ScCard) (op : DriverOp) :
    (op.exec F fuel card).SendsOnly (InsIn card.cla op.instructions) := by
  cases op with
  | selectFile path w => exact Prog.sendsOnly_map.mpr (selectFile_insIn F ..)
  | logout => exact Prog.sendsOnly_map.mpr (logout_insIn F card)
  | createFile file => exact Prog.sendsOnly_map.mpr (createFile_insIn F ..)
  | setSecurityEnv env => exact Prog.sendsOnly_map.mpr (setSecurityEnv_insIn F ..)
  | computeSignature data outlen => exact Prog.sendsOnly_map.mpr (computeSignature_insIn F ..)
  | cardCtl cmd => exact Prog.sendsOnly_map.mpr (cardCtl_insIn F ..)

theorem cardCtl_cla (card : ScCard) (cmd : CardCtl) :
    (cardCtl F card cmd).Always fun x => x.2.1.cla = card.cla := by
  cases cmd with
  | eraseCard =>
    simp only [cardCtl, Prog.always_map]
    exact (eraseCard_card F card).mono fun x hx => by rcases hx with h | h <;> rw [h]
  | getSerialnr hasOut =>
    exact (getSerialnr_card F card hasOut).mono fun x hx => by rw [hx]
  | _ => simp [cardCtl]

/-- No operation writes the class byte. -/
theorem exec_cla (fuel : Nat) (card : ScCard) (op : DriverOp) :
    (op.exec F fuel card).Always fun x => x.2.cla = card.cla := by
  cases op with
  | selectFile path w =>
    exact Prog.always_map.mpr ((selectFile_cacheOnly F fuel card path w).mono
      fun ⟨_, _, _⟩ hx => hx.cla)
  | cardCtl cmd =>
    exact Prog.always_map.mpr ((cardCtl_cla F card cmd).mono fun ⟨_, _, _⟩ hx => hx)
  | _ => simp [DriverOp.exec]

/-! ## Whole runs -/

/-- The handles and histories of a run: `starcos_init`, then operations one after
another, each under any answers of the card, with the events of each appended. -/
inductive Session (F : Framework) : ScCard → List Prog.Event → Prop
  | init {card₀ card : ScCard} {t : List Prog.Event} :
      Prog.Trace (starcosInit card₀) t (scSuccess, card) → Session F card t
  | step {card card' : ScCard} {t u : List Prog.Event} {r : ScRet} (fuel : Nat)
      (op : DriverOp) : Session F card t → Prog.Trace (op.exec F fuel card) u (r, card') →
      Session F card' (t ++ u)

/-- A session's handle is a reachable one. -/
theorem Session.reachable {card : ScCard} {t : List Prog.Event} (h : Session F card t) :
    Reachable F card := by
  induction h with
  | init ht => exact .init ⟨_, ht⟩
  | step fuel op _ ht ih => exact .step fuel op ih ⟨_, ht⟩

/-- A successful `starcos_init` allocates once and leaves class `00` and the zeroed
extension state. -/
theorem starcosInit_trace {card₀ card : ScCard} {t : List Prog.Event}
    (h : Prog.Trace (starcosInit card₀) t (scSuccess, card)) :
    t = [.alloc true] ∧ card.cla = 0x00 ∧ card.drvData = .zero := by
  obtain ⟨b, t', rfl, h'⟩ := Prog.trace_alloc_iff.mp h
  cases b <;> simp only [Bool.false_eq_true, if_false, if_true, Prog.trace_ret_iff,
    Prod.mk.injEq] at h'
  · cases h'.2.1
  · obtain ⟨rfl, -, rfl⟩ := h'
    exact ⟨rfl, rfl, rfl⟩

/-- **Every command goes out with the class its instruction calls for.**  In every run
from `starcos_init`, under any answers of the card, the class byte stays `00`, and each
command the driver sent has class `80` when it is a STARCOS command (`E0`, `52`, `E4`,
`F4`, `F0`, `F6`) and `00` otherwise. -/
theorem session_cla {card : ScCard} {t : List Prog.Event} (h : Session F card t) :
    card.cla = 0x00 ∧ ∀ a r, Prog.Event.exchange a r ∈ t →
      a.cla = if a.ins ∈ proprietaryIns then 0x80 else 0x00 := by
  induction h with
  | init ht =>
    obtain ⟨rfl, hcla, -⟩ := starcosInit_trace ht
    exact ⟨hcla, fun _ _ ha => by simp at ha⟩
  | @step card card' t u r fuel op _ ht ih =>
    refine ⟨(Prog.always_iff.mp (exec_cla F fuel card op) _ ⟨u, ht⟩).trans ih.1, fun a r' ha => ?_⟩
    rcases List.mem_append.mp ha with ha | ha
    · exact ih.2 a r' ha
    · rw [((exec_insIn F fuel card op).mem_trace ht ha).2, claFor, ih.1]
      rfl

/-- A run that reads the serial number: GET CARD DATA goes out with class `80`. -/
theorem session_cla_getCardData :
    ∃ (card : ScCard) (t : List Prog.Event) (a : Apdu) (r : Reply),
      Session Framework.opensc card t ∧ Prog.Event.exchange a r ∈ t ∧ a.ins = 0xF6 ∧
      card.cla = 0x00 ∧ a.cla = 0x80 :=
  have hs : Session Framework.opensc _ _ :=
    .step 0 (.cardCtl (.getSerialnr true))
      (@Session.init _ ⟨0, false, ⟨.fileId, []⟩, [], 128, 128, .zero⟩ _ _
        (.alloc true (.ret _)))
      (.transmit (.answer 0x90 0x00 [0x12]) (.ret _))
  have hmem := List.mem_append_right [_] (List.mem_singleton_self _)
  ⟨_, _, _, _, hs, hmem, rfl, (session_cla _ hs).1, (session_cla _ hs).2 _ _ hmem⟩

end StarcosDriver
