import StarcosDriver.Commands

/-!
# The security environment as the card saw it

`starcos_set_security_env` and `starcos_compute_signature` keep, in the extension state,
the way of signing the card was set up for.  That record is worth something only if it
agrees with what the card was told and accepted, and the card is told only through the
exchanges.  `SecView` reads the card's side off the exchanges alone: the operation of
the last MANAGE SECURITY ENVIRONMENT SET the card accepted (`22 41 B6` for COMPUTE
SIGNATURE, `22 41 A4` for INTERNAL AUTHENTICATE), forgotten once a signing command is
answered with anything but `90 00`, and whether the last exchange was a PSO HASH the
card accepted.  `secView` folds it over a history.

A history is what a `Session` has exchanged: `starcos_init`, then any sequence of
operations, each under any answers of the card and any outcome of the transport.  Over
every session:

* `session_secOps` --- the extension state's `sec_ops` is the view's installed
  operation: the driver's record is what the exchanges say;
* `session_permits` --- PSO COMPUTE SIGNATURE is sent only right after a PSO HASH the
  card accepted and while the exchanges say COMPUTE SIGNATURE is installed, and
  INTERNAL AUTHENTICATE only while they say INTERNAL AUTHENTICATE is.

Both come from two facts per operation, `exec_view` (a triple against the view) and
`exec_allows`.  By `exec_insIn` no operation outside the security environment sends
one of its commands (`KeepsSecEnv`), so for those operations both facts are frame
lemmas.
-/

namespace StarcosDriver

/-! ## The view from the exchanges -/

/-- PSO COMPUTE DIGITAL SIGNATURE, `2A 9E 9A`. -/
def IsPsoSign (a : Apdu) : Prop := a.ins = 0x2A ∧ a.p1 = 0x9E ∧ a.p2 = 0x9A

/-- PSO HASH, `2A 90 81`. -/
def IsPsoHash (a : Apdu) : Prop := a.ins = 0x2A ∧ a.p1 = 0x90 ∧ a.p2 = 0x81

/-- INTERNAL AUTHENTICATE, `88`. -/
def IsIntAuth (a : Apdu) : Prop := a.ins = 0x88

instance (a : Apdu) : Decidable (IsPsoSign a) := inferInstanceAs (Decidable (_ ∧ _))

instance (a : Apdu) : Decidable (IsPsoHash a) := inferInstanceAs (Decidable (_ ∧ _))

instance (a : Apdu) : Decidable (IsIntAuth a) := inferInstanceAs (Decidable (_ = _))

/-- What the exchanges so far say about the card's security environment. -/
structure SecView where
  /-- The operation of the last MSE SET the card accepted, unless a signing command was
  refused since. -/
  installed : Option SecOperation
  /-- Whether the last exchange was a PSO HASH answered `90 00`. -/
  hashed : Bool
  deriving DecidableEq, Repr

/-- Before any exchange. -/
def SecView.init : SecView := ⟨none, false⟩

/-- The view one event later.  A transport error tells the card nothing. -/
def SecView.next (v : SecView) : Prog.Event → SecView
  | .exchange a (.answer sw1 sw2 _) =>
    { installed :=
        if a.ins = 0x22 ∧ a.p1 = 0x41 ∧ IsOk sw1 sw2 then
          if a.p2 = 0xb6 then some .sign
          else if a.p2 = 0xa4 then some .authenticate else v.installed
        else if (IsPsoSign a ∨ IsIntAuth a) ∧ ¬ IsOk sw1 sw2 then none
        else v.installed
      hashed := decide (IsPsoHash a ∧ IsOk sw1 sw2) }
  | .exchange _ (.error _) => { v with hashed := false }
  | .alloc _ => v

/-- The view after the history `t`. -/
def secView (t : List Prog.Event) : SecView := t.foldl SecView.next .init

/-- The commands the view allows: PSO COMPUTE SIGNATURE right after an accepted PSO HASH
with COMPUTE SIGNATURE installed, INTERNAL AUTHENTICATE with INTERNAL AUTHENTICATE
installed, and every other command. -/
def SecView.Permits (v : SecView) (a : Apdu) : Prop :=
  (IsPsoSign a → v.installed = some .sign ∧ v.hashed = true) ∧
    (IsIntAuth a → v.installed = some .authenticate)

/-- Every command of a history is allowed by the view at the point it is sent. -/
def SecView.Allows : SecView → List Prog.Event → Prop
  | _, [] => True
  | v, .exchange a r :: t => v.Permits a ∧ (v.next (.exchange a r)).Allows t
  | v, .alloc _ :: t => v.Allows t

theorem SecView.allows_append {v : SecView} {t u : List Prog.Event} :
    v.Allows (t ++ u) ↔ v.Allows t ∧ (t.foldl SecView.next v).Allows u := by
  induction t generalizing v with
  | nil => simp [SecView.Allows]
  | cons e t ih =>
    cases e with
    | exchange a r =>
      simp only [List.cons_append, SecView.Allows, List.append_eq, ih, List.foldl_cons, and_assoc]
    | alloc b => exact ih

/-- The view's step as a card's move, so that the triples of `Prog` apply. -/
def SecView.Move (v : SecView) (a : Apdu) (r : Reply) (v' : SecView) : Prop :=
  v' = v.next (.exchange a r)

theorem SecView.follows_move {v v' : SecView} {t : List Prog.Event} :
    Prog.Follows SecView.Move v t v' ↔ v' = t.foldl SecView.next v := by
  induction t generalizing v with
  | nil => exact Iff.rfl
  | cons e t ih =>
    cases e with
    | exchange a r => simp only [Prog.follows_exchange, SecView.Move, ih, exists_eq_left,
        List.foldl_cons]
    | alloc b => exact ih

/-! ## The other operations -/

/-- A command outside the security environment: neither MANAGE SECURITY ENVIRONMENT
(`22`), nor PERFORM SECURITY OPERATION (`2A`), nor INTERNAL AUTHENTICATE (`88`). -/
def KeepsSecEnv (a : Apdu) : Prop := a.ins ≠ 0x22 ∧ a.ins ≠ 0x2A ∧ a.ins ≠ 0x88

theorem SecView.next_installed {v : SecView} {a : Apdu} (h : KeepsSecEnv a) (r : Reply) :
    (v.next (.exchange a r)).installed = v.installed := by
  cases r with
  | error e => rfl
  | answer sw1 sw2 resp =>
    simp only [SecView.next, IsPsoSign, IsIntAuth, h.1, h.2.1, h.2.2, false_and, false_or,
      if_false]

/-- **A program that sends no security command changes nothing the view records.** -/
theorem hoare_keepsSecEnv {α : Type} {p : Prog α} (hp : p.SendsOnly KeepsSecEnv)
    {s : Option SecOperation} {g : α → Option SecOperation} (hg : p.Always fun x => g x = s) :
    Prog.Hoare SecView.Move (fun v => v.installed = s) p fun x v => v.installed = g x :=
  Prog.hoare_of_sendsOnly (fun _ _ r _ ha hm hv => by rw [hm, SecView.next_installed ha r, hv]) hp
    (hg.mono fun _ hx _ hv => hv.trans hx.symm)

/-- A program whose commands every view permits sends only what the view allows. -/
theorem allows_of_sendsOnly {α : Type} {ok : Apdu → Prop}
    (hok : ∀ v a, ok a → SecView.Permits v a)
    {p : Prog α} (hp : p.SendsOnly ok) : p.AlwaysT fun u _ => ∀ v, SecView.Allows v u := by
  induction p with
  | ret a => exact fun _ => trivial
  | transmit apdu k ih =>
    exact fun r => (ih r (hp.2 r)).mono fun _ _ h v => ⟨hok v apdu hp.1, h _⟩
  | alloc k ih => exact fun b => (ih b (hp b)).mono fun _ _ h v => h v
  | diverge => trivial

/-- The commands of the list `l`, none of them a signing one, are allowed from every
view. -/
theorem allows_of_insIn {α : Type} {cla : UInt8} {l : List UInt8}
    (hl : ∀ i ∈ l, i ≠ 0x2A ∧ i ≠ 0x88) {p : Prog α} (hp : p.SendsOnly (InsIn cla l)) :
    p.AlwaysT fun u _ => ∀ v, SecView.Allows v u :=
  allows_of_sendsOnly (fun _ _ ha =>
    ⟨fun hs => absurd hs.1 (hl _ ha.1).1, fun hi => absurd hi (hl _ ha.1).2⟩) hp

theorem CardCtl.instructions_keepSecEnv (cmd : CardCtl) :
    ∀ i ∈ cmd.instructions, i ≠ 0x22 ∧ i ≠ 0x2A ∧ i ≠ 0x88 := by
  cases cmd <;> simp only [CardCtl.instructions] <;> decide

variable (F : Framework)

/-! ## The security operations -/

section Next

variable {v : SecView} {a : Apdu} {sw1 sw2 : Nat} {resp : List UInt8}

/-- An MSE that is not an accepted SET of a computing template installs nothing. -/
theorem SecView.next_mse (h : a.ins = 0x22) (hn : ¬ (a.p1 = 0x41 ∧ IsOk sw1 sw2)) :
    (v.next (.exchange a (.answer sw1 sw2 resp))).installed = v.installed := by
  simp only [SecView.next, IsPsoSign, IsIntAuth, h]
  rw [if_neg fun h' => hn ⟨h'.2.1, h'.2.2⟩]
  simp

theorem SecView.next_mse_sign (h : a.ins = 0x22 ∧ a.p1 = 0x41 ∧ a.p2 = 0xb6)
    (hok : IsOk sw1 sw2) :
    (v.next (.exchange a (.answer sw1 sw2 resp))).installed = some .sign := by
  simp only [SecView.next, h, hok, and_self, if_true]

theorem SecView.next_mse_auth (h : a.ins = 0x22 ∧ a.p1 = 0x41 ∧ a.p2 = 0xa4)
    (hok : IsOk sw1 sw2) :
    (v.next (.exchange a (.answer sw1 sw2 resp))).installed = some .authenticate := by
  simp only [SecView.next, h, hok, and_self, if_true]
  rfl

/-- A signing command: kept on `90 00`, forgotten on any other status word. -/
theorem SecView.next_signing (h : IsPsoSign a ∨ IsIntAuth a) :
    (v.next (.exchange a (.answer sw1 sw2 resp))).installed =
      if IsOk sw1 sw2 then v.installed else none := by
  have hi : ¬ (a.ins = 0x22 ∧ a.p1 = 0x41 ∧ IsOk sw1 sw2) := fun h' => by
    rcases h with h | h
    · exact absurd (h.1.symm.trans h'.1) (by decide)
    · exact absurd ((show a.ins = 0x88 from h).symm.trans h'.1) (by decide)
  simp only [SecView.next, if_neg hi, h, true_and]
  by_cases hok : IsOk sw1 sw2 <;> simp [hok]

/-- A PSO HASH installs nothing, and marks the view when accepted. -/
theorem SecView.next_psoHash (h : IsPsoHash a) :
    (v.next (.exchange a (.answer sw1 sw2 resp))) =
      ⟨v.installed, decide (IsOk sw1 sw2)⟩ := by
  have hs : ¬ (IsPsoSign a ∨ IsIntAuth a) := by
    rintro (hs | hs)
    · exact absurd (h.2.1.symm.trans hs.2.1) (by decide)
    · exact absurd (h.1.symm.trans hs) (by decide)
  have hm : ¬ (a.ins = 0x22 ∧ a.p1 = 0x41 ∧ IsOk sw1 sw2) := fun h' =>
    absurd (h.1.symm.trans h'.1) (by decide)
  simp only [SecView.next, if_neg hm, hs, false_and, if_false, h, true_and]

end Next

variable (F : Framework)

theorem tryAuthenticate_view (card : ScCard) (env : ScSecurityEnv) :
    Prog.Hoare SecView.Move (fun v => v.installed = card.drvData.secOps)
      (tryAuthenticate F card env) fun x v => v.installed = x.2.secOps := by
  unfold tryAuthenticate
  split_ifs
  · refine Prog.hoare_send (fun _ _ _ hv hm => by rw [hm]; exact hv) fun sw1 sw2 resp => ?_
    split_ifs with hok
    · exact Prog.hoare_ret fun _ ⟨_, _, hm⟩ => by
        rw [hm, SecView.next_mse_auth ⟨rfl, rfl, rfl⟩ hok]
    · exact Prog.hoare_ret fun _ ⟨_, hv, hm⟩ => by
        rw [hm, SecView.next_mse rfl fun h => hok h.2, hv]
  · exact Prog.hoare_ret fun _ hv => hv

/-- **`starcos_set_security_env` records what the card accepted**: COMPUTE SIGNATURE
after an accepted `22 41 B6`, INTERNAL AUTHENTICATE after an accepted `22 41 A4`, and
otherwise what it held. -/
theorem setSecurityEnv_view (card : ScCard) (env : ScSecurityEnv) :
    Prog.Hoare SecView.Move (fun v => v.installed = card.drvData.secOps)
      (setSecurityEnv F card env) fun x v => v.installed = x.2.secOps := by
  unfold setSecurityEnv
  split
  · split_ifs
    · refine Prog.hoare_send (fun _ _ _ hv hm => by rw [hm]; exact hv) fun sw1 sw2 resp => ?_
      split_ifs <;> exact Prog.hoare_ret fun _ ⟨_, hv, hm⟩ => by
        rw [hm, SecView.next_mse rfl fun h => absurd (show (0x81 : UInt8) = 0x41 from h.1)
          (by decide), hv]
    · exact Prog.hoare_ret fun _ hv => hv
  · split_ifs
    · split
      · exact Prog.hoare_ret fun _ hv => hv
      · exact tryAuthenticate_view F card env
      · refine Prog.hoare_send (fun _ _ _ hv hm => by rw [hm]; exact hv) fun sw1 sw2 resp => ?_
        split_ifs with hok
        · exact Prog.hoare_ret fun _ ⟨_, _, hm⟩ => by
            rw [hm, SecView.next_mse_sign ⟨rfl, rfl, rfl⟩ hok]
        · exact (tryAuthenticate_view F card env).conseq
            (fun _ ⟨_, hv, hm⟩ => by rw [hm, SecView.next_mse rfl fun h => hok h.2, hv])
            fun _ _ h => h
    · exact Prog.hoare_ret fun _ hv => hv
  · exact tryAuthenticate_view F card env

theorem SecView.permits_psoHash (v : SecView) {a : Apdu} (h : IsPsoHash a) : v.Permits a :=
  ⟨fun hs => absurd (h.2.1.symm.trans hs.2.1) (by decide),
    fun ha => absurd (h.1.symm.trans ha) (by decide)⟩

theorem SecView.permits_intAuth {v : SecView} {a : Apdu} (h : IsIntAuth a)
    (hv : v.installed = some .authenticate) : v.Permits a :=
  ⟨fun hs => absurd (hs.1.symm.trans h) (by decide), fun _ => hv⟩

/-- Right after an accepted PSO HASH, with COMPUTE SIGNATURE installed, PSO COMPUTE
SIGNATURE is allowed. -/
theorem SecView.permits_after_hash {v : SecView} {h b : Apdu} {sw1 sw2 : Nat}
    {resp : List UInt8} (hh : IsPsoHash h) (hok : IsOk sw1 sw2)
    (hv : v.installed = some .sign) (hb : IsPsoSign b) :
    (v.next (.exchange h (.answer sw1 sw2 resp))).Permits b := by
  rw [SecView.next_psoHash hh]
  exact ⟨fun _ => ⟨hv, decide_eq_true hok⟩,
    fun ha => absurd (hb.1.symm.trans ha) (by decide)⟩

theorem signatureDone_trace (ex : StarcosExData) (outlen sw1 sw2 : Nat) (resp : List UInt8) :
    (signatureDone F ex outlen sw1 sw2 resp).AlwaysT fun t _ => t = [] := by
  unfold signatureDone
  split_ifs <;> rfl

theorem signatureDone_view {a : Apdu} (ha : IsPsoSign a ∨ IsIntAuth a) (ex : StarcosExData)
    (outlen sw1 sw2 : Nat) (resp : List UInt8) :
    Prog.Hoare SecView.Move
      (fun v => ∃ v₀ : SecView, v₀.installed = ex.secOps ∧
        SecView.Move v₀ a (.answer sw1 sw2 resp) v)
      (signatureDone F ex outlen sw1 sw2 resp) fun x v => v.installed = x.2.1.secOps := by
  unfold signatureDone
  split_ifs with hok <;> refine Prog.hoare_ret fun _ ⟨_, hv, hm⟩ => ?_ <;>
    rw [hm, SecView.next_signing ha] <;> simp [hok, hv, StarcosExData.zero]

/-- **`starcos_compute_signature` keeps the record while the card signs**, and clears it
exactly when the card refuses the signing command. -/
theorem computeSignature_view (card : ScCard) (data : List UInt8) (outlen : Nat) :
    Prog.Hoare SecView.Move (fun v => v.installed = card.drvData.secOps)
      (computeSignature F card data outlen) fun x v => v.installed = x.2.1.secOps := by
  unfold computeSignature
  dsimp only
  split_ifs
  · exact Prog.hoare_ret fun _ hv => hv
  split
  · refine Prog.hoare_send (fun _ _ _ hv hm => by rw [hm]; exact hv) fun sw1 sw2 resp => ?_
    have hhash : ∀ v : SecView, (∃ v₀ : SecView, v₀.installed = card.drvData.secOps ∧
        SecView.Move v₀ (psoHashApdu F card data) (.answer sw1 sw2 resp) v) →
        v.installed = card.drvData.secOps := fun _ ⟨_, hv, hm⟩ => by
      rw [hm, SecView.next_psoHash ⟨rfl, rfl, rfl⟩]
      exact hv
    split_ifs
    · refine Prog.hoare_send (fun _ v _ hv hm => by rw [hm]; exact hhash v hv) fun _ _ _ =>
        (signatureDone_view F (.inl ⟨rfl, rfl, rfl⟩) ..).conseq
          (fun _ ⟨v, hv, hm⟩ => ⟨v, hhash v hv, hm⟩) fun _ _ h => h
    · exact Prog.hoare_ret hhash
  · split
    · exact Prog.hoare_ret fun _ hv => hv
    · exact Prog.hoare_send (fun _ _ _ hv hm => by rw [hm]; exact hv) fun _ _ _ =>
        signatureDone_view F (a := internalAuthApdu F card _) (.inr rfl) ..
  · exact Prog.hoare_ret fun _ hv => hv

/-- PSO COMPUTE SIGNATURE comes right after an accepted PSO HASH in the signing branch,
and INTERNAL AUTHENTICATE is sent only in the branch that has it installed. -/
theorem computeSignature_allows (card : ScCard) (data : List UInt8) (outlen : Nat) :
    (computeSignature F card data outlen).AlwaysT fun u _ =>
      ∀ v : SecView, v.installed = card.drvData.secOps → v.Allows u := by
  unfold computeSignature
  dsimp only
  split_ifs
  · exact fun _ _ => trivial
  split
  · rename_i hs
    refine (Prog.alwaysT_send _ _ _ _).mpr ⟨fun _ v _ => ⟨v.permits_psoHash ⟨rfl, rfl, rfl⟩,
      trivial⟩, fun sw1 sw2 resp => ?_⟩
    split_ifs with hok
    · refine (Prog.alwaysT_send _ _ _ _).mpr ⟨fun _ v hv => ?_, fun _ _ _ =>
        (signatureDone_trace F ..).mono fun t _ ht v hv => ?_⟩ <;>
      [skip; subst ht] <;>
      exact ⟨v.permits_psoHash ⟨rfl, rfl, rfl⟩,
        SecView.permits_after_hash ⟨rfl, rfl, rfl⟩ hok (hv.trans hs) ⟨rfl, rfl, rfl⟩,
        trivial⟩
    · exact fun v _ => ⟨v.permits_psoHash ⟨rfl, rfl, rfl⟩, trivial⟩
  · rename_i hs
    split
    · exact fun _ _ => trivial
    · refine (Prog.alwaysT_send _ _ _ _).mpr ⟨fun _ v hv => ?_, fun _ _ _ =>
        (signatureDone_trace F ..).mono fun t _ ht v hv => ?_⟩ <;>
      [skip; subst ht] <;>
      exact ⟨SecView.permits_intAuth rfl (hv.trans hs), trivial⟩
  · exact fun _ _ => trivial

/-! ## Every operation, and whole runs -/

/-- **Each operation leaves the record where the exchanges put it.** -/
theorem exec_view (fuel : Nat) (card : ScCard) (op : DriverOp) :
    Prog.Hoare SecView.Move (fun v => v.installed = card.drvData.secOps) (op.exec F fuel card)
      fun x v => v.installed = x.2.drvData.secOps := by
  have hframe : ∀ {α : Type} {l : List UInt8} {p : Prog α} {g : α → ScCard},
      (∀ i ∈ l, i ≠ 0x22 ∧ i ≠ 0x2A ∧ i ≠ 0x88) → p.SendsOnly (InsIn card.cla l) →
      p.Always (fun x => (g x).drvData = card.drvData) →
      Prog.Hoare SecView.Move (fun v => v.installed = card.drvData.secOps) p
        fun x v => v.installed = (g x).drvData.secOps := fun hl hp hg =>
    hoare_keepsSecEnv (hp.mono fun _ ha => hl _ ha.1) (hg.mono fun _ hx => by rw [hx])
  cases op with
  | selectFile path w =>
    exact Prog.hoare_map (hframe (by decide) (selectFile_insIn F ..)
      ((selectFile_cacheOnly F fuel card path w).mono fun _ hx => hx.drvData))
  | logout =>
    exact Prog.hoare_map (hframe (by decide) (logout_insIn F card)
      (Prog.always_iff.mpr fun _ _ => rfl))
  | createFile file =>
    exact Prog.hoare_map (hframe (by decide) (createFile_insIn F card file)
      (Prog.always_iff.mpr fun _ _ => rfl))
  | setSecurityEnv env => exact Prog.hoare_map (setSecurityEnv_view F card env)
  | computeSignature data outlen => exact Prog.hoare_map (computeSignature_view F card data outlen)
  | cardCtl cmd =>
    exact Prog.hoare_map (hframe cmd.instructions_keepSecEnv (cardCtl_insIn F card cmd)
      (cardCtl_drvData F card cmd))

/-- **Each operation sends only what the view allows.** -/
theorem exec_allows (fuel : Nat) (card : ScCard) (op : DriverOp) :
    (op.exec F fuel card).AlwaysT fun u _ =>
      ∀ v : SecView, v.installed = card.drvData.secOps → v.Allows u := by
  have hframe : ∀ {l : List UInt8}, (∀ i ∈ l, i ≠ 0x2A ∧ i ≠ 0x88) →
      (op.exec F fuel card).SendsOnly (InsIn card.cla l) →
      (op.exec F fuel card).AlwaysT fun u _ =>
        ∀ v : SecView, v.installed = card.drvData.secOps → v.Allows u :=
    fun hl hp => (allows_of_insIn hl hp).mono fun _ _ h v _ => h v
  cases op with
  | selectFile path w =>
    exact hframe (l := selectIns) (by decide) (exec_insIn F fuel card (.selectFile path w))
  | logout => exact hframe (l := [0xA4]) (by decide) (exec_insIn F fuel card .logout)
  | createFile file =>
    exact hframe (l := [0x52, 0xE0]) (by decide) (exec_insIn F fuel card (.createFile file))
  | setSecurityEnv env =>
    exact hframe (l := [0x22]) (by decide) (exec_insIn F fuel card (.setSecurityEnv env))
  | computeSignature data outlen =>
    exact Prog.alwaysT_map.mpr (computeSignature_allows F card data outlen)
  | cardCtl cmd =>
    exact hframe (fun i hi => (cmd.instructions_keepSecEnv i hi).2)
      (exec_insIn F fuel card (.cardCtl cmd))

theorem session_view {card : ScCard} {t : List Prog.Event} (h : Session F card t) :
    (secView t).installed = card.drvData.secOps ∧ SecView.init.Allows t := by
  induction h with
  | init ht =>
    obtain ⟨rfl, -, hex⟩ := starcosInit_trace ht
    exact ⟨by rw [hex]; rfl, trivial⟩
  | @step card card' t u r fuel op _ ht ih =>
    have hf : Prog.Follows SecView.Move (secView t) u (u.foldl SecView.next (secView t)) :=
      SecView.follows_move.mpr rfl
    refine ⟨?_, SecView.allows_append.mpr ⟨ih.2, ?_⟩⟩
    · rw [secView, List.foldl_append]
      exact (exec_view F fuel card op).trace ht ih.1 hf
    · exact Prog.alwaysT_iff.mp (exec_allows F fuel card op) u _ ht (secView t) ih.1

/-- **The driver's record is what the exchanges say.**  After `starcos_init` and any
sequence of operations, under any answers of the card and any transport outcome,
`sec_ops` is the operation of the last MSE SET of a computing template the card
accepted (`22 41 B6`: COMPUTE SIGNATURE, `22 41 A4`: INTERNAL AUTHENTICATE), or `0` when
there is none or a PSO COMPUTE SIGNATURE or INTERNAL AUTHENTICATE was answered with
another status word than `90 00` since. -/
theorem session_secOps {card : ScCard} {t : List Prog.Event} (h : Session F card t) :
    card.drvData.secOps = (secView t).installed :=
  (session_view F h).1.symm

/-- A run that installs COMPUTE SIGNATURE: the card accepts `22 41 B6`, and the record
says so. -/
theorem session_secOps_sign :
    ∃ (card : ScCard) (t : List Prog.Event), Session Framework.opensc card t ∧
      card.drvData.secOps = some .sign ∧ card.drvData.secOps = (secView t).installed :=
  have hs : Session Framework.opensc _ _ :=
    .step 0 (.setSecurityEnv ⟨0x01, .sign, 0, 0x02, 0x12, []⟩)
      (@Session.init _ ⟨0, false, ⟨.fileId, []⟩, [], 128, 128, .zero⟩ _ _
        (.alloc true (.ret _)))
      (.transmit (.answer 0x90 0x00 []) (.ret _))
  ⟨_, _, hs, rfl, session_secOps _ hs⟩

/-- **The driver signs only as the card was set up.**  In every run, each PSO COMPUTE
SIGNATURE is sent right after a PSO HASH the card accepted, while the exchanges before
it leave COMPUTE SIGNATURE installed; each INTERNAL AUTHENTICATE is sent while they leave
INTERNAL AUTHENTICATE installed. -/
theorem session_permits {card : ScCard} {t t₁ t₂ : List Prog.Event} {a : Apdu} {r : Reply}
    (h : Session F card t) (ht : t = t₁ ++ .exchange a r :: t₂) :
    (IsPsoSign a → (secView t₁).installed = some .sign ∧ (secView t₁).hashed = true) ∧
      (IsIntAuth a → (secView t₁).installed = some .authenticate) := by
  have hall := (session_view F h).2
  rw [ht, SecView.allows_append] at hall
  exact hall.2.1

/-- A run that signs: after the accepted `22 41 B6`, `starcos_compute_signature` sends
PSO HASH, which the card accepts, and then PSO COMPUTE SIGNATURE, which the view
allows. -/
theorem session_permits_signature :
    ∃ (card : ScCard) (t t₁ : List Prog.Event) (a : Apdu) (r : Reply),
      Session Framework.opensc card t ∧ t = t₁ ++ [.exchange a r] ∧ IsPsoSign a ∧
      (secView t₁).installed = some .sign ∧ (secView t₁).hashed = true :=
  have hs : Session Framework.opensc _ _ :=
    .step 0 (.computeSignature [0x01] 8)
      (.step 0 (.setSecurityEnv ⟨0x01, .sign, 0, 0x02, 0x12, []⟩)
        (@Session.init _ ⟨0, false, ⟨.fileId, []⟩, [], 128, 128, .zero⟩ _ _
          (.alloc true (.ret _)))
        (.transmit (.answer 0x90 0x00 []) (.ret _)))
      (.transmit (.answer 0x90 0x00 []) (.transmit (.answer 0x90 0x00 [0xAB]) (.ret _)))
  ⟨_, _, [_, _, _], _, _, hs, rfl, ⟨rfl, rfl, rfl⟩,
    (@session_permits _ _ _ [_, _, _] _ _ _ hs rfl).1 ⟨rfl, rfl, rfl⟩⟩

end StarcosDriver
