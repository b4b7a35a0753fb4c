import StarcosDriver.Peer
import StarcosDriver.Driver

/-!
# The path cache and the card's current DF

`card->cache.current_path` is the DF the driver believes the card is in: the path
`3F 00` or `3F 00 hi lo` of FIDs written by `starcos_select_fid`, or the AID written by
`starcos_select_aid`.  `Coherent card s` says that, while the cache is marked valid, it
names the current DF of the card `s`.

The driver and the card run side by side (`SysReach`): every operation is a trace of
the driver's program, and the card follows the trace's exchanges with its own moves.
Coherence is proved one operation at a time, as a triple against an honest card:

* `selectFid_coherent`, `selectAid_coherent`, and from them `selectFile_coherent` over
  every branch of the path cache and every depth of its recursion;
* the other operations send no SELECT and no DELETE (`KeepsDf`), so the card keeps its
  current DF, and they do not write the cache; `starcos_erase_card` marks it invalid.

`sysReach_coherent` assembles these over whole runs that do not call `starcos_logout`.
Logout selects the MF without touching the cache, and the driver trusts the card's
answers to tell a DF from an EF: `coherence_broken_by_logout_or_probe` is a run that
selects a DF and then logs out, and a run whose probe is answered against the card's
state.

`selectFile_warm_cold_differ` is a state of the deterministic `treeCard`, coherent with
the cache, on which a PATH request ends differently with the cache marked valid and
without it.
-/

namespace StarcosDriver

/-! ## Coherence -/

/-- While the cache is marked valid, a cached path of FIDs is the path of the card's
current DF, and a cached AID is the AID of the current DF. -/
def Coherent (card : ScCard) (s : CardState) : Prop :=
  card.cacheValid = true →
    (card.cache.type = .path → ∃ d, s.cur = some d ∧ card.cache.value = d.path) ∧
    (card.cache.type = .dfName → ∃ hi lo, s.cur = some (.df hi lo card.cache.value))

section Coherent

variable {card : ScCard} {s s' : CardState}

theorem Coherent.of_cur (h : Coherent card s) (hcur : s'.cur = s.cur) : Coherent card s' := by
  unfold Coherent
  rw [hcur]
  exact h

/-- Only the cache and its flag matter on the driver's side. -/
theorem Coherent.of_cache {c : ScCard} (h : Coherent card s) (hc : c.cache = card.cache)
    (hv : c.cacheValid = card.cacheValid) : Coherent c s := by
  unfold Coherent
  rw [hc, hv]
  exact h

theorem coherent_of_invalid (h : card.cacheValid = false) : Coherent card s := by
  intro hv
  simp_all

/-- The empty cache the framework leaves, of type `SC_PATH_TYPE_FILE_ID`. -/
theorem coherent_of_fileId (h : card.cache.type = .fileId) : Coherent card s := by
  intro _
  rw [h]
  exact ⟨nofun, nofun⟩

theorem coherent_dfCachePath {hi lo : UInt8} {d : Dir} (hd : s.resolve [hi, lo] = some (.dir d))
    (hcur : s'.cur = some d) : Coherent { card with cache := dfCachePath hi lo } s' := by
  intro _
  rw [CardState.resolve_dir hd]
  exact ⟨fun _ => ⟨d, hcur, rfl⟩, nofun⟩

theorem coherent_aid {hi lo : UInt8} {aid : List UInt8} (hcur : s.cur = some (.df hi lo aid)) :
    Coherent { card with cache := ⟨.dfName, aid⟩ } s :=
  fun _ => ⟨nofun, fun _ => ⟨hi, lo, hcur⟩⟩

end Coherent

/-! ## Selection against an honest card -/

/-- A command that is neither a SELECT nor a DELETE: the card keeps its current DF. -/
def KeepsDf (apdu : Apdu) : Prop := apdu.ins ≠ 0xA4 ∧ apdu.ins ≠ 0xE4

section Selection

variable {F : Framework}

theorem selected_of_not_refused {sw1 sw2 : Nat} (h : ¬ (sw1 ≠ 0x61 ∧ ¬ IsOk sw1 sw2)) :
    Selected sw1 sw2 :=
  (not_and_or.mp h).symm.imp not_not.mp not_not.mp

theorem keepsDf_of_ins {apdu : Apdu} {i : UInt8} (h : apdu.ins = i) (hi : i ≠ 0xA4 ∧ i ≠ 0xE4) :
    KeepsDf apdu := by
  rw [KeepsDf, h]
  exact hi

/-- The READ BINARY probe is neither a SELECT nor a DELETE. -/
theorem keepsDf_probeApdu (card : ScCard) : KeepsDf (probeApdu card) :=
  keepsDf_of_ins (i := 0xB0) rfl (by decide)

/-- The end of `starcos_select_fid` moves the cache to `hi lo` exactly when the SELECT
succeeded and a DF was detected. -/
theorem selectFidDone_coherent {P : CardState → Prop} {card : ScCard} {hi lo : UInt8}
    {w b : Bool} {sw1 sw2 : Nat} {resp : List UInt8}
    (h : ∀ s, P s → Coherent (if Selected sw1 sw2 ∧ b = true then
      { card with cache := dfCachePath hi lo } else card) s) :
    Prog.Hoare HonestStep P (selectFidDone F card hi lo w b sw1 sw2 resp)
      fun x s => Coherent x.2.1 s := by
  unfold selectFidDone
  by_cases herr : sw1 ≠ 0x61 ∧ ¬ IsOk sw1 sw2
  · have hn : ¬ Selected sw1 sw2 := fun hs => hs.elim herr.2 herr.1
    rw [if_pos herr]
    exact Prog.hoare_ret fun s hs => by simpa [hn] using h s hs
  · rw [if_neg herr]
    simp only [selected_of_not_refused herr, true_and] at h
    cases w
    · exact Prog.hoare_ret h
    refine Prog.hoare_allocOr h ?_
    cases b <;> simp only [Bool.false_eq_true, ↓reduceIte] at h ⊢
    · split <;> exact Prog.hoare_ret h
    · exact Prog.hoare_ret h

/-- **`starcos_select_fid` keeps the cache coherent.**  A SELECT answered `62 84` came
from a DF, and the card moves there on the second SELECT; a SELECT that succeeded is
followed by the probe, answered `69 86` exactly when the card entered a DF. -/
theorem selectFid_coherent (card : ScCard) (hi lo : UInt8) (w : Bool) :
    Prog.Hoare HonestStep (Coherent card) (selectFid F card hi lo w)
      fun x s => Coherent x.2.1 s := by
  unfold selectFid
  refine Prog.hoare_send (fun _ s s₁ hs h => h.1.error_eq ▸ hs) fun sw1 sw2 resp => ?_
  dsimp only
  split_ifs with h62 hsel
  · obtain ⟨hp2, rfl, rfl⟩ := h62
    refine Prog.hoare_send (fun _ s₁ s₂ ⟨s, hs, h₁⟩ h₂ => ?_) fun sw1' sw2' resp' => ?_
    · rw [h₂.1.error_eq, h₁.1.eq_of_not_selected rfl (by decide)]
      exact hs
    refine selectFidDone_coherent fun s₂ ⟨s₁, ⟨s, hs, h₁⟩, h₂⟩ => ?_
    obtain ⟨d, hd⟩ := h₁.2.2 rfl rfl hp2 resp rfl
    obtain rfl := h₁.1.eq_of_not_selected rfl (by decide)
    by_cases hs' : Selected sw1' sw2'
    · obtain ⟨tgt, htgt, rfl⟩ := h₂.1.selectFid_selected rfl rfl hs'
      obtain rfl : tgt = .dir d := Option.some.inj (htgt.symm.trans hd)
      rw [if_pos ⟨hs', rfl⟩]
      exact coherent_dfCachePath hd rfl
    · rw [if_neg fun h => hs' h.1, h₂.1.eq_of_not_selected rfl hs']
      exact hs
  · have hsel : Selected sw1 sw2 := hsel.symm
    refine Prog.hoare_send (fun _ s₁ s₂ _ h₂ => ?_) fun sw1' sw2' resp' => ?_
    · obtain ⟨_, _, _, he, _⟩ := h₂.2.1 rfl
      cases he
    refine selectFidDone_coherent fun s₂ ⟨s₁, ⟨s, hs, h₁⟩, h₂⟩ => ?_
    obtain ⟨tgt, htgt, rfl⟩ := h₁.1.selectFid_selected rfl rfl hsel
    have hcur : s₂.cur = (s.enter tgt).cur := h₂.1.cur_eq (keepsDf_probeApdu card).1
      (keepsDf_probeApdu card).2
    obtain ⟨_, _, _, he, hprobe⟩ := h₂.2.1 rfl
    cases he
    cases tgt with
    | dir d =>
      rw [if_pos ⟨hsel, by simpa using hprobe⟩]
      exact coherent_dfCachePath htgt hcur
    | ef =>
      rw [if_neg fun h => by simp_all]
      exact hs.of_cur hcur
  · refine selectFidDone_coherent fun s₁ ⟨s, hs, h₁⟩ => ?_
    have hn : ¬ Selected sw1 sw2 := fun h => hsel h.symm
    rw [if_neg fun h => hn h.1, h₁.1.eq_of_not_selected rfl hn]
    exact hs

/-- **`starcos_select_aid` keeps the cache coherent**: on success the card is in a DF with
that AID. -/
theorem selectAid_coherent (card : ScCard) (aid : List UInt8) (w : Bool) :
    Prog.Hoare HonestStep (Coherent card) (selectAid F card aid w)
      fun x s => Coherent x.2.1 s := by
  unfold selectAid
  refine Prog.hoare_send (fun _ s s₁ hs h => h.1.error_eq ▸ hs) fun sw1 sw2 resp => ?_
  have hq : ¬ (¬ IsOk sw1 sw2 ∧ sw1 ≠ 0x61) → ∀ s₁, (∃ s, Coherent card s ∧ HonestStep s
      { formatApdu card .case3Short 0xA4 0x04 0x0C with data := aid } (.answer sw1 sw2 resp) s₁) →
      Coherent { card with cache := ⟨.dfName, aid⟩ } s₁ := fun h s₁ ⟨s, _, h₁⟩ => by
    obtain ⟨hi, lo, rfl⟩ :=
      h₁.1.selectAid_selected rfl rfl ((not_and_or.mp h).imp not_not.mp not_not.mp)
    exact coherent_aid rfl
  split_ifs with h
  · exact Prog.hoare_ret fun s₁ ⟨s, hs, h₁⟩ =>
      h₁.1.eq_of_not_selected rfl (fun hs => hs.elim h.1 h.2) ▸ hs
  · exact Prog.hoare_allocOr (hq h) (Prog.hoare_ret (hq h))
  · exact Prog.hoare_ret (hq h)

/-- A first selection, then the rest of the path if it succeeded. -/
theorem hoare_bind_select {α : Type} {card : ScCard} {p : Prog (ScRet × ScCard × α)}
    {f : ScCard → Prog (ScRet × ScCard × Option ScFile)}
    (hp : Prog.Hoare HonestStep (Coherent card) p fun x s => Coherent x.2.1 s)
    (hf : ∀ c, Prog.Hoare HonestStep (Coherent c) (f c) fun x s => Coherent x.2.1 s) :
    Prog.Hoare HonestStep (Coherent card) (p.bind fun x => match x.1 with
      | .err e => .ret (.err e, x.2.1, none)
      | .ok _ => f x.2.1) fun x s => Coherent x.2.1 s :=
  Prog.hoare_bind hp fun ⟨r, c, _⟩ => by
    cases r with
    | err e => exact Prog.hoare_ret fun _ h => h
    | ok n => exact hf c

theorem selectCold_coherent (card : ScCard) (path : List UInt8) (w : Bool) :
    Prog.Hoare HonestStep (Coherent card) (selectCold F card path w)
      fun x s => Coherent x.2.1 s := by
  induction card, path, w using selectCold.induct F with
  | case1 card hi lo w => exact selectFid_coherent card hi lo w
  | case2 card hi lo rest w hne ih =>
    rw [selectCold.eq_2 F card w hi lo rest hne]
    exact hoare_bind_select (selectFid_coherent card hi lo false) ih
  | case3 path card w h₁ h₂ =>
    rw [selectCold.eq_3 F card path w h₁ h₂]
    exact Prog.hoare_ret fun _ h => h

theorem selectPath_coherent
    {recurse : ScCard → ScPath → Bool → Prog (ScRet × ScCard × Option ScFile)}
    (hrec : ∀ c p w, Prog.Hoare HonestStep (Coherent c) (recurse c p w)
      fun x s => Coherent x.2.1 s)
    (card : ScCard) (path : List UInt8) (w : Bool) :
    Prog.Hoare HonestStep (Coherent card) (selectPath F recurse card path w)
      fun x s => Coherent x.2.1 s := by
  refine selectPath_cases F (Prog.hoare_ret fun _ h => h)
    (fun _ _ _ _ _ _ _ => selectFid_coherent _ _ _ _)
    (fun _ _ _ _ _ _ _ _ => hoare_bind_select (selectFid_coherent _ _ _ _) fun c => hrec c _ w)
    (fun _ _ _ _ _ _ _ => ?_) fun _ _ => selectCold_coherent _ _ _
  split
  · exact Prog.hoare_allocOr (fun _ h => h) (Prog.hoare_ret fun _ h => h)
  · exact Prog.hoare_ret fun _ h => h

/-- **`starcos_select_file` keeps the cache coherent**, on every branch of the path cache
and at every depth of its recursion. -/
theorem selectFile_coherent (fuel : Nat) (card : ScCard) (path : ScPath) (w : Bool) :
    Prog.Hoare HonestStep (Coherent card) (selectFile F fuel card path w)
      fun x s => Coherent x.2.1 s := by
  induction fuel generalizing card path w with
  | zero => trivial
  | succ fuel ih =>
    unfold selectFile
    split
    · split_ifs
      · exact Prog.hoare_ret fun _ h => h
      · exact selectFid_coherent _ _ _ _
    · split_ifs
      · exact Prog.hoare_ret fun _ h => h
      · exact selectAid_coherent _ _ _
    · exact selectPath_coherent ih card _ w
    · exact Prog.hoare_ret fun _ h => h

end Selection

/-! ## The other operations -/

section Others

variable {F : Framework}

/-- **A program that sends neither SELECT nor DELETE, and keeps the cache, keeps it
coherent.** -/
theorem hoare_keepsDf {α : Type} {p : Prog α} {card : ScCard} {g : α → ScCard}
    (hp : p.SendsOnly KeepsDf)
    (hg : p.Always fun a => (g a).cache = card.cache ∧ (g a).cacheValid = card.cacheValid) :
    Prog.Hoare HonestStep (Coherent card) p fun a s => Coherent (g a) s :=
  Prog.hoare_of_sendsOnly (fun _ _ _ _ hk h hs => hs.of_cur (h.1.cur_eq hk.1 hk.2)) hp
    (hg.mono fun _ hc _ hs => hs.of_cache hc.1 hc.2)

/-- One command that is neither a SELECT nor a DELETE, then a program that sends none. -/
theorem keepsDf_send {α : Type} {apdu : Apdu} {i : UInt8} (h : apdu.ins = i)
    (hi : i ≠ 0xA4 ∧ i ≠ 0xE4) {fail : ScError → α} {k : Nat → Nat → List UInt8 → Prog α}
    (hk : ∀ sw1 sw2 resp, (k sw1 sw2 resp).SendsOnly KeepsDf) :
    (Prog.send apdu fail k).SendsOnly KeepsDf :=
  (Prog.sendsOnly_send _ _ _).mpr ⟨keepsDf_of_ins h hi, hk⟩

/-- A command whose refusal is returned, then `k`. -/
theorem keepsDf_send_checked {α : Type} {apdu : Apdu} {i : UInt8} (h : apdu.ins = i)
    (hi : i ≠ 0xA4 ∧ i ≠ 0xE4) {fail : ScError → α} {c : Nat → Nat → Prop}
    [∀ sw1 sw2, Decidable (c sw1 sw2)] {g : Nat → Nat → α} {k : Nat → Nat → List UInt8 → Prog α}
    (hk : ∀ sw1 sw2 resp, (k sw1 sw2 resp).SendsOnly KeepsDf) :
    (Prog.send apdu fail fun sw1 sw2 resp =>
      if c sw1 sw2 then .ret (g sw1 sw2) else k sw1 sw2 resp).SendsOnly KeepsDf :=
  keepsDf_send h hi fun sw1 sw2 resp => Prog.sendsOnly_ite (fun _ => trivial) fun _ => hk sw1 sw2 resp

theorem createByData_keepsDf (card : ScCard) (data : CreateData) :
    (createByData F card data).SendsOnly KeepsDf := by
  cases data with
  | mf => exact keepsDf_send (i := 0xE0) rfl (by decide) fun _ _ _ => trivial
  | df => exact keepsDf_send (i := 0x52) rfl (by decide) fun _ _ _ =>
      keepsDf_send (i := 0xE0) rfl (by decide) fun _ _ _ => trivial
  | ef => exact keepsDf_send (i := 0xE0) rfl (by decide) fun _ _ _ => trivial
  | unknown => trivial

theorem createFile_keepsDf (card : ScCard) (file : ScFile) :
    (createFile F card file).SendsOnly KeepsDf := by
  unfold createFile
  split_ifs
  · split
    · exact createByData_keepsDf _ _
    · trivial
  · trivial

theorem createEnd_keepsDf (card : ScCard) (file : ScFile) :
    (createEnd F card file).SendsOnly KeepsDf :=
  Prog.sendsOnly_ite (fun _ => trivial) fun _ =>
    keepsDf_send (i := 0xE0) rfl (by decide) fun _ _ _ => trivial

theorem writeKeyLoop_keepsDf (card : ScCard) (mode kid : Nat) (key : List UInt8)
    (offset tlen : Nat) : (writeKeyLoop F card mode kid key offset tlen).SendsOnly KeepsDf := by
  induction offset, tlen using writeKeyLoop.induct F card mode kid key with
  | case1 offset =>
    rw [writeKeyLoop, if_pos rfl]
    trivial
  | case2 offset tlen h clen ih =>
    rw [writeKeyLoop, if_neg h]
    exact keepsDf_send_checked (i := 0xf4) rfl (by decide) fun _ _ _ => ih

theorem writeKey_keepsDf (card : ScCard) (data : WkeyData) :
    (writeKey F card data).SendsOnly KeepsDf := by
  have hchunks : (if data.key = none ∧ data.mode = 0 then Prog.ret scSuccess
      else writeKeyLoop F card data.mode data.kid (data.key.getD []) 0
        (data.key.getD []).length).SendsOnly KeepsDf :=
    Prog.sendsOnly_ite (fun _ => trivial) fun _ => writeKeyLoop_keepsDf _ _ _ _ _ _
  unfold writeKey
  dsimp only
  exact Prog.sendsOnly_ite
    (fun _ => keepsDf_send_checked (i := 0xf4) rfl (by decide) fun _ _ _ => hchunks)
    fun _ => hchunks

theorem genKey_keepsDf (card : ScCard) (data : GenKeyData) (rbuf0 : List UInt8) :
    (genKey F card data rbuf0).SendsOnly KeepsDf :=
  keepsDf_send_checked (i := 0x46) rfl (by decide) fun _ _ _ =>
    keepsDf_send_checked (i := 0xf0) rfl (by decide) fun _ _ _ => by simp

theorem getSerialnr_keepsDf (card : ScCard) (hasOut : Bool) :
    (getSerialnr F card hasOut).SendsOnly KeepsDf :=
  Prog.sendsOnly_ite (fun _ => trivial) fun _ => Prog.sendsOnly_ite (fun _ => trivial) fun _ =>
    keepsDf_send_checked (i := 0xf6) rfl (by decide) fun _ _ _ => trivial

theorem tryAuthenticate_keepsDf (card : ScCard) (env : ScSecurityEnv) :
    (tryAuthenticate F card env).SendsOnly KeepsDf :=
  Prog.sendsOnly_ite (fun _ => keepsDf_send_checked (i := 0x22) rfl (by decide)
    fun _ _ _ => trivial) fun _ => trivial

theorem setSecurityEnv_keepsDf (card : ScCard) (env : ScSecurityEnv) :
    (setSecurityEnv F card env).SendsOnly KeepsDf := by
  unfold setSecurityEnv
  split
  · exact Prog.sendsOnly_ite (fun _ => keepsDf_send_checked (i := 0x22) rfl (by decide)
      fun _ _ _ => trivial) fun _ => trivial
  · refine Prog.sendsOnly_ite (fun _ => ?_) fun _ => trivial
    split
    · trivial
    · exact tryAuthenticate_keepsDf _ _
    · exact keepsDf_send (i := 0x22) rfl (by decide) fun _ _ _ =>
        Prog.sendsOnly_ite (fun _ => trivial) fun _ => tryAuthenticate_keepsDf _ _
  · exact tryAuthenticate_keepsDf _ _

theorem computeSignature_keepsDf (card : ScCard) (data : List UInt8) (outlen : Nat) :
    (computeSignature F card data outlen).SendsOnly KeepsDf := by
  have hdone : ∀ ex sw1 sw2 resp, (signatureDone F ex outlen sw1 sw2 resp).SendsOnly KeepsDf :=
    fun _ _ _ _ => Prog.sendsOnly_ite (fun _ => trivial) fun _ => trivial
  unfold computeSignature
  dsimp only
  refine Prog.sendsOnly_ite (fun _ => trivial) fun _ => ?_
  split
  · exact keepsDf_send_checked (i := 0x2A) rfl (by decide) fun _ _ _ =>
      keepsDf_send (i := 0x2A) rfl (by decide) fun _ _ _ => hdone _ _ _ _
  · split
    · trivial
    · exact keepsDf_send (i := 0x88) rfl (by decide) fun _ _ _ => hdone _ _ _ _
  · trivial

/-- `starcos_erase_card` deletes the MF and marks the cache invalid on any answer. -/
theorem eraseCard_coherent (card : ScCard) :
    Prog.Hoare HonestStep (Coherent card) (eraseCard F card) fun x s => Coherent x.2 s := by
  unfold eraseCard
  refine Prog.hoare_send (fun _ s s₁ hs h => h.1.error_eq ▸ hs) fun sw1 sw2 resp => ?_
  split_ifs <;> exact Prog.hoare_ret fun _ _ => coherent_of_invalid rfl

end Others

/-! ## Runs -/

/-- The handles and card states a run reaches, with each operation allowed by `allowed`,
against a card whose moves are `step`: `starcos_init` on a handle whose cache is empty, as
the framework leaves it (marked valid or not), then operations one after another, the
card following each operation's exchanges. -/
inductive SysReach (F : Framework) (step : CardState → Apdu → Reply → CardState → Prop)
    (allowed : DriverOp → Prop) : ScCard → CardState → Prop
  | init {card₀ card : ScCard} {s : CardState} :
      card₀.cache = ⟨.fileId, []⟩ → (starcosInit card₀).Yields (scSuccess, card) →
      SysReach F step allowed card s
  | step {card card' : ScCard} {s s' : CardState} {t : List Prog.Event} {r : ScRet}
      (fuel : Nat) (op : DriverOp) : allowed op → SysReach F step allowed card s →
      Prog.Trace (op.exec F fuel card) t (r, card') → Prog.Follows step s t s' →
      SysReach F step allowed card' s'

variable (F : Framework)

theorem starcosInit_cache (card : ScCard) :
    (starcosInit card).Always fun x => x.2.cache = card.cache := by
  simp [starcosInit]

/-- Every operation but `starcos_logout` keeps the cache coherent with an honest card. -/
theorem exec_coherent (fuel : Nat) (card : ScCard) (op : DriverOp) (hop : op ≠ .logout) :
    Prog.Hoare HonestStep (Coherent card) (op.exec F fuel card) fun x s => Coherent x.2 s := by
  have hkeep : ∀ {α : Type} {p : Prog α}, p.SendsOnly KeepsDf →
      Prog.Hoare HonestStep (Coherent card) p fun _ s => Coherent card s := fun hp =>
    hoare_keepsDf hp (Prog.always_iff.mpr fun _ _ => ⟨rfl, rfl⟩)
  cases op with
  | selectFile path w => exact Prog.hoare_map (selectFile_coherent fuel card path w)
  | logout => exact absurd rfl hop
  | createFile file => exact Prog.hoare_map (hkeep (createFile_keepsDf card file))
  | setSecurityEnv env => exact Prog.hoare_map (hkeep (setSecurityEnv_keepsDf card env))
  | computeSignature data outlen =>
    exact Prog.hoare_map (hkeep (computeSignature_keepsDf card data outlen))
  | cardCtl cmd =>
    refine Prog.hoare_map ?_
    cases cmd with
    | createFile data => exact Prog.hoare_map (hkeep (createByData_keepsDf card data))
    | createEnd file => exact Prog.hoare_map (hkeep (createEnd_keepsDf card file))
    | writeKey data => exact Prog.hoare_map (hkeep (writeKey_keepsDf card data))
    | generateKey data rbuf0 => exact Prog.hoare_map (hkeep (genKey_keepsDf card data rbuf0))
    | eraseCard => exact Prog.hoare_map (eraseCard_coherent card)
    | getSerialnr hasOut =>
      exact hoare_keepsDf (g := fun x => x.2.1) (getSerialnr_keepsDf card hasOut)
        ((getSerialnr_card F card hasOut).mono fun _ hx => by
          dsimp only
          rw [hx]
          exact ⟨rfl, rfl⟩)
    | unsupported => exact Prog.hoare_ret fun _ h => h

/-- **Path-cache coherence over whole runs.**  Against an honest card, after every
operation of a run that does not call `starcos_logout`, a cache marked valid names the
card's current DF. -/
theorem sysReach_coherent {card : ScCard} {s : CardState}
    (h : SysReach F HonestStep (· ≠ .logout) card s) : Coherent card s := by
  induction h with
  | init h₀ hy =>
    refine coherent_of_fileId ?_
    rw [Prog.always_iff.mp (starcosInit_cache _) _ hy, h₀]
  | step fuel op hop _ ht hf ih => exact (exec_coherent F fuel _ op hop).trace ht ih hf

/-- From a handle whose cache is empty and marked valid, and a card at the MF with a DF
`5F 00`, a selection of that DF by FID, answered as an honest card answers. -/
theorem sysReach_select_5f00 {step : CardState → Apdu → Reply → CardState → Prop}
    {allowed : DriverOp → Prop} (hop : allowed (.selectFile ⟨.fileId, [0x5f, 0x00]⟩ false))
    (hstep : ∀ s apdu r s', HonestStep s apdu r s' → step s apdu r s') :
    SysReach F step allowed ⟨0, true, ⟨.path, [0x3f, 0x00, 0x5f, 0x00]⟩, [], 128, 128, .zero⟩
      ⟨[(0x5f, 0x00, [])], [], some (.df 0x5f 0x00 []), false⟩ :=
  .step 1 _ hop (@SysReach.init _ _ _ ⟨0, true, ⟨.fileId, []⟩, [], 128, 128, .zero⟩ _
      ⟨[(0x5f, 0x00, [])], [], some .mf, false⟩ rfl ⟨_, .alloc true (.ret _)⟩)
    (.transmit (.answer 0x90 0x00 []) (.transmit (.answer 0x69 0x86 []) (.ret _)))
    ⟨_, hstep _ _ _ _ ⟨.selectFid rfl rfl (Or.inl ⟨rfl, rfl⟩) rfl, honest_select rfl (by decide)⟩,
      _, hstep _ _ _ _ ⟨.other (by decide) (by decide) rfl,
        fun _ => ⟨0x69, 0x86, [], rfl, by decide⟩, fun h => absurd h (by decide)⟩, rfl⟩

/-- A run that selects the DF `5F 00` by FID: the cache names it, and the card is in it. -/
theorem sysReach_coherent_select_5f00 :
    SysReach Framework.opensc HonestStep (· ≠ .logout)
        ⟨0, true, ⟨.path, [0x3f, 0x00, 0x5f, 0x00]⟩, [], 128, 128, .zero⟩
        ⟨[(0x5f, 0x00, [])], [], some (.df 0x5f 0x00 []), false⟩ ∧
      Coherent ⟨0, true, ⟨.path, [0x3f, 0x00, 0x5f, 0x00]⟩, [], 128, 128, .zero⟩
        ⟨[(0x5f, 0x00, [])], [], some (.df 0x5f 0x00 []), false⟩ :=
  have h := sysReach_select_5f00 Framework.opensc nofun fun _ _ _ _ h => h
  ⟨h, sysReach_coherent Framework.opensc h⟩

/-- **Logout, and a probe answered against the card's state, leave a stale cache.**
After the DF `5F 00` was selected by FID, `starcos_logout` selects the MF and leaves the
cache, still marked valid, on `3F 00 5F 00`.  And when the card selects its EF `EF 01`
but answers the probe `69 86`, the driver takes `EF 01` for a DF and caches
`3F 00 EF 01`, while the card stays at the MF. -/
theorem coherence_broken_by_logout_or_probe :
    (SysReach Framework.opensc CardStep (fun _ => True)
        ⟨0, true, ⟨.path, [0x3f, 0x00, 0x5f, 0x00]⟩, [], 128, 128, .zero⟩
        ⟨[(0x5f, 0x00, [])], [], some .mf, false⟩ ∧
      ¬ Coherent ⟨0, true, ⟨.path, [0x3f, 0x00, 0x5f, 0x00]⟩, [], 128, 128, .zero⟩
        ⟨[(0x5f, 0x00, [])], [], some .mf, false⟩) ∧
    (SysReach Framework.opensc CardStep (· ≠ .logout)
        ⟨0, true, ⟨.path, [0x3f, 0x00, 0xef, 0x01]⟩, [], 128, 128, .zero⟩
        ⟨[], [(none, 0xef, 0x01)], some .mf, true⟩ ∧
      ¬ Coherent ⟨0, true, ⟨.path, [0x3f, 0x00, 0xef, 0x01]⟩, [], 128, 128, .zero⟩
        ⟨[], [(none, 0xef, 0x01)], some .mf, true⟩) := by
  refine ⟨⟨.step 0 .logout trivial
      (sysReach_select_5f00 Framework.opensc trivial fun _ _ _ _ h => h.1)
      (.transmit (.answer 0x90 0x00 []) (.ret _))
      ⟨_, .selectFid rfl rfl (Or.inl ⟨rfl, rfl⟩) rfl, rfl⟩, fun h => ?_⟩,
    ⟨.step 1 (.selectFile ⟨.fileId, [0xef, 0x01]⟩ false) nofun
      (@SysReach.init _ _ _ ⟨0, true, ⟨.fileId, []⟩, [], 128, 128, .zero⟩ _
        ⟨[], [(none, 0xef, 0x01)], some .mf, false⟩ rfl ⟨_, .alloc true (.ret _)⟩)
      (.transmit (.answer 0x90 0x00 []) (.transmit (.answer 0x69 0x86 []) (.ret _)))
      ⟨_, .selectFid rfl rfl (Or.inl ⟨rfl, rfl⟩) rfl, _, .other (by decide) (by decide) rfl,
        rfl⟩, fun h => ?_⟩⟩
  all_goals
    obtain ⟨d, hd, hpath⟩ := (h rfl).1 rfl
    cases hd
    exact absurd hpath (by decide)

/-! ## A cache deeper than the request -/

/-- **The warm path and the cold path part ways.**  The card is in the DF `5F 00`, which
the cache names, and the MF holds an EF `EF 01`.  For the request `3F 00 EF 01`, the cache
marked valid gives `bMatch = 2`, and `EF 01` is selected from inside `5F 00`: the card
refuses, and stays in `5F 00`.  Without the cache, the MF is selected first, then
`EF 01`: success, with the card at the MF and the EF selected. -/
theorem selectFile_warm_cold_differ (card : ScCard) :
    Coherent { card with cacheValid := true, cache := ⟨.path, [0x3f, 0x00, 0x5f, 0x00]⟩ }
        ⟨[(0x5f, 0x00, [0xa0])], [(none, 0xef, 0x01)], some (.df 0x5f 0x00 [0xa0]), false⟩ ∧
      ((selectFile F 2 { card with cacheValid := true, cache := ⟨.path, [0x3f, 0x00, 0x5f, 0x00]⟩ }
          ⟨.path, [0x3f, 0x00, 0xef, 0x01]⟩ false).run treeCard
          ⟨[(0x5f, 0x00, [0xa0])], [(none, 0xef, 0x01)], some (.df 0x5f 0x00 [0xa0]), false⟩).1 =
        some (checkSw F 0x6a 0x82,
          { card with cacheValid := true, cache := ⟨.path, [0x3f, 0x00, 0x5f, 0x00]⟩ }, none) ∧
      ((selectFile F 2 { card with cacheValid := true, cache := ⟨.path, [0x3f, 0x00, 0x5f, 0x00]⟩ }
          ⟨.path, [0x3f, 0x00, 0xef, 0x01]⟩ false).run treeCard
          ⟨[(0x5f, 0x00, [0xa0])], [(none, 0xef, 0x01)], some (.df 0x5f 0x00 [0xa0]), false⟩).2.1 =
        ⟨[(0x5f, 0x00, [0xa0])], [(none, 0xef, 0x01)], some (.df 0x5f 0x00 [0xa0]), false⟩ ∧
      ((selectFile F 2 { card with cacheValid := false, cache := ⟨.path, [0x3f, 0x00, 0x5f, 0x00]⟩ }
          ⟨.path, [0x3f, 0x00, 0xef, 0x01]⟩ false).run treeCard
          ⟨[(0x5f, 0x00, [0xa0])], [(none, 0xef, 0x01)], some (.df 0x5f 0x00 [0xa0]), false⟩).1 =
        some (scSuccess, { card with cacheValid := false, cache := ⟨.path, [0x3f, 0x00]⟩ }, none) ∧
      ((selectFile F 2 { card with cacheValid := false, cache := ⟨.path, [0x3f, 0x00, 0x5f, 0x00]⟩ }
          ⟨.path, [0x3f, 0x00, 0xef, 0x01]⟩ false).run treeCard
          ⟨[(0x5f, 0x00, [0xa0])], [(none, 0xef, 0x01)], some (.df 0x5f 0x00 [0xa0]), false⟩).2.1 =
        ⟨[(0x5f, 0x00, [0xa0])], [(none, 0xef, 0x01)], some .mf, true⟩ :=
  ⟨fun _ => ⟨fun _ => ⟨_, rfl, rfl⟩, nofun⟩, rfl, rfl, rfl, rfl⟩

end StarcosDriver
