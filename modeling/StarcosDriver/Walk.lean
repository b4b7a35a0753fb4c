import StarcosDriver.Peer

/-!
# The cold path walks the tree

What a PATH request is for: the card should end where SELECTs by the FIDs of the path,
one after another, take it.  `CardState.select` is one such SELECT on the card's tree and
`CardState.walk` the whole sequence, stopping at the first FID that reaches no file.
Neither reads the driver; they are the abstract side of this file.

`selectFile_walks` is the refinement: without a usable cache, `starcos_select_file`
called without `file_out` and run against the tree card leaves the card exactly where
the walk of the normalized path ends, returns no descriptor, and succeeds exactly when
every FID reached a file.  It is assembled from one lemma per level of the code:

* `selectFid_walks` --- a SELECT by FID with its probe is one step of the walk;
* `selectCold_walks` --- the loop without a cache is the walk, by induction along the
  loop;
* `selectFile_walks` --- the PATH branch, for a path the driver accepts and no usable
  cache, is that loop on the normalized path.

The path cache is there to skip part of this walk, and `selectFile_warm_walks` says that
it does so faithfully in the case it is built for: the card is where the walk of the
cached path leads, with no EF selected, and the request is that path, answered without a
command, or one FID more, answered by that FID's SELECT and its probe (`selectFid_sent`).
Outside that case the warm path need not walk the tree, since `bMatch` counts the FIDs
that agree at the same place and not a common prefix.

Only calls without `file_out` (`wantFile = false`) are studied: they send SELECTs
without FCI, and the tree card answers with no FCI, which the descriptor of an EF would
need.  What a descriptor holds is `Descriptor`'s subject.  The ISO translation is
assumed to refuse `6A 82`, as `IsoRejects` says, since otherwise the driver's loop goes
on past a missing file.
-/

namespace StarcosDriver

/-! ## The walk -/

/-- One SELECT by the FID `hi lo` on the tree: the card moves to what the FID reaches,
and stays where it is when it reaches nothing. -/
def CardState.select (s : CardState) (hi lo : UInt8) : CardState × Bool :=
  match s.resolve [hi, lo] with
  | some tgt => (s.enter tgt, true)
  | none => (s, false)

/-- SELECTs by the FIDs of `path` one after another, stopping at the first that reaches
no file: where the card ends, and whether every FID reached a file.  A FID without its
second byte reaches nothing. -/
def CardState.walk (s : CardState) : List UInt8 → CardState × Bool
  | [hi, lo] => s.select hi lo
  | hi :: lo :: rest =>
    if (s.select hi lo).2 then (s.select hi lo).1.walk rest else s.select hi lo
  | _ => (s, false)

/-- A walk that reaches its end went through an even number of bytes, at least two. -/
theorem CardState.walk_true_length {s : CardState} {l : List UInt8} (h : (s.walk l).2 = true) :
    l.length % 2 = 0 ∧ 2 ≤ l.length := by
  induction s, l using CardState.walk.induct with
  | case1 s hi lo => simp
  | case2 s hi lo rest hne hsel ih =>
    rw [CardState.walk.eq_2 s hi lo rest hne, if_pos hsel] at h
    have := ih h
    simp only [List.length_cons]
    omega
  | case3 s hi lo rest hne hsel =>
    rw [CardState.walk.eq_2 s hi lo rest hne, if_neg hsel] at h
    exact absurd h hsel
  | case4 l s h₁ h₂ => rw [CardState.walk.eq_3 s l h₁ h₂] at h; cases h

/-- One FID more is one SELECT more, from where a walk that reached its end stopped. -/
theorem CardState.walk_append_pair {s : CardState} {l : List UInt8} (h : (s.walk l).2 = true)
    (a b : UInt8) : s.walk (l ++ [a, b]) = (s.walk l).1.select a b := by
  induction s, l using CardState.walk.induct with
  | case1 s hi lo =>
    have hsel : (s.select hi lo).2 = true := h
    show s.walk [hi, lo, a, b] = (s.select hi lo).1.select a b
    rw [CardState.walk.eq_2 s hi lo [a, b] nofun, if_pos hsel]
    rfl
  | case2 s hi lo rest hne hsel ih =>
    rw [CardState.walk.eq_2 s hi lo rest hne, if_pos hsel] at h ⊢
    rw [List.cons_append, List.cons_append, CardState.walk.eq_2 s hi lo _ (by simp),
      if_pos hsel]
    exact ih h
  | case3 s hi lo rest hne hsel =>
    rw [CardState.walk.eq_2 s hi lo rest hne, if_neg hsel] at h
    exact absurd h hsel
  | case4 l s h₁ h₂ => rw [CardState.walk.eq_3 s l h₁ h₂] at h; cases h

/-- The PATH requests `starcos_select_file` goes on with: an even length from 2 to 6,
beginning `3F 00` when of length 6. -/
def AcceptedPath (path : List UInt8) : Prop :=
  path.length % 2 = 0 ∧ 2 ≤ path.length ∧ path.length ≤ 6 ∧
    (path.length = 6 → StartsWithMf path)

instance (path : List UInt8) : Decidable (AcceptedPath path) :=
  inferInstanceAs (Decidable (_ ∧ _))

/-! ## The driver against the tree card -/

/-- The outcome `o` of a run of a selection agrees with the walk `a`: the card is where
the walk ends, no descriptor is returned, and the result is `SC_SUCCESS` when every FID
reached a file and an error otherwise. -/
def WalksLike (o : Option (ScRet × ScCard × Option ScFile) × CardState × List Prog.Event)
    (a : CardState × Bool) : Prop :=
  o.2.1 = a.1 ∧ ∃ r c, o.1 = some (r, c, none) ∧ if a.2 then r = scSuccess else r.IsErr

/-- Only the result and the final card count, not the events. -/
theorem WalksLike.congr
    {o o' : Option (ScRet × ScCard × Option ScFile) × CardState × List Prog.Event}
    {a : CardState × Bool} (h : (o.1, o.2.1) = (o'.1, o'.2.1)) (h' : WalksLike o' a) :
    WalksLike o a := by
  obtain ⟨h₁, h₂⟩ := Prod.mk.inj h
  unfold WalksLike
  rw [h₁, h₂]
  exact h'

variable (F : Framework)

/-- The tree card on the SELECT by FID without FCI. -/
theorem treeCard_selectFidApdu (s : CardState) (card : ScCard) (hi lo : UInt8) :
    treeCard s (selectFidApdu F card hi lo false) =
      match s.resolve [hi, lo] with
      | some tgt => (s.enter tgt, .answer 0x90 0x00 [])
      | none => (s, .answer 0x6a 0x82 []) := rfl

/-- **A SELECT by FID is one step of the walk**: the probe tells the DF from the EF as
the tree has them, and a FID that reaches nothing is refused by `6A 82`. -/
theorem selectFid_walks (hF : F.IsoRejects) (card : ScCard) (hi lo : UInt8)
    (s : CardState) :
    WalksLike ((selectFid F card hi lo false).run treeCard s) (s.select hi lo) := by
  unfold selectFid Prog.send
  simp only [Prog.run, treeCard_selectFidApdu, CardState.select]
  cases s.resolve [hi, lo] with
  | none => exact ⟨rfl, _, _, rfl, checkSw_isErr F hF (by decide)⟩
  | some tgt => cases tgt <;> exact ⟨rfl, _, _, rfl, rfl⟩

theorem selectFidDone_run_events (card : ScCard) (hi lo : UInt8) (b : Bool) (sw1 sw2 : Nat)
    (resp : List UInt8) (s : CardState) :
    ((selectFidDone F card hi lo false b sw1 sw2 resp).run treeCard s).2.2 = [] := by
  simp only [selectFidDone, Bool.false_eq_true, ↓reduceIte]
  split_ifs <;> rfl

/-- **The commands of that step**: the SELECT, then the probe when the FID reached a
file. -/
theorem selectFid_sent (card : ScCard) (hi lo : UInt8) (s : CardState) :
    Prog.sent ((selectFid F card hi lo false).run treeCard s).2.2 =
      selectFidApdu F card hi lo false :: if (s.select hi lo).2 then [probeApdu card] else [] := by
  have hp2 : (selectFidApdu F card hi lo false).p2 = 0x0C := rfl
  unfold selectFid Prog.send
  simp only [Prog.run, treeCard_selectFidApdu, CardState.select, hp2]
  rcases Option.eq_none_or_eq_some (s.resolve [hi, lo]) with h | ⟨tgt, h⟩
  · -- refused by `6A 82`: nothing follows the SELECT
    simp [h, Prog.run, selectFidDone_run_events, IsOk]
  · -- answered `90 00`: the probe follows, whatever it is answered
    simp only [h, IsOk, Prog.run, Prog.sent_exchange, List.cons.injEq, true_and, and_self,
      or_true, ↓reduceIte, reduceCtorEq]
    split <;> simp [Prog.run, selectFidDone_run_events]

/-- **The loop without a cache is the walk.** -/
theorem selectCold_walks (hF : F.IsoRejects) (card : ScCard) (q : List UInt8)
    (s : CardState) : WalksLike ((selectCold F card q false).run treeCard s) (s.walk q) := by
  generalize hw : false = w
  induction card, q, w using selectCold.induct F generalizing s with
  | case1 card hi lo w => subst hw; exact selectFid_walks F hF card hi lo s
  | case2 card hi lo rest w hne ih =>
    subst hw
    rw [selectCold.eq_2 F card false hi lo rest hne, CardState.walk.eq_2 s hi lo rest hne]
    obtain ⟨hs, r, c, hr, hok⟩ := selectFid_walks F hF card hi lo s
    have hb := Prog.run_bind treeCard (selectFid F card hi lo false) (fun x => match x.1 with
      | .err e => .ret (.err e, x.2.1, none)
      | .ok _ => selectCold F x.2.1 rest false) s
    rw [hr, hs] at hb
    by_cases hsel : (s.select hi lo).2
    · rw [if_pos hsel] at hok ⊢
      subst hok
      exact WalksLike.congr hb (ih c _ rfl)
    · rw [if_neg hsel] at hok ⊢
      cases r with
      | ok n => exact absurd hok id
      | err e => exact WalksLike.congr hb ⟨rfl, _, _, rfl, by rw [if_neg hsel]; trivial⟩
  | case3 path card w h₁ h₂ =>
    rw [selectCold.eq_3 F card path w h₁ h₂, CardState.walk.eq_3 s path h₁ h₂]
    exact ⟨rfl, _, _, rfl, trivial⟩

/-- A cached path agrees with every request it begins, FID by FID. -/
theorem matchCount_append_self : ∀ (l t : List UInt8), l.length % 2 = 0 →
    matchCount l (l ++ t) = l.length
  | [], _, _ => rfl
  | [_], _, h => by simp at h
  | c₀ :: c₁ :: cs, t, h => by
    have ih := matchCount_append_self cs t (by simp only [List.length_cons] at h; omega)
    simp only [matchCount, List.cons_append, List.getD_cons_zero, List.getD_cons_succ,
      and_self, ↓reduceIte, List.drop_succ_cons, List.drop_zero, ih, List.length_cons]
    omega

theorem getD_append_pair (l : List UInt8) (a b : UInt8) :
    (l ++ [a, b]).getD l.length 0 = a ∧ (l ++ [a, b]).getD (l.length + 1) 0 = b := by
  simp [List.getD_eq_getElem?_getD, List.getElem?_append_right, List.getElem_append_right]

/-- **Without a usable cache, `starcos_select_file` walks the tree**: called without
`file_out` on a path it accepts, the card ends where the walk of the normalized path
ends, and the request succeeds exactly when every FID of it reached a file. -/
theorem selectFile_walks (hF : F.IsoRejects) (fuel : Nat) (card : ScCard)
    {path : List UInt8} (hp : AcceptedPath path)
    (hcold : ¬ CacheUsable card (normalizePath path).length) (s : CardState) :
    WalksLike ((selectFile F (fuel + 1) card ⟨.path, path⟩ false).run treeCard s)
      (s.walk (normalizePath path)) := by
  obtain ⟨heven, hlo, hhi, h6⟩ := hp
  show WalksLike ((selectPath F (selectFile F fuel) card path false).run treeCard s) _
  unfold selectPath
  rw [if_neg (by omega), if_neg fun h => h.2 (h6 h.1)]
  dsimp only
  rw [if_neg hcold]
  exact selectCold_walks F hF card _ s

/-- From a handle whose cache is not valid, the request `3F 00 5F 00` walks the tree. -/
theorem selectFile_walks_5f00 :
    AcceptedPath [0x3f, 0x00, 0x5f, 0x00] ∧
      ¬ CacheUsable ⟨0, false, ⟨.fileId, []⟩, [], 128, 128, .zero⟩
        (normalizePath [0x3f, 0x00, 0x5f, 0x00]).length ∧
      WalksLike ((selectFile Framework.opensc 1 ⟨0, false, ⟨.fileId, []⟩, [], 128, 128, .zero⟩
          ⟨.path, [0x3f, 0x00, 0x5f, 0x00]⟩ false).run treeCard
          ⟨[(0x5f, 0x00, [])], [], some .mf, false⟩)
        (CardState.walk ⟨[(0x5f, 0x00, [])], [], some .mf, false⟩
          (normalizePath [0x3f, 0x00, 0x5f, 0x00])) :=
  have hp : AcceptedPath [0x3f, 0x00, 0x5f, 0x00] := by decide
  have hcold : ¬ CacheUsable ⟨0, false, ⟨.fileId, []⟩, [], 128, 128, .zero⟩
      (normalizePath [0x3f, 0x00, 0x5f, 0x00]).length := by decide
  ⟨hp, hcold, selectFile_walks _ Framework.opensc_isoRejects 0 _ hp hcold _⟩

/-- **Where the cache is right, the warm path walks the tree too**: when the card is where
the walk of the cached path leads, with no EF selected, a request without `file_out` for
that path sends no command, and one for one FID more sends that FID's SELECT and, when it
reached a file, the probe; either way the card ends where the walk of the request
ends. -/
theorem selectFile_warm_walks (hF : F.IsoRejects) (fuel : Nat) {card : ScCard}
    (hc : card.cacheValid = true ∧ card.cache.type = .path) {s : CardState}
    (hat : s.walk card.cache.value = (s, true)) {path : List UInt8} (hp : AcceptedPath path) :
    (normalizePath path = card.cache.value →
      WalksLike ((selectFile F (fuel + 1) card ⟨.path, path⟩ false).run treeCard s)
          (s.walk (normalizePath path)) ∧
        Prog.sent ((selectFile F (fuel + 1) card ⟨.path, path⟩ false).run treeCard s).2.2 = []) ∧
    (∀ a b, normalizePath path = card.cache.value ++ [a, b] →
      WalksLike ((selectFile F (fuel + 1) card ⟨.path, path⟩ false).run treeCard s)
          (s.walk (normalizePath path)) ∧
        Prog.sent ((selectFile F (fuel + 1) card ⟨.path, path⟩ false).run treeCard s).2.2 =
          selectFidApdu F card a b false :: if (s.select a b).2 then [probeApdu card] else []) := by
  obtain ⟨heven, hlo, hhi, h6⟩ := hp
  have hok : (s.walk card.cache.value).2 = true := by rw [hat]
  obtain ⟨hce, hc2⟩ := CardState.walk_true_length hok
  have hpath : selectFile F (fuel + 1) card ⟨.path, path⟩ false =
      selectPath F (selectFile F fuel) card path false := rfl
  rw [hpath]
  unfold selectPath
  rw [if_neg (by omega), if_neg fun h => h.2 (h6 h.1)]
  dsimp only
  have hm : ∀ t, normalizePath path = card.cache.value ++ t →
      matchCount card.cache.value (normalizePath path) = card.cache.value.length :=
    fun t hq => hq ▸ matchCount_append_self _ t hce
  refine ⟨fun hq => ?_, fun a b hq => ?_⟩
  · -- a cache hit
    rw [if_pos ⟨hc.1, hc.2, hc2, by rw [hq]⟩, hm [] (by simpa using hq), hq, if_neg (by omega),
      if_neg (by omega), if_neg Bool.false_ne_true, hat]
    exact ⟨⟨rfl, _, _, rfl, rfl⟩, rfl⟩
  · -- one SELECT away
    rw [if_pos ⟨hc.1, hc.2, hc2, by rw [hq]; simp⟩, hm [a, b] hq, hq, if_pos (by simp),
      CardState.walk_append_pair hok, hat, (getD_append_pair _ a b).1,
      (getD_append_pair _ a b).2]
    exact ⟨selectFid_walks F hF card a b s, selectFid_sent F card a b s⟩

/-- A card in the DF `5F 00` is where the walk of its cached path `3F 00 5F 00` leads. -/
example : CardState.walk ⟨[(0x5f, 0x00, [])], [], some (.df 0x5f 0x00 []), false⟩
    [0x3f, 0x00, 0x5f, 0x00] =
      (⟨[(0x5f, 0x00, [])], [], some (.df 0x5f 0x00 []), false⟩, true) := by
  decide

/-- A card at the MF, with the cache naming the MF: the request `3F 00 5F 00` is one
SELECT away, and the DF it reaches is told from an EF by the probe. -/
theorem selectFile_warm_walks_5f00 :
    CardState.walk ⟨[(0x5f, 0x00, [])], [], some .mf, false⟩ [0x3f, 0x00] =
        (⟨[(0x5f, 0x00, [])], [], some .mf, false⟩, true) ∧
      AcceptedPath [0x3f, 0x00, 0x5f, 0x00] ∧
      normalizePath [0x3f, 0x00, 0x5f, 0x00] = [0x3f, 0x00] ++ [0x5f, 0x00] ∧
      WalksLike ((selectFile Framework.opensc 1 ⟨0, true, ⟨.path, [0x3f, 0x00]⟩, [], 128, 128, .zero⟩
          ⟨.path, [0x3f, 0x00, 0x5f, 0x00]⟩ false).run treeCard
          ⟨[(0x5f, 0x00, [])], [], some .mf, false⟩)
        (CardState.walk ⟨[(0x5f, 0x00, [])], [], some .mf, false⟩
          (normalizePath [0x3f, 0x00, 0x5f, 0x00])) ∧
      Prog.sent ((selectFile Framework.opensc 1 ⟨0, true, ⟨.path, [0x3f, 0x00]⟩, [], 128, 128, .zero⟩
          ⟨.path, [0x3f, 0x00, 0x5f, 0x00]⟩ false).run treeCard
          ⟨[(0x5f, 0x00, [])], [], some .mf, false⟩).2.2 =
        [selectFidApdu Framework.opensc ⟨0, true, ⟨.path, [0x3f, 0x00]⟩, [], 128, 128, .zero⟩
            0x5f 0x00 false,
          probeApdu ⟨0, true, ⟨.path, [0x3f, 0x00]⟩, [], 128, 128, .zero⟩] :=
  have hat : CardState.walk ⟨[(0x5f, 0x00, [])], [], some .mf, false⟩ [0x3f, 0x00] =
      (⟨[(0x5f, 0x00, [])], [], some .mf, false⟩, true) := by decide
  have hp : AcceptedPath [0x3f, 0x00, 0x5f, 0x00] := by decide
  ⟨hat, hp, rfl,
    (selectFile_warm_walks _ Framework.opensc_isoRejects 0 ⟨rfl, rfl⟩ hat hp).2 0x5f 0x00 rfl⟩

end StarcosDriver
