import StarcosDriver.Select

/-!
# The card as a peer

A STARCOS SPK 2.3 card holds a file tree one level deep: the MF `3F 00`, DFs below it,
each with a FID and an AID, and EFs below the MF or a DF.  It has a current DF, and
possibly a selected EF in it.  `CardStep s apdu r s'` says what the card may do with a
command: a SELECT that succeeds (`90 00` or `61 xx`) moves it to what the FID or the AID
names, DELETE of the MF answered `90 00` empties it, a command whose transmission failed
was not executed, and every other command leaves the current DF where it is.  The
answers are free: a SELECT of an existing file may be refused, and the READ BINARY
probe may be answered anything.

`Honest` is what the driver's guesses about DFs and EFs take for granted: the probe is
answered, by `69 86` exactly when no EF is selected, and `62 84` to a SELECT with FCI
only comes from a DF.

`treeCard` is a card that answers every command from its tree, deterministically;
`treeCard_honest` says that it is one of the honest cards.
-/

namespace StarcosDriver

/-- A DF of the card: the MF, or a DF below it with its FID and its AID. -/
inductive Dir where
  | mf
  | df (hi lo : UInt8) (aid : List UInt8)
  deriving DecidableEq, Repr

/-- The path of a DF from the MF, as the driver caches it. -/
def Dir.path : Dir → List UInt8
  | .mf => [0x3f, 0x00]
  | .df hi lo _ => [0x3f, 0x00, hi, lo]

/-- The FID of a DF below the MF, `none` for the MF. -/
def Dir.fid : Dir → Option (UInt8 × UInt8)
  | .mf => none
  | .df hi lo _ => some (hi, lo)

/-- What a SELECT by FID reaches: a DF, or an EF of the current DF. -/
inductive Target where
  | dir (d : Dir)
  | ef
  deriving DecidableEq, Repr

/-- The card: its tree, its current DF (none once the MF is deleted), and whether an EF
is selected. -/
structure CardState where
  /-- The DFs below the MF: FID and AID. -/
  dfs : List (UInt8 × UInt8 × List UInt8)
  /-- The EFs: the FID of their DF (`none` for the MF), then their own FID. -/
  efs : List (Option (UInt8 × UInt8) × UInt8 × UInt8)
  cur : Option Dir
  ef : Bool
  deriving DecidableEq, Repr

/-- The card once its MF is deleted. -/
def CardState.empty : CardState := ⟨[], [], none, false⟩

/-- What SELECT by the FID `hi lo` of a child reaches from the DF `d`: below the MF a DF
or an EF, below a DF an EF. -/
def CardState.child (s : CardState) (hi lo : UInt8) : Dir → Option Target
  | .mf =>
    match s.dfs.find? (fun x => x.1 = hi ∧ x.2.1 = lo) with
    | some (_, _, aid) => some (.dir (.df hi lo aid))
    | none => if (none, hi, lo) ∈ s.efs then some .ef else none
  | .df dh dl _ => if (some (dh, dl), hi, lo) ∈ s.efs then some .ef else none

/-- What SELECT by FID `data` reaches from the current DF: `3F 00` is the MF, another FID
a child of the current DF. -/
def CardState.resolve (s : CardState) : List UInt8 → Option Target
  | [hi, lo] =>
    if hi = 0x3f ∧ lo = 0x00 then some (.dir .mf) else s.cur.bind (s.child hi lo)
  | _ => none

theorem CardState.resolve_pair (s : CardState) (hi lo : UInt8) :
    s.resolve [hi, lo] =
      if hi = 0x3f ∧ lo = 0x00 then some (.dir .mf) else s.cur.bind (s.child hi lo) := rfl

/-- The card after a SELECT reached `tgt`. -/
def CardState.enter (s : CardState) : Target → CardState
  | .dir d => { s with cur := some d, ef := false }
  | .ef => { s with ef := true }

@[simp] theorem CardState.enter_dir (s : CardState) (d : Dir) :
    s.enter (.dir d) = { s with cur := some d, ef := false } := rfl

@[simp] theorem CardState.enter_ef (s : CardState) : s.enter .ef = { s with ef := true } := rfl

/-- A DF reached as a child is the DF of that FID. -/
theorem CardState.child_dir {s : CardState} {hi lo : UInt8} {d d' : Dir}
    (h : s.child hi lo d = some (.dir d')) : ∃ aid, d' = .df hi lo aid := by
  cases d with
  | mf =>
    simp only [CardState.child] at h
    split at h
    · cases h; exact ⟨_, rfl⟩
    · split_ifs at h; cases h
  | df => simp only [CardState.child] at h; split_ifs at h; cases h

/-- **A DF a FID reaches is cached as the driver caches it**: `3F 00` for the MF, and
`3F 00 hi lo` for the DF `hi lo`. -/
theorem CardState.resolve_dir {s : CardState} {hi lo : UInt8} {d : Dir}
    (h : s.resolve [hi, lo] = some (.dir d)) : dfCachePath hi lo = ⟨.path, d.path⟩ := by
  rw [CardState.resolve_pair] at h
  unfold dfCachePath
  by_cases hmf : hi = 0x3f ∧ lo = 0x00
  · rw [if_pos hmf] at h ⊢
    cases h; rfl
  · rw [if_neg hmf] at h ⊢
    obtain ⟨d₀, -, hc⟩ := Option.bind_eq_some.mp h
    obtain ⟨aid, rfl⟩ := CardState.child_dir hc
    rfl

/-- A SELECT that succeeded: `90 00` or `61 xx`. -/
def Selected (sw1 sw2 : Nat) : Prop := IsOk sw1 sw2 ∨ sw1 = 0x61

instance (sw1 sw2 : Nat) : Decidable (Selected sw1 sw2) := inferInstanceAs (Decidable (_ ∨ _))

/-- What the card may do with a command and an answer. -/
inductive CardStep : CardState → Apdu → Reply → CardState → Prop
  /-- A command whose transmission failed was not executed. -/
  | lost {s : CardState} {apdu : Apdu} {e : ScError} : CardStep s apdu (.error e) s
  | selectFid {s : CardState} {apdu : Apdu} {sw1 sw2 : Nat} {resp : List UInt8} {tgt : Target} :
      apdu.ins = 0xA4 → apdu.p1 = 0x00 → Selected sw1 sw2 → s.resolve apdu.data = some tgt →
      CardStep s apdu (.answer sw1 sw2 resp) (s.enter tgt)
  | selectAid {s : CardState} {apdu : Apdu} {sw1 sw2 : Nat} {resp : List UInt8} {hi lo : UInt8} :
      apdu.ins = 0xA4 → apdu.p1 = 0x04 → Selected sw1 sw2 → (hi, lo, apdu.data) ∈ s.dfs →
      CardStep s apdu (.answer sw1 sw2 resp) (s.enter (.dir (.df hi lo apdu.data)))
  | selectRefused {s : CardState} {apdu : Apdu} {sw1 sw2 : Nat} {resp : List UInt8} :
      apdu.ins = 0xA4 → ¬ Selected sw1 sw2 → CardStep s apdu (.answer sw1 sw2 resp) s
  | deleteMf {s : CardState} {apdu : Apdu} {sw1 sw2 : Nat} {resp : List UInt8} :
      apdu.ins = 0xE4 → IsOk sw1 sw2 → CardStep s apdu (.answer sw1 sw2 resp) .empty
  | deleteRefused {s : CardState} {apdu : Apdu} {sw1 sw2 : Nat} {resp : List UInt8} :
      apdu.ins = 0xE4 → ¬ IsOk sw1 sw2 → CardStep s apdu (.answer sw1 sw2 resp) s
  /-- Any other command keeps the current DF; it may change the tree and the EF. -/
  | other {s s' : CardState} {apdu : Apdu} {sw1 sw2 : Nat} {resp : List UInt8} :
      apdu.ins ≠ 0xA4 → apdu.ins ≠ 0xE4 → s'.cur = s.cur →
      CardStep s apdu (.answer sw1 sw2 resp) s'

/-- What the driver's guesses take for granted. -/
def Honest (s : CardState) (apdu : Apdu) (r : Reply) : Prop :=
  (apdu.ins = 0xB0 → ∃ sw1 sw2 resp, r = .answer sw1 sw2 resp ∧
    ((sw1 = 0x69 ∧ sw2 = 0x86) ↔ s.ef = false)) ∧
  (apdu.ins = 0xA4 → apdu.p1 = 0x00 → apdu.p2 = 0x00 → ∀ resp, r = .answer 0x62 0x84 resp →
    ∃ d, s.resolve apdu.data = some (.dir d))

/-- The moves of an honest card. -/
def HonestStep (s : CardState) (apdu : Apdu) (r : Reply) (s' : CardState) : Prop :=
  CardStep s apdu r s' ∧ Honest s apdu r

/-! ## Inversion -/

section Inversion

variable {s s' : CardState} {apdu : Apdu}

theorem CardStep.error_eq {e : ScError} (h : CardStep s apdu (.error e) s') : s' = s := by
  cases h; rfl

/-- A SELECT that did not succeed leaves the card where it was. -/
theorem CardStep.eq_of_not_selected {sw1 sw2 : Nat} {resp : List UInt8}
    (h : CardStep s apdu (.answer sw1 sw2 resp) s') (hins : apdu.ins = 0xA4)
    (hn : ¬ Selected sw1 sw2) : s' = s := by
  cases h with
  | selectRefused => rfl
  | selectFid _ _ hs => exact absurd hs hn
  | selectAid _ _ hs => exact absurd hs hn
  | _ => simp_all

/-- A SELECT by FID that succeeded moves the card to what the FID reaches. -/
theorem CardStep.selectFid_selected {sw1 sw2 : Nat} {resp : List UInt8}
    (h : CardStep s apdu (.answer sw1 sw2 resp) s') (hins : apdu.ins = 0xA4)
    (hp1 : apdu.p1 = 0x00) (hs : Selected sw1 sw2) :
    ∃ tgt, s.resolve apdu.data = some tgt ∧ s' = s.enter tgt := by
  cases h with
  | selectFid _ _ _ ht => exact ⟨_, ht, rfl⟩
  | selectRefused _ hn => exact absurd hs hn
  | _ => simp_all

/-- A SELECT by AID that succeeded moves the card to a DF with that AID. -/
theorem CardStep.selectAid_selected {sw1 sw2 : Nat} {resp : List UInt8}
    (h : CardStep s apdu (.answer sw1 sw2 resp) s') (hins : apdu.ins = 0xA4)
    (hp1 : apdu.p1 = 0x04) (hs : Selected sw1 sw2) :
    ∃ hi lo, s' = s.enter (.dir (.df hi lo apdu.data)) := by
  cases h with
  | selectAid => exact ⟨_, _, rfl⟩
  | selectRefused _ hn => exact absurd hs hn
  | _ => simp_all

/-- A command other than SELECT and DELETE keeps the current DF. -/
theorem CardStep.cur_eq {r : Reply} (h : CardStep s apdu r s') (hA4 : apdu.ins ≠ 0xA4)
    (hE4 : apdu.ins ≠ 0xE4) : s'.cur = s.cur := by
  cases h with
  | lost => rfl
  | other _ _ hc => exact hc
  | _ => simp_all

end Inversion

/-! ## A card that answers from its tree -/

/-- Every answer to a SELECT other than `62 84` is honest. -/
theorem honest_select {s : CardState} {apdu : Apdu} {sw1 sw2 : Nat} {resp : List UInt8}
    (hA4 : apdu.ins = 0xA4) (h : ¬ (sw1 = 0x62 ∧ sw2 = 0x84)) :
    Honest s apdu (.answer sw1 sw2 resp) :=
  ⟨fun hB0 => absurd (hA4.symm.trans hB0) (by decide), fun _ _ _ _ he =>
    absurd ⟨(Reply.answer.inj he).1, (Reply.answer.inj he).2.1⟩ h⟩

/-- A card that answers every command from its tree: a SELECT `90 00` when the file
exists and `6A 82` otherwise, DELETE `90 00`, the probe `69 86` when no EF is selected,
and every other command `90 00`. -/
def treeCard (s : CardState) (apdu : Apdu) : CardState × Reply :=
  if apdu.ins = 0xA4 then
    if apdu.p1 = 0x00 then
      match s.resolve apdu.data with
      | some tgt => (s.enter tgt, .answer 0x90 0x00 [])
      | none => (s, .answer 0x6a 0x82 [])
    else if apdu.p1 = 0x04 then
      match s.dfs.find? (fun x => x.2.2 = apdu.data) with
      | some (hi, lo, _) => (s.enter (.dir (.df hi lo apdu.data)), .answer 0x90 0x00 [])
      | none => (s, .answer 0x6a 0x82 [])
    else (s, .answer 0x6a 0x86 [])
  else if apdu.ins = 0xE4 then (.empty, .answer 0x90 0x00 [])
  else if apdu.ins = 0xB0 then
    (s, if s.ef then .answer 0x90 0x00 [0] else .answer 0x69 0x86 [])
  else (s, .answer 0x90 0x00 [])

/-- **The tree card is an honest card.** -/
theorem treeCard_honest (s : CardState) (apdu : Apdu) :
    HonestStep s apdu (treeCard s apdu).2 (treeCard s apdu).1 := by
  unfold treeCard
  by_cases hA4 : apdu.ins = 0xA4
  · rw [if_pos hA4]
    split_ifs with hp0 hp4
    · split
      · exact ⟨.selectFid hA4 hp0 (Or.inl ⟨rfl, rfl⟩) ‹_›, honest_select hA4 (by decide)⟩
      · exact ⟨.selectRefused hA4 (by decide), honest_select hA4 (by decide)⟩
    · split
      · rename_i hi lo aid hf
        obtain rfl : aid = apdu.data := by simpa using List.find?_some hf
        exact ⟨.selectAid hA4 hp4 (Or.inl ⟨rfl, rfl⟩) (List.mem_of_find?_eq_some hf),
          honest_select hA4 (by decide)⟩
      · exact ⟨.selectRefused hA4 (by decide), honest_select hA4 (by decide)⟩
    · exact ⟨.selectRefused hA4 (by decide), honest_select hA4 (by decide)⟩
  · rw [if_neg hA4]
    by_cases hE4 : apdu.ins = 0xE4
    · rw [if_pos hE4]
      exact ⟨.deleteMf hE4 ⟨rfl, rfl⟩, fun hB0 => absurd (hE4.symm.trans hB0) (by decide),
        fun h => absurd h hA4⟩
    rw [if_neg hE4]
    by_cases hB0 : apdu.ins = 0xB0
    · rw [if_pos hB0]
      cases hef : s.ef <;>
        exact ⟨.other hA4 hE4 rfl, fun _ => ⟨_, _, _, rfl, by simp [hef]⟩, fun h => absurd h hA4⟩
    · rw [if_neg hB0]
      exact ⟨.other hA4 hE4 rfl, fun h => absurd h hB0, fun h => absurd h hA4⟩

end StarcosDriver
