import StarcosDriver.Select

/-!
# The descriptor a selection hands out

When `starcos_select_file` returns `SC_SUCCESS` to a caller that asked for a descriptor,
the descriptor is in most cases one this call allocated, with the magic set, for the
file that was asked for: its id is the last FID of the path for a FID or a path, its
name the AID for an AID.  Two cases do not hand one out.

* The status checks of `starcos_select_fid` and `starcos_select_aid` refuse every word
  but `90 00` and `61 xx`, and return `sc_check_sw` of the word they refused; the
  driver's `check_sw` takes every `90 xx` as success.  A SELECT answered `90 01` is
  then a success without a descriptor.  `EndsWithCheckedSuccess` names this case: the
  last command of the call was answered by such a word, and `*file_out` is left unset.
* An AID that the valid cache already holds returns `SC_SUCCESS` at line 413 without
  writing `*file_out`, where the PATH cache hit at lines 486-498 builds a descriptor.

`selectFile_described` is the statement with both: along every path of the selection,
a success either comes with the descriptor (`Described`) or is one of the two cases.
It is proved function by function, from `selectFidDone` up, with `Prog.AlwaysT`, whose
predicate sees the events of the path: the allocation that made the descriptor, and the
last answer.
-/

namespace StarcosDriver

variable (F : Framework)

/-! ## Words taken as success -/

/-- A status word the selection's own test refuses and `starcos_check_sw` translates to
`SC_SUCCESS`. -/
def CheckedSuccess (sw1 sw2 : Nat) : Prop :=
  sw1 ≠ 0x61 ∧ ¬ IsOk sw1 sw2 ∧ checkSw F sw1 sw2 = scSuccess

/-- The last event is a command answered by a word of `CheckedSuccess`. -/
def EndsWithCheckedSuccess (t : List Prog.Event) : Prop :=
  ∃ pre apdu sw1 sw2 resp,
    t = pre ++ [.exchange apdu (.answer sw1 sw2 resp)] ∧ CheckedSuccess F sw1 sw2

/-- A success along `t` comes with a descriptor allocated along `t`, with the magic set
and satisfying `ok`, or the last command was answered by a word taken as success and no
descriptor is handed out. -/
def Described (ok : ScFile → Prop) (t : List Prog.Event) (x : ScRet × ScCard × Option ScFile) :
    Prop :=
  x.1 = scSuccess →
    (∃ file, x.2.2 = some file ∧ file.magic = true ∧ ok file ∧ Prog.Event.alloc true ∈ t) ∨
      (EndsWithCheckedSuccess F t ∧ x.2.2 = none)

/-- What follows the last SELECT: a success comes with a descriptor, or nothing follows,
the SELECT's word was taken as success and no descriptor is handed out. -/
def Answered (ok : ScFile → Prop) (sw1 sw2 : Nat) (t : List Prog.Event)
    (x : ScRet × ScCard × Option ScFile) : Prop :=
  x.1 = scSuccess →
    (∃ file, x.2.2 = some file ∧ file.magic = true ∧ ok file ∧ Prog.Event.alloc true ∈ t) ∨
      (t = [] ∧ CheckedSuccess F sw1 sw2 ∧ x.2.2 = none)

variable {F}

theorem Described.append {ok : ScFile → Prop} {u : List Prog.Event}
    {x : ScRet × ScCard × Option ScFile} (h : Described F ok u x) (t : List Prog.Event) :
    Described F ok (t ++ u) x := by
  intro hx
  rcases h hx with ⟨file, h₁, h₂, h₃, h₄⟩ | ⟨⟨pre, apdu, sw1, sw2, resp, rfl, hw⟩, hnone⟩
  · exact .inl ⟨file, h₁, h₂, h₃, List.mem_append_right t h₄⟩
  · exact .inr ⟨⟨t ++ pre, apdu, sw1, sw2, resp, by simp, hw⟩, hnone⟩

theorem Described.mono {ok ok' : ScFile → Prop} {t : List Prog.Event}
    {x : ScRet × ScCard × Option ScFile} (h : Described F ok t x)
    (hok : ∀ file, ok file → ok' file) : Described F ok' t x := by
  intro hx
  rcases h hx with ⟨file, h₁, h₂, h₃, h₄⟩ | h
  · exact .inl ⟨file, h₁, h₂, hok file h₃, h₄⟩
  · exact .inr h

theorem described_of_err {ok : ScFile → Prop} {t : List Prog.Event} {e : ScError} {card : ScCard}
    {file : Option ScFile} : Described F ok t (.err e, card, file) :=
  fun h => by simp [scSuccess] at h

/-- The SELECT answered `sw1 sw2` was the last command. -/
theorem Answered.described {ok : ScFile → Prop} {sw1 sw2 : Nat} {t : List Prog.Event}
    {x : ScRet × ScCard × Option ScFile} (h : Answered F ok sw1 sw2 t x) (pre : List Prog.Event)
    (apdu : Apdu) (resp : List UInt8) :
    Described F ok (pre ++ .exchange apdu (.answer sw1 sw2 resp) :: t) x := by
  intro hx
  rcases h hx with ⟨file, h₁, h₂, h₃, h₄⟩ | ⟨rfl, hw, hnone⟩
  · exact .inl ⟨file, h₁, h₂, h₃, by simp [h₄]⟩
  · exact .inr ⟨⟨pre, apdu, sw1, sw2, resp, rfl, hw⟩, hnone⟩

/-- The SELECT answered `sw1 sw2` was followed by another command, and its word was not
one taken as success. -/
theorem Answered.described_of_not {ok : ScFile → Prop} {sw1 sw2 : Nat} {t : List Prog.Event}
    {x : ScRet × ScCard × Option ScFile} (h : Answered F ok sw1 sw2 t x)
    (hw : ¬ CheckedSuccess F sw1 sw2) (pre : List Prog.Event) : Described F ok (pre ++ t) x := by
  intro hx
  rcases h hx with ⟨file, h₁, h₂, h₃, h₄⟩ | ⟨-, h, -⟩
  · exact .inl ⟨file, h₁, h₂, h₃, List.mem_append_right pre h₄⟩
  · exact absurd h hw

/-! ## The descriptor of one SELECT -/

theorem fciDescriptor_id (file : ScFile) (tag : List UInt8) :
    (fciDescriptor F file tag).id = file.id := by
  simp only [fciDescriptor, apply_ite ScFile.id, ite_self]

/-- A decoded FCI keeps the descriptor's id and sets its magic. -/
theorem processFci_success {file : ScFile} {buf : List UInt8}
    (h : (processFci F file buf).1 = scSuccess) :
    (processFci F file buf).2.magic = true ∧ (processFci F file buf).2.id = file.id := by
  unfold processFci at h ⊢
  by_cases h₁ : buf.length < 2
  · rw [if_pos h₁] at h
    cases h
  by_cases h₂ : buf.getD 0 0 ≠ 0x6f
  · rw [if_neg h₁, if_pos h₂] at h
    cases h
  by_cases h₃ : buf.length - 2 < (buf.getD 1 0).toNat
  · rw [if_neg h₁, if_neg h₂] at h
    dsimp only at h
    rw [if_pos h₃] at h
    cases h
  rw [if_neg h₁, if_neg h₂]
  dsimp only
  rw [if_neg h₃]
  refine ⟨rfl, ?_⟩
  split <;> simp only [fciDescriptor_id] <;> split <;> (try split) <;> rfl

theorem selectFidDone_answered (card : ScCard) (hi lo : UInt8) (b : Bool) (sw1 sw2 : Nat)
    (resp : List UInt8) :
    (selectFidDone F card hi lo true b sw1 sw2 resp).AlwaysT
      (Answered F (fun f => f.id = hi.toNat * 256 + lo.toNat) sw1 sw2) := by
  unfold selectFidDone
  by_cases h : sw1 ≠ 0x61 ∧ ¬ IsOk sw1 sw2
  · rw [if_pos h]
    exact fun hx => .inr ⟨rfl, ⟨h.1, h.2, hx⟩, rfl⟩
  · rw [if_neg h]
    simp only [if_true, Prog.alwaysT_allocOr]
    refine ⟨fun hx => by simp [scSuccess] at hx, ?_⟩
    dsimp only
    split
    · exact fun _ => .inl ⟨_, rfl, rfl, rfl, List.mem_cons_self _ _⟩
    · split
      · rename_i hr
        have h' := processFci_success hr
        exact fun _ => .inl ⟨_, rfl, h'.1, h'.2, List.mem_cons_self _ _⟩
      · exact fun hx => absurd hx ‹_›

/-- **A selection by FID that succeeds hands out the descriptor of that FID**, or the
SELECT's word was taken as success and it hands out none. -/
theorem selectFid_described (card : ScCard) (hi lo : UInt8) :
    (selectFid F card hi lo true).AlwaysT
      (Described F fun f => f.id = hi.toNat * 256 + lo.toNat) := by
  unfold selectFid
  simp only [Prog.alwaysT_send]
  refine ⟨fun _ => described_of_err, fun sw1 sw2 resp => ?_⟩
  split_ifs with h6284 hprobe
  · simp only [Prog.alwaysT_send]
    refine ⟨fun _ => described_of_err, fun sw1' sw2' resp' => ?_⟩
    exact (selectFidDone_answered card hi lo true sw1' sw2' resp').mono fun t x h =>
      h.described [_] _ _
  · simp only [Prog.alwaysT_send]
    refine ⟨fun _ => described_of_err, fun _ _ _ => ?_⟩
    refine (selectFidDone_answered card hi lo _ sw1 sw2 resp).mono fun t x h =>
      h.described_of_not ?_ [_, _]
    rintro ⟨h61, hok, -⟩
    exact hprobe.elim h61 hok
  · exact (selectFidDone_answered card hi lo false sw1 sw2 resp).mono fun t x h =>
      h.described [] _ _

/-- **A selection by AID that succeeds hands out a descriptor named by the AID**, or the
SELECT's word was taken as success and it hands out none. -/
theorem selectAid_described (card : ScCard) (aid : List UInt8) :
    (selectAid F card aid true).AlwaysT (Described F fun f => f.name = aid) := by
  unfold selectAid
  simp only [Prog.alwaysT_send]
  refine ⟨fun _ => described_of_err, fun sw1 sw2 resp => ?_⟩
  split_ifs with h
  · exact fun hx => .inr ⟨⟨[], _, sw1, sw2, resp, rfl, h.2, h.1, hx⟩, rfl⟩
  · simp only [if_true, Prog.alwaysT_allocOr]
    exact ⟨described_of_err, fun _ => .inl ⟨_, rfl, rfl, rfl, by simp⟩⟩

/-! ## The last FID of a path -/

theorem lastFid_cons (a : UInt8) {path : List UInt8} (h : 2 ≤ path.length) :
    lastFid (a :: path) = lastFid path := by
  obtain ⟨n, hn⟩ : ∃ n, path.length = n + 2 := ⟨path.length - 2, by omega⟩
  simp [lastFid, hn, List.getD_cons_succ]

theorem lastFid_drop {path : List UInt8} (k : Nat) (h : 2 ≤ (path.drop k).length) :
    lastFid (path.drop k) = lastFid path := by
  induction k generalizing path with
  | zero => rfl
  | succ k ih =>
    cases path with
    | nil => simp at h
    | cons a path =>
      rw [List.drop_succ_cons] at h ⊢
      rw [ih h, lastFid_cons a (h.trans (by simp))]

theorem lastFid_normalizePath {path : List UInt8} (h : 2 ≤ path.length) :
    lastFid (normalizePath path) = lastFid path := by
  unfold normalizePath
  split_ifs
  · rfl
  · simp only [List.cons_append, List.nil_append]
    rw [lastFid_cons _ (by simp; omega), lastFid_cons _ h]

theorem length_normalizePath (path : List UInt8) :
    (normalizePath path).length % 2 = path.length % 2 := by
  unfold normalizePath
  split_ifs <;> simp
  omega

theorem matchCount_even (cache path : List UInt8) : matchCount cache path % 2 = 0 := by
  induction cache, path using matchCount.induct with
  | case1 c₀ c₁ cs path ih => simp only [matchCount]; split_ifs <;> omega
  | case4 => rfl
  | _ => unfold matchCount; split_ifs; rfl

/-! ## Paths -/

/-- Whatever the first part of a sequence did, an error it returned stops the sequence. -/
theorem alwaysT_described_bind_err {ok : ScFile → Prop} {α : Type} {p : Prog α}
    {f : α → Prog (ScRet × ScCard × Option ScFile)}
    (hf : ∀ a, (f a).AlwaysT (Described F ok)) :
    (p.bind f).AlwaysT (Described F ok) :=
  Prog.alwaysT_bind.mpr <| Prog.alwaysT_iff.mpr fun t a _ =>
    (hf a).mono fun _ _ h => h.append t

/-- **The cold path hands out the descriptor of the path's last FID.** -/
theorem selectCold_described (card : ScCard) (path : List UInt8) :
    (selectCold F card path true).AlwaysT (Described F fun f => f.id = lastFid path) := by
  generalize hw : true = w
  induction card, path, w using selectCold.induct F with
  | case1 card hi lo w =>
    subst hw
    exact selectFid_described card hi lo
  | case2 card hi lo rest w hne ih =>
    subst hw
    rw [selectCold.eq_2 F card true hi lo rest hne]
    refine alwaysT_described_bind_err fun ⟨r, c, _⟩ => ?_
    cases r with
    | err e => exact fun hx => by simp [scSuccess] at hx
    | ok n =>
      match rest, hne with
      | [x], _ => simp [selectCold, described_of_err]
      | a :: b :: rest', _ =>
        exact (ih c rfl).mono fun t x h =>
          h.mono fun f hf => by rw [hf, lastFid_cons hi, lastFid_cons lo] <;> simp
  | case3 path card w h₁ h₂ =>
    subst hw
    rw [selectCold.eq_3 F card path true h₁ h₂]
    exact described_of_err

/-- The FID one SELECT away from the cache is the last one of the path. -/
theorem lastFid_eq_getD {path : List UInt8} {b : Nat} (h : path.length - b = 2) :
    (path.getD b 0).toNat * 256 + (path.getD (b + 1) 0).toNat = lastFid path := by
  have h₁ : path.length - 2 = b := by omega
  have h₂ : path.length - 1 = b + 1 := by omega
  rw [lastFid, h₁, h₂]

/-- **The PATH branch hands out the descriptor of the path's last FID**, given that the
recursive call does for its own path. -/
theorem selectPath_described
    {recurse : ScCard → ScPath → Bool → Prog (ScRet × ScCard × Option ScFile)}
    (hrec : ∀ c v, (recurse c ⟨.path, v⟩ true).AlwaysT (Described F fun f => f.id = lastFid v))
    (card : ScCard) (path : List UInt8) :
    (selectPath F recurse card path true).AlwaysT (Described F fun f => f.id = lastFid path) := by
  refine selectPath_cases F described_of_err (fun q m hq hm hlen _ h2 => ?_)
    (fun q m hq hm hv _ _ hgt => ?_) (fun q m hq _ hlen _ _ => ?_) fun hlen _ => ?_
  · subst hq hm
    exact (selectFid_described _ _ _).mono fun t x h => h.mono fun f hf => by
      rw [hf, lastFid_eq_getD h2, lastFid_normalizePath hlen]
  · subst hq hm
    refine alwaysT_described_bind_err fun ⟨r, c, _⟩ => ?_
    cases r with
    | err e => exact described_of_err
    | ok n =>
      have hb := matchCount_even card.cache.value (normalizePath path)
      have hpar := length_normalizePath path
      refine (hrec c _).mono fun t x h => h.mono fun f hf => by
        rw [hf, lastFid_drop _ (by simp only [List.length_drop]; omega),
          lastFid_normalizePath hv.2.1]
  · subst hq
    rw [if_pos rfl, Prog.alwaysT_allocOr]
    exact ⟨described_of_err, fun _ =>
      .inl ⟨_, rfl, rfl, lastFid_normalizePath hlen, List.mem_cons_self _ _⟩⟩
  · exact (selectCold_described card _).mono fun t x h => h.mono fun f hf =>
      hf.trans (lastFid_normalizePath hlen)

/-! ## `starcos_select_file` -/

/-- **What a selection that succeeds hands out.**  Along every path of
`starcos_select_file` asked for a descriptor, a success comes with a descriptor this call
allocated, with the magic set, whose id is the last FID of the path (FID and PATH
requests) or whose name is the AID (AID requests); or the last command was answered by a
word `starcos_check_sw` takes as success and no descriptor is handed out; or the request
is an AID the valid cache holds. -/
theorem selectFile_described (fuel : Nat) (card : ScCard) (inPath : ScPath) :
    (selectFile F fuel card inPath true).AlwaysT fun t x =>
      (inPath.type = .dfName ∧ card.cacheValid = true ∧ card.cache.type = .dfName ∧
          card.cache.value = inPath.value) ∨
        Described F (fun f => if inPath.type = .dfName then f.name = inPath.value
          else f.id = lastFid inPath.value) t x := by
  induction fuel generalizing card inPath with
  | zero => trivial
  | succ fuel ih =>
    obtain ⟨type, value⟩ := inPath
    cases type with
    | fileId =>
      simp only [selectFile, reduceCtorEq, ↓reduceIte, false_and, false_or]
      split_ifs with hlen
      · exact described_of_err
      · refine (selectFid_described card _ _).mono fun t x h => h.mono fun f hf => ?_
        simp only [ne_eq, not_not] at hlen
        simp [hf, lastFid, hlen]
    | dfName =>
      simp only [selectFile, ↓reduceIte, true_and]
      split_ifs with hhit
      · exact Or.inl hhit
      · exact (selectAid_described card value).mono fun t x h => .inr h
    | path =>
      have hrec : ∀ c v, (selectFile F fuel c ⟨.path, v⟩ true).AlwaysT
          (Described F fun f => f.id = lastFid v) := fun c v =>
        (ih c ⟨.path, v⟩).mono fun t x h => by simpa using h
      simp only [selectFile, reduceCtorEq, ↓reduceIte, false_and, false_or]
      exact selectPath_described hrec card value
    | pathProt => exact Or.inr described_of_err

/-- A SELECT of FID `5F 00` with FCI answered `90 01`: the call returns `SC_SUCCESS` and
hands out no descriptor. -/
theorem selectFile_success_without_descriptor :
    Prog.Trace (selectFile Framework.opensc 1 ⟨0, true, ⟨.fileId, []⟩, [], 128, 128, .zero⟩
        ⟨.fileId, [0x5f, 0x00]⟩ true)
      [.exchange (selectFidApdu Framework.opensc ⟨0, true, ⟨.fileId, []⟩, [], 128, 128, .zero⟩
          0x5f 0x00 true) (.answer 0x90 0x01 [])]
      (scSuccess, ⟨0, true, ⟨.fileId, []⟩, [], 128, 128, .zero⟩, none) :=
  .transmit _ (.ret _)

end StarcosDriver
