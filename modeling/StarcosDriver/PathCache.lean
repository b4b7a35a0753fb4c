import StarcosDriver.Descriptor

/-!
# The path cache and the recursion of `starcos_select_file`

A cache the driver wrote holds `3F 00` or `3F 00 hi lo` (`CacheWf`): `starcos_select_fid`
writes one of the two, `starcos_select_aid` an AID.  From such a cache the recursion of
`starcos_select_file` is at most two calls deep.  A normalized path starts with `3F 00`,
so `bMatch` is at least 2; only a path of three FIDs is more than one SELECT away, and
its remainder is one FID, which the second call resolves without recursing.
`selectFile_total` says this: with fuel 2 no path of the selection runs out.

The remainder is a path relative to the DF just selected, but the recursive call reads
it as a path from the MF and prepends `3F 00` again.  When the path repeats a FID, as in
`3F 00 5F 00 5F 00`, the remainder `5F 00` becomes `3F 00 5F 00`, which the cache written
by the first SELECT already holds: `selectFile_repeated_fid` shows the call returning
after one SELECT where the path asks for two.
-/

namespace StarcosDriver

variable (F : Framework)

/-! ## A path that repeats a FID -/

/-- A SELECT without FCI answered `90 00`, then the probe answered `69 86`: a DF was
selected and the cache holds it. -/
theorem selectFid_trace_df (card : ScCard) (hi lo : UInt8) (resp resp' : List UInt8) :
    Prog.Trace (selectFid F card hi lo false)
      [.exchange (selectFidApdu F card hi lo false) (.answer 0x90 0x00 resp),
        .exchange (probeApdu card) (.answer 0x69 0x86 resp')]
      (scSuccess, { card with cache := dfCachePath hi lo }, none) :=
  .transmit _ (.transmit _ (.ret _))

/-- **A repeated FID is selected once.**  From the cache `3F 00`, the request
`3F 00 hi lo hi lo` for a DF `hi lo` sends one SELECT and its READ BINARY probe: the
remainder `hi lo` is normalized to `3F 00 hi lo`, which is then the cache. -/
theorem selectFile_repeated_fid (fuel : Nat) (card : ScCard) (hi lo : UInt8)
    (resp resp' : List UInt8) (hvalid : card.cacheValid = true)
    (hcache : card.cache = ⟨.path, [0x3f, 0x00]⟩) (hmf : ¬ (hi = 0x3f ∧ lo = 0x00)) :
    Prog.Trace (selectFile F (fuel + 2) card ⟨.path, [0x3f, 0x00, hi, lo, hi, lo]⟩ false)
      [.exchange (selectFidApdu F card hi lo false) (.answer 0x90 0x00 resp),
        .exchange (probeApdu card) (.answer 0x69 0x86 resp')]
      (scSuccess, { card with cache := ⟨.path, [0x3f, 0x00, hi, lo]⟩ }, none) := by
  have hdf : dfCachePath hi lo = ⟨.path, [0x3f, 0x00, hi, lo]⟩ := if_neg hmf
  simp [selectFile, selectPath, normalizePath, StartsWithMf, CacheUsable, hvalid, hcache,
    matchCount]
  rw [Prog.trace_bind]
  refine ⟨_, [], _, rfl, hdf ▸ selectFid_trace_df F card hi lo resp resp', ?_⟩
  simp [selectFile, selectPath, normalizePath, StartsWithMf, CacheUsable, hmf, matchCount,
    scSuccess, hvalid]

/-- A 6-byte path of three FIDs repeating `5F 00`, from the cache `3F 00`. -/
theorem selectFile_repeated_fid_5f00 :
    (⟨0, true, ⟨.path, [0x3f, 0x00]⟩, [], 128, 128, .zero⟩ : ScCard).cacheValid = true ∧
    (⟨0, true, ⟨.path, [0x3f, 0x00]⟩, [], 128, 128, .zero⟩ : ScCard).cache =
      ⟨.path, [0x3f, 0x00]⟩ ∧
    ¬ ((0x5f : UInt8) = 0x3f ∧ (0x00 : UInt8) = 0x00) ∧
    Prog.Trace (selectFile Framework.opensc 2 ⟨0, true, ⟨.path, [0x3f, 0x00]⟩, [], 128, 128, .zero⟩
        ⟨.path, [0x3f, 0x00, 0x5f, 0x00, 0x5f, 0x00]⟩ false)
      [.exchange (selectFidApdu Framework.opensc ⟨0, true, ⟨.path, [0x3f, 0x00]⟩, [], 128, 128, .zero⟩
          0x5f 0x00 false) (.answer 0x90 0x00 []),
        .exchange (probeApdu ⟨0, true, ⟨.path, [0x3f, 0x00]⟩, [], 128, 128, .zero⟩)
          (.answer 0x69 0x86 [])]
      (scSuccess, ⟨0, true, ⟨.path, [0x3f, 0x00, 0x5f, 0x00]⟩, [], 128, 128, .zero⟩, none) :=
  ⟨rfl, rfl, by decide, selectFile_repeated_fid _ 0 _ 0x5f 0x00 [] [] rfl rfl (by decide)⟩

/-! ## Termination from a cache the driver wrote -/

/-- The cache holds nothing but what `starcos_select_fid` and `starcos_select_aid` write:
a PATH cache is `3F 00` or `3F 00 hi lo`. -/
def CacheWf (card : ScCard) : Prop :=
  card.cache.type = .path →
    card.cache.value = [0x3f, 0x00] ∨ ∃ hi lo, card.cache.value = [0x3f, 0x00, hi, lo]

theorem cacheWf_dfCachePath (card : ScCard) (hi lo : UInt8) :
    CacheWf { card with cache := dfCachePath hi lo } := by
  intro _
  unfold dfCachePath
  split_ifs
  · exact .inl rfl
  · exact .inr ⟨hi, lo, rfl⟩

theorem selectFidDone_card (card : ScCard) (hi lo : UInt8) (w b : Bool) (sw1 sw2 : Nat)
    (resp : List UInt8) :
    (selectFidDone F card hi lo w b sw1 sw2 resp).Always fun x =>
      x.2.1 = card ∨ x.2.1 = { card with cache := dfCachePath hi lo } := by
  rcases selectFidDone_eq F card hi lo w b sw1 sw2 resp with h | ⟨c, hc, h | ⟨x, h⟩⟩ <;>
    rw [h]
  · exact .inl rfl
  · exact hc
  · exact (Prog.always_allocOr _ _ _).mpr ⟨hc, hc⟩

/-- `starcos_select_fid` leaves the cache, or writes the DF it selected. -/
theorem selectFid_card (card : ScCard) (hi lo : UInt8) (w : Bool) :
    (selectFid F card hi lo w).Always fun x =>
      x.2.1 = card ∨ x.2.1 = { card with cache := dfCachePath hi lo } := by
  unfold selectFid
  simp only [Prog.always_send, true_or, implies_true, true_and]
  intro sw1 sw2 resp
  split_ifs <;> simp [selectFidDone_card]

theorem selectFid_cacheWf {card : ScCard} (h : CacheWf card) (hi lo : UInt8) (w : Bool) :
    (selectFid F card hi lo w).Always fun x => CacheWf x.2.1 :=
  (selectFid_card F card hi lo w).mono fun x hx => by
    rcases hx with hx | hx
    · exact hx ▸ h
    · exact hx ▸ cacheWf_dfCachePath card hi lo

theorem selectFidDone_total (card : ScCard) (hi lo : UInt8) (w b : Bool) (sw1 sw2 : Nat)
    (resp : List UInt8) : Prog.Total (selectFidDone F card hi lo w b sw1 sw2 resp) := by
  rcases selectFidDone_eq F card hi lo w b sw1 sw2 resp with h | ⟨c, -, h | ⟨x, h⟩⟩ <;>
    simp only [h, Prog.total_ret, Prog.total_allocOr]

theorem selectFid_total (card : ScCard) (hi lo : UInt8) (w : Bool) :
    Prog.Total (selectFid F card hi lo w) := by
  unfold selectFid
  simp only [Prog.total_send]
  intro sw1 sw2 resp
  split_ifs <;> simp [selectFidDone_total]

theorem selectCold_total (card : ScCard) (path : List UInt8) (w : Bool) :
    Prog.Total (selectCold F card path w) := by
  induction card, path, w using selectCold.induct F with
  | case1 card hi lo w => exact selectFid_total F card hi lo w
  | case2 card hi lo rest w hne ih =>
    rw [selectCold.eq_2 F card w hi lo rest hne, Prog.total_bind]
    refine ⟨selectFid_total F card hi lo false, Prog.always_iff.mpr fun ⟨r, c, _⟩ _ => ?_⟩
    cases r with
    | err e => trivial
    | ok n => exact ih c
  | case3 path card w h₁ h₂ =>
    rw [selectCold.eq_3 F card path w h₁ h₂]
    trivial

/-- From a cache the driver wrote, a normalized path agrees with the cache on `3F 00`. -/
theorem two_le_matchCount {card : ScCard} (h : CacheWf card) (hpath : card.cache.type = .path)
    {path : List UInt8} (hmf : StartsWithMf path) :
    2 ≤ matchCount card.cache.value path := by
  obtain ⟨h₀, h₁⟩ := hmf
  simp only [List.getD_eq_getElem?_getD] at h₀ h₁
  rcases h hpath with hc | ⟨hi, lo, hc⟩ <;> simp [hc, matchCount, h₀, h₁]

theorem startsWithMf_normalizePath (path : List UInt8) : StartsWithMf (normalizePath path) := by
  unfold normalizePath
  split_ifs with h
  · exact h
  · exact ⟨rfl, rfl⟩

theorem length_normalizePath_le (path : List UInt8) :
    (normalizePath path).length ≤ path.length + 2 := by
  unfold normalizePath
  split_ifs <;> simp

theorem selectAid_total (card : ScCard) (aid : List UInt8) (w : Bool) :
    Prog.Total (selectAid F card aid w) := by
  unfold selectAid
  simp only [Prog.total_send]
  intro sw1 sw2 resp
  split_ifs <;> simp

/-- From a cache the driver wrote, a request of one FID is resolved without the
recursive call. -/
theorem selectPath_total_of_short
    {recurse : ScCard → ScPath → Bool → Prog (ScRet × ScCard × Option ScFile)}
    {card : ScCard} (h : CacheWf card) {path : List UInt8} (hlen : path.length ≤ 2) (w : Bool) :
    Prog.Total (selectPath F recurse card path w) := by
  refine selectPath_cases F trivial (fun _ _ _ _ _ _ _ => selectFid_total F _ _ _ _)
    (fun q m hq hm _ _ hu hgt => ?_) (fun _ _ _ _ _ _ _ => by split <;> simp)
    fun _ _ => selectCold_total F _ _ _
  subst hq hm
  have := two_le_matchCount h hu.2.1 (startsWithMf_normalizePath path)
  have := length_normalizePath_le path
  omega

/-- From a cache the driver wrote, the recursive call is made on a path of one FID. -/
theorem selectPath_total
    {recurse : ScCard → ScPath → Bool → Prog (ScRet × ScCard × Option ScFile)} {w : Bool}
    (hrec : ∀ c v, CacheWf c → v.length ≤ 2 → Prog.Total (recurse c ⟨.path, v⟩ w))
    {card : ScCard} (h : CacheWf card) (path : List UInt8) :
    Prog.Total (selectPath F recurse card path w) := by
  refine selectPath_cases F trivial (fun _ _ _ _ _ _ _ => selectFid_total F _ _ _ _)
    (fun q m hq hm hv h6 hu hgt => ?_) (fun _ _ _ _ _ _ _ => by split <;> simp)
    fun _ _ => selectCold_total F _ _ _
  subst hq hm
  rw [Prog.total_bind]
  refine ⟨selectFid_total F _ _ _ _, (selectFid_cacheWf F h _ _ _).mono fun ⟨r, c, _⟩ hc => ?_⟩
  cases r with
  | err e => trivial
  | ok n =>
    refine hrec c _ hc ?_
    have h₁ := two_le_matchCount h hu.2.1 (startsWithMf_normalizePath path)
    have h₂ := matchCount_even card.cache.value (normalizePath path)
    have h₃ := length_normalizePath path
    have h₄ := length_normalizePath_le path
    simp only [List.length_drop]
    by_cases h₅ : path.length = 6
    · have hq : normalizePath path = path := if_pos (h6 h₅)
      rw [hq] at h₁ h₂ ⊢
      omega
    · omega

/-- **From a cache the driver wrote, `starcos_select_file` terminates**: with fuel 2, no
path of the selection runs out, whatever the request and the card's answers. -/
theorem selectFile_total (fuel : Nat) {card : ScCard} (h : CacheWf card) (inPath : ScPath)
    (w : Bool) : Prog.Total (selectFile F (fuel + 2) card inPath w) := by
  obtain ⟨type, value⟩ := inPath
  cases type with
  | fileId =>
    simp only [selectFile]
    split_ifs
    · trivial
    · exact selectFid_total F _ _ _ _
  | dfName =>
    simp only [selectFile]
    split_ifs
    · trivial
    · exact selectAid_total F _ _ _
  | path =>
    refine selectPath_total F (fun c v hc hv => ?_) h value
    exact selectPath_total_of_short F hc hv w
  | pathProt => trivial

end StarcosDriver
