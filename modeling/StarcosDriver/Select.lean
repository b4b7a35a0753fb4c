import StarcosDriver.Card

/-!
# SELECT FILE

`starcos_select_file` resolves three kinds of path.  A FID goes to `starcos_select_fid`,
an AID to `starcos_select_aid` unless the cache already holds it, and a path of FIDs
goes through the path cache: the number `bMatch` of bytes of the cached path that agree
with the requested one decides whether the request is a cache hit, one SELECT away, or
needs a first step into a DF followed by a recursive call on the rest of the path.
Without a usable cache every FID of the path is selected from the MF down.

`starcos_select_fid` is where the cache is written.  The card does not say whether a
FID named a DF or an EF, so the driver guesses: a DF either answers a SELECT with FCI by
`62 84`, or, once selected, answers a one-byte READ BINARY by `69 86` ("no current EF").
Only then is the cache set, to `3F 00` for the MF and to `3F 00 hi lo` otherwise.

The recursion of `starcos_select_file` is given to `selectPath` as an argument, so that
`selectFile` is structurally recursive on its fuel and the branch can be studied for
any continuation.
-/

namespace StarcosDriver

variable (F : Framework)

/-! ## `process_fci` -/

/-- The file-descriptor tag `82` of an FCI, decoded into `file`. -/
def fciDescriptor (file : ScFile) (tag : List UInt8) : ScFile :=
  if tag.length = 1 ∧ tag.getD 0 0 = 0x01 then
    { file with type := F.fileTypeWorkingEf, efStructure := F.efTransparent }
  else if tag.length = 1 ∧ tag.getD 0 0 = 0x11 then
    { file with type := F.fileTypeWorkingEf, efStructure := F.efTransparent }
  else if tag.length = 3 ∧ tag.getD 1 0 = 0x21 then
    let file := { file with recordLength := (tag.getD 2 0).toNat, type := F.fileTypeWorkingEf }
    if tag.getD 0 0 = 0x02 then { file with efStructure := F.efLinearFixed }
    else if tag.getD 0 0 = 0x07 then { file with efStructure := F.efCyclic }
    else if tag.getD 0 0 = 0x17 then { file with efStructure := F.efUnknown }
    else { file with efStructure := F.efUnknown, recordLength := 0 }
  else file

/-- `process_fci`: decode the FCI `buf` returned by a SELECT into `file`. -/
def processFci (file : ScFile) (buf : List UInt8) : ScRet × ScFile :=
  if buf.length < 2 then (.err .internal, file)
  else if buf.getD 0 0 ≠ 0x6f then (.err .invalidData, file)
  else
    let len := (buf.getD 1 0).toNat
    if buf.length - 2 < len then (.err .invalidData, file)
    else
      let p := (buf.drop 2).take len
      let file := { file with
        type := F.fileTypeWorkingEf, efStructure := F.efUnknown, shareable := false,
        recordLength := 0, size := 0 }
      let file := match F.asn1FindTag p 0x80 with
        | some tag =>
          if tag.length ≥ 2 then { file with size := (tag.getD 0 0).toNat * 256 + (tag.getD 1 0).toNat }
          else file
        | none => file
      let file := match F.asn1FindTag p 0x82 with
        | some tag => fciDescriptor F file tag
        | none => file
      (scSuccess, { file with magic := true })

/-! ## `starcos_select_aid` -/

/-- The descriptor `starcos_select_aid` hands out: a DF named by its AID. -/
def aidFile (aid : List UInt8) : ScFile :=
  { ScFile.new with
    type := F.fileTypeDf, efStructure := F.efUnknown, size := 0, name := aid, id := 0,
    magic := true }

/-- `starcos_select_aid`: SELECT by AID without FCI; on `90 00` or `61 xx` the cache
holds the AID. -/
def selectAid (card : ScCard) (aid : List UInt8) (wantFile : Bool) :
    Prog (ScRet × ScCard × Option ScFile) :=
  Prog.send { formatApdu card .case3Short 0xA4 0x04 0x0C with data := aid }
    (fun e => (.err e, card, none)) fun sw1 sw2 _ =>
  if ¬ IsOk sw1 sw2 ∧ sw1 ≠ 0x61 then .ret (checkSw F sw1 sw2, card, none)
  else
    let card := { card with cache := ⟨.dfName, aid⟩ }
    if wantFile then
      Prog.allocOr (.err .outOfMemory, card, none) (.ret (scSuccess, card, some (aidFile F aid)))
    else .ret (scSuccess, card, none)

/-! ## `starcos_select_fid` -/

/-- The cache after the DF with FID `hi lo` was selected: `3F 00` for the MF, else
`3F 00 hi lo`. -/
def dfCachePath (idHi idLo : UInt8) : ScPath :=
  if idHi = 0x3f ∧ idLo = 0x00 then ⟨.path, [0x3f, 0x00]⟩
  else ⟨.path, [0x3f, 0x00, idHi, idLo]⟩

/-- The descriptor of a DF selected by FID. -/
def fidDfFile (id : Nat) (path : ScPath) : ScFile :=
  { ScFile.new with
    id, path, type := F.fileTypeDf, efStructure := F.efUnknown, size := 0, name := [],
    magic := true }

/-- Lines 317-362 of `starcos_select_fid`: check the SELECT's status word, update the
cache when a DF was detected, and build the descriptor. -/
def selectFidDone (card : ScCard) (idHi idLo : UInt8) (wantFile bIsDF : Bool)
    (sw1 sw2 : Nat) (resp : List UInt8) : Prog (ScRet × ScCard × Option ScFile) :=
  if sw1 ≠ 0x61 ∧ ¬ IsOk sw1 sw2 then .ret (checkSw F sw1 sw2, card, none)
  else
    let card := if bIsDF then { card with cache := dfCachePath idHi idLo } else card
    if wantFile then
      Prog.allocOr (.err .outOfMemory, card, none) <|
        let id := idHi.toNat * 256 + idLo.toNat
        if bIsDF then .ret (scSuccess, card, some (fidDfFile F id card.cache))
        else
          match processFci F { ScFile.new with id, path := card.cache } resp with
          | (r, file) => if r = scSuccess then .ret (scSuccess, card, some file)
                         else .ret (r, card, none)
    else .ret (scSuccess, card, none)

/-- The one-byte READ BINARY that tells a DF from an EF. -/
def probeApdu (card : ScCard) : Apdu :=
  { formatApdu card .case2Short 0xB0 0 0 with resplen := 2, le := 1 }

/-- The SELECT by FID, with FCI exactly when a descriptor is wanted. -/
def selectFidApdu (card : ScCard) (idHi idLo : UInt8) (wantFile : Bool) : Apdu :=
  { formatApdu card .case4Short 0xA4 0x00 0x00 with
    p2 := if wantFile then 0x00 else 0x0C, data := [idHi, idLo], le := 256,
    resplen := F.maxApduBufferSize }

/-- `starcos_select_fid`. -/
def selectFid (card : ScCard) (idHi idLo : UInt8) (wantFile : Bool) :
    Prog (ScRet × ScCard × Option ScFile) :=
  let apdu := selectFidApdu F card idHi idLo wantFile
  Prog.send apdu (fun e => (.err e, card, none)) fun sw1 sw2 resp =>
  if apdu.p2 = 0x00 ∧ sw1 = 0x62 ∧ sw2 = 0x84 then
    Prog.send { apdu with p2 := 0x0C, cse := .case3Short, resplen := 0, le := 0 }
      (fun e => (.err e, card, none)) fun sw1 sw2 resp =>
    selectFidDone F card idHi idLo wantFile true sw1 sw2 resp
  else if sw1 = 0x61 ∨ IsOk sw1 sw2 then
    Prog.send (probeApdu card) (fun e => (.err e, card, none)) fun sw1' sw2' _ =>
    selectFidDone F card idHi idLo wantFile (sw1' = 0x69 ∧ sw2' = 0x86) sw1 sw2 resp
  else selectFidDone F card idHi idLo wantFile false sw1 sw2 resp

/-! ## `starcos_select_file` -/

/-- Whether a path begins with the MF's FID `3F 00`. -/
def StartsWithMf (path : List UInt8) : Prop :=
  path.getD 0 0 = 0x3f ∧ path.getD 1 0 = 0x00

instance (path : List UInt8) : Decidable (StartsWithMf path) :=
  inferInstanceAs (Decidable (_ ∧ _))

/-- Lines 436-444: a path that does not begin with `3F 00` gets it prepended. -/
def normalizePath (path : List UInt8) : List UInt8 :=
  if StartsWithMf path then path else [0x3f, 0x00] ++ path

/-- The `bMatch` loop at lines 452-456: two for every FID of the cached path that equals
the FID at the same place of `path` --- every FID, not only a leading run.  A cached
path of odd length, which the driver never writes, meets a zero byte past its end. -/
def matchCount : List UInt8 → List UInt8 → Nat
  | c₀ :: c₁ :: cs, path =>
    (if c₀ = path.getD 0 0 ∧ c₁ = path.getD 1 0 then 2 else 0) + matchCount cs (path.drop 2)
  | [c₀], path => if c₀ = path.getD 0 0 ∧ (0 : UInt8) = path.getD 1 0 then 2 else 0
  | [], _ => 0

/-- The guard at lines 447-450: the cache holds a path of FIDs no longer than the
request. -/
def CacheUsable (card : ScCard) (pathlen : Nat) : Prop :=
  card.cacheValid = true ∧ card.cache.type = .path ∧ 2 ≤ card.cache.value.length ∧
    card.cache.value.length ≤ pathlen

instance (card : ScCard) (pathlen : Nat) : Decidable (CacheUsable card pathlen) :=
  inferInstanceAs (Decidable (_ ∧ _))

/-- `(path[pathlen-2] << 8) + path[pathlen-1]`: the last FID of a path as a file id. -/
def lastFid (path : List UInt8) : Nat :=
  (path.getD (path.length - 2) 0).toNat * 256 + (path.getD (path.length - 1) 0).toNat

/-- The descriptor of a cache hit (lines 486-498): the DF named by the last FID. -/
def cachedDfFile (card : ScCard) (path : List UInt8) : ScFile :=
  fidDfFile F (lastFid path) card.cache

/-- The loop at lines 507-512, without a usable cache: every FID but the last is
selected without a descriptor, then the last one. -/
def selectCold (card : ScCard) : List UInt8 → Bool → Prog (ScRet × ScCard × Option ScFile)
  | [hi, lo], wantFile => selectFid F card hi lo wantFile
  | hi :: lo :: rest, wantFile =>
    (selectFid F card hi lo false).bind fun (r, card, _) =>
      match r with
      | .err e => .ret (.err e, card, none)
      | .ok _ => selectCold card rest wantFile
  -- not reached: the path has an even length of at least 2
  | _, _ => .ret (.err .invalidArguments, card, none)

/-- The `SC_PATH_TYPE_PATH` branch of `starcos_select_file`.  `recurse` is the recursive
call of line 477. -/
def selectPath (recurse : ScCard → ScPath → Bool → Prog (ScRet × ScCard × Option ScFile))
    (card : ScCard) (path : List UInt8) (wantFile : Bool) :
    Prog (ScRet × ScCard × Option ScFile) :=
  if path.length % 2 ≠ 0 ∨ path.length > 6 ∨ path.length = 0 then
    .ret (.err .invalidArguments, card, none)
  else if path.length = 6 ∧ ¬ StartsWithMf path then .ret (.err .invalidArguments, card, none)
  else
    let path := normalizePath path
    if CacheUsable card path.length then
      let bMatch := matchCount card.cache.value path
      if path.length - bMatch = 2 then
        selectFid F card (path.getD bMatch 0) (path.getD (bMatch + 1) 0) wantFile
      else if path.length - bMatch > 2 then
        (selectFid F card (path.getD bMatch 0) (path.getD (bMatch + 1) 0) false).bind
          fun (r, card, _) =>
          match r with
          | .err e => .ret (.err e, card, none)
          | .ok _ => recurse card ⟨.path, path.drop (bMatch + 2)⟩ wantFile
      else if wantFile then
        Prog.allocOr (.err .outOfMemory, card, none)
          (.ret (scSuccess, card, some (cachedDfFile F card path)))
      else .ret (scSuccess, card, none)
    else selectCold F card path wantFile

/-- **The branches of the PATH request**: an invalid path, and for a valid one (of even
length from 2 to 6, beginning `3F 00` when of length 6, normalized to `q`) a usable cache
with `bMatch = m` one SELECT away, more than one SELECT away or a hit, or no usable
cache.  Every property of `selectPath` is proved from this case analysis. -/
theorem selectPath_cases {P : Prog (ScRet × ScCard × Option ScFile) → Prop}
    {recurse : ScCard → ScPath → Bool → Prog (ScRet × ScCard × Option ScFile)}
    {card : ScCard} {path : List UInt8} {w : Bool}
    (hbad : P (.ret (.err .invalidArguments, card, none)))
    (hone : ∀ q m, q = normalizePath path → m = matchCount card.cache.value q →
      2 ≤ path.length → CacheUsable card q.length → q.length - m = 2 →
      P (selectFid F card (q.getD m 0) (q.getD (m + 1) 0) w))
    (hmore : ∀ q m, q = normalizePath path → m = matchCount card.cache.value q →
      path.length % 2 = 0 ∧ 2 ≤ path.length ∧ path.length ≤ 6 →
      (path.length = 6 → StartsWithMf path) → CacheUsable card q.length → q.length - m > 2 →
      P ((selectFid F card (q.getD m 0) (q.getD (m + 1) 0) false).bind fun x =>
        match x.1 with
        | .err e => .ret (.err e, x.2.1, none)
        | .ok _ => recurse x.2.1 ⟨.path, q.drop (m + 2)⟩ w))
    (hhit : ∀ q m, q = normalizePath path → m = matchCount card.cache.value q →
      2 ≤ path.length → CacheUsable card q.length → q.length - m < 2 →
      P (if w then Prog.allocOr (.err .outOfMemory, card, none)
          (.ret (scSuccess, card, some (cachedDfFile F card q)))
        else .ret (scSuccess, card, none)))
    (hcold : 2 ≤ path.length → ¬ CacheUsable card (normalizePath path).length →
      P (selectCold F card (normalizePath path) w)) :
    P (selectPath F recurse card path w) := by
  unfold selectPath
  by_cases hb : path.length % 2 ≠ 0 ∨ path.length > 6 ∨ path.length = 0
  · rw [if_pos hb]
    exact hbad
  rw [if_neg hb]
  by_cases h6 : path.length = 6 ∧ ¬ StartsWithMf path
  · rw [if_pos h6]
    exact hbad
  rw [if_neg h6]
  have hv : path.length % 2 = 0 ∧ 2 ≤ path.length ∧ path.length ≤ 6 := by omega
  dsimp only
  by_cases hu : CacheUsable card (normalizePath path).length
  · rw [if_pos hu]
    by_cases h2 : (normalizePath path).length - matchCount card.cache.value (normalizePath path) = 2
    · rw [if_pos h2]
      exact hone _ _ rfl rfl hv.2.1 hu h2
    rw [if_neg h2]
    by_cases hgt : (normalizePath path).length - matchCount card.cache.value (normalizePath path) > 2
    · rw [if_pos hgt]
      exact hmore _ _ rfl rfl hv (fun h => not_not.mp fun hs => h6 ⟨h, hs⟩) hu hgt
    rw [if_neg hgt]
    exact hhit _ _ rfl rfl hv.2.1 hu (by omega)
  · rw [if_neg hu]
    exact hcold hv.2.1 hu

/-- `starcos_select_file`, with `fuel` bounding the depth of its recursion. -/
def selectFile : Nat → ScCard → ScPath → Bool → Prog (ScRet × ScCard × Option ScFile)
  | 0, _, _, _ => .diverge
  | fuel + 1, card, inPath, wantFile =>
    match inPath.type with
    | .fileId =>
      if inPath.value.length ≠ 2 then .ret (.err .invalidArguments, card, none)
      else selectFid F card (inPath.value.getD 0 0) (inPath.value.getD 1 0) wantFile
    | .dfName =>
      if card.cacheValid = true ∧ card.cache.type = .dfName ∧ card.cache.value = inPath.value
      then .ret (scSuccess, card, none)
      else selectAid F card inPath.value wantFile
    | .path => selectPath F (selectFile fuel) card inPath.value wantFile
    | .pathProt => .ret (.err .invalidArguments, card, none)

/-! ## A selection writes only the cache -/

/-- `c` is `card` with possibly another cached path. -/
def ScCard.CacheOnly (card c : ScCard) : Prop := c = { card with cache := c.cache }

theorem ScCard.CacheOnly.refl (card : ScCard) : card.CacheOnly card := rfl

theorem ScCard.CacheOnly.trans {c₁ c₂ c₃ : ScCard} (h₁ : c₁.CacheOnly c₂)
    (h₂ : c₂.CacheOnly c₃) : c₁.CacheOnly c₃ := by
  unfold ScCard.CacheOnly at *
  rw [h₂, h₁]

theorem ScCard.CacheOnly.drvData {card c : ScCard} (h : card.CacheOnly c) :
    c.drvData = card.drvData := by
  rw [h]

theorem ScCard.CacheOnly.serialnr {card c : ScCard} (h : card.CacheOnly c) :
    c.serialnr = card.serialnr := by
  rw [h]

theorem ScCard.CacheOnly.cacheValid {card c : ScCard} (h : card.CacheOnly c) :
    c.cacheValid = card.cacheValid := by
  rw [h]

theorem ScCard.cacheOnly_with (card : ScCard) (p : ScPath) :
    card.CacheOnly { card with cache := p } := rfl

/-- **What the end of `starcos_select_fid` can do**: return the translated refusal, or,
with the card kept or its cache set to the DF, return success without a descriptor or
allocate and return one result.  It sends nothing.  The lemmas about `selectFidDone`
that need no more than this are proved from it. -/
theorem selectFidDone_eq (card : ScCard) (hi lo : UInt8) (w b : Bool) (sw1 sw2 : Nat)
    (resp : List UInt8) :
    selectFidDone F card hi lo w b sw1 sw2 resp = .ret (checkSw F sw1 sw2, card, none) ∨
      ∃ c, (c = card ∨ c = { card with cache := dfCachePath hi lo }) ∧
        (selectFidDone F card hi lo w b sw1 sw2 resp = .ret (scSuccess, c, none) ∨
          ∃ x : ScRet × Option ScFile, selectFidDone F card hi lo w b sw1 sw2 resp =
            Prog.allocOr (.err .outOfMemory, c, none) (.ret (x.1, c, x.2))) := by
  unfold selectFidDone
  by_cases herr : sw1 ≠ 0x61 ∧ ¬ IsOk sw1 sw2
  · exact .inl (if_pos herr)
  rw [if_neg herr]
  refine .inr ⟨if b then { card with cache := dfCachePath hi lo } else card,
    by cases b <;> simp, ?_⟩
  cases w
  · exact .inl rfl
  refine .inr ?_
  cases b
  · simp only [Bool.false_eq_true, ↓reduceIte]
    generalize processFci F _ resp = p
    obtain ⟨r, file⟩ := p
    by_cases hr : r = scSuccess
    · exact ⟨(scSuccess, some file), by simp only [hr, ↓reduceIte]⟩
    · exact ⟨(r, none), by simp only [hr, ↓reduceIte]⟩
  · exact ⟨(scSuccess, some _), rfl⟩

theorem selectFidDone_cacheOnly (card : ScCard) (hi lo : UInt8) (w b : Bool) (sw1 sw2 : Nat)
    (resp : List UInt8) :
    (selectFidDone F card hi lo w b sw1 sw2 resp).Always fun x => card.CacheOnly x.2.1 := by
  have hc : ∀ c : ScCard, (c = card ∨ c = { card with cache := dfCachePath hi lo }) →
      card.CacheOnly c := by
    rintro c (rfl | rfl)
    exacts [ScCard.CacheOnly.refl _, ScCard.cacheOnly_with _ _]
  rcases selectFidDone_eq F card hi lo w b sw1 sw2 resp with h | ⟨c, hcc, h | ⟨x, h⟩⟩ <;>
    rw [h]
  · exact ScCard.CacheOnly.refl _
  · exact hc c hcc
  · exact (Prog.always_allocOr _ _ _).mpr ⟨hc c hcc, hc c hcc⟩

theorem selectFid_cacheOnly (card : ScCard) (hi lo : UInt8) (w : Bool) :
    (selectFid F card hi lo w).Always fun x => card.CacheOnly x.2.1 := by
  unfold selectFid
  simp only [Prog.always_send, ScCard.CacheOnly.refl, implies_true, true_and]
  intro sw1 sw2 resp
  split_ifs <;> simp [ScCard.CacheOnly.refl, selectFidDone_cacheOnly]

theorem selectAid_cacheOnly (card : ScCard) (aid : List UInt8) (w : Bool) :
    (selectAid F card aid w).Always fun x => card.CacheOnly x.2.1 := by
  unfold selectAid
  simp only [Prog.always_send, ScCard.CacheOnly.refl, implies_true, true_and]
  intro sw1 sw2 resp
  split_ifs <;> simp [ScCard.CacheOnly.refl, ScCard.cacheOnly_with]

/-- A step that writes only the cache, followed by one that writes only the cache. -/
theorem always_cacheOnly_bind {α β : Type} {card : ScCard} {p : Prog (ScRet × ScCard × α)}
    {f : ScRet × ScCard × α → Prog (ScRet × ScCard × β)}
    (hp : p.Always fun x => card.CacheOnly x.2.1)
    (hf : ∀ x, card.CacheOnly x.2.1 → (f x).Always fun y => x.2.1.CacheOnly y.2.1) :
    (p.bind f).Always fun y => card.CacheOnly y.2.1 :=
  Prog.always_bind.mpr (hp.mono fun x hx => (hf x hx).mono fun _ hy => hx.trans hy)

theorem selectCold_cacheOnly (card : ScCard) (path : List UInt8) (w : Bool) :
    (selectCold F card path w).Always fun x => card.CacheOnly x.2.1 := by
  induction card, path, w using selectCold.induct F with
  | case1 card hi lo w => exact selectFid_cacheOnly F card hi lo w
  | case2 card hi lo rest w hne ih =>
    rw [selectCold.eq_2 F card w hi lo rest hne]
    refine always_cacheOnly_bind (selectFid_cacheOnly F card hi lo false) fun ⟨r, c, _⟩ _ => ?_
    cases r with
    | err e => exact ScCard.CacheOnly.refl c
    | ok n => exact ih c
  | case3 path card w h₁ h₂ =>
    rw [selectCold.eq_3 F card path w h₁ h₂]
    exact ScCard.CacheOnly.refl card

theorem selectPath_cacheOnly
    {recurse : ScCard → ScPath → Bool → Prog (ScRet × ScCard × Option ScFile)}
    (hrec : ∀ c p w, (recurse c p w).Always fun x => c.CacheOnly x.2.1)
    (card : ScCard) (path : List UInt8) (w : Bool) :
    (selectPath F recurse card path w).Always fun x => card.CacheOnly x.2.1 := by
  refine selectPath_cases F (ScCard.CacheOnly.refl card)
    (fun _ _ _ _ _ _ _ => selectFid_cacheOnly F _ _ _ _)
    (fun _ _ _ _ _ _ _ _ => always_cacheOnly_bind (selectFid_cacheOnly F _ _ _ _)
      fun ⟨r, c, _⟩ _ => ?_) (fun _ _ _ _ _ _ _ => ?_) fun _ _ => selectCold_cacheOnly F _ _ _
  · cases r with
    | err e => exact ScCard.CacheOnly.refl c
    | ok n => exact hrec c _ w
  · split <;> simp [ScCard.CacheOnly.refl]

/-- **A selection writes only the cache.** -/
theorem selectFile_cacheOnly (fuel : Nat) (card : ScCard) (path : ScPath) (w : Bool) :
    (selectFile F fuel card path w).Always fun x => card.CacheOnly x.2.1 := by
  induction fuel generalizing card path w with
  | zero => trivial
  | succ fuel ih =>
    unfold selectFile
    split
    · split_ifs
      · exact ScCard.CacheOnly.refl card
      · exact selectFid_cacheOnly F _ _ _ _
    · split_ifs
      · exact ScCard.CacheOnly.refl card
      · exact selectAid_cacheOnly F _ _ _
    · exact selectPath_cacheOnly F ih card _ w
    · exact ScCard.CacheOnly.refl card

end StarcosDriver
