import Mathlib
import StarcosDriver.Keys

/-!
# The chunks of `starcos_write_key`

`starcos_write_key` streams a key to the card in chunks of `STARCOS_WKEY_CSIZE = 124`
bytes.  Each chunk names its offset in two bytes (lines 934-935), and `key_len` is never
bounded, so the offset wraps at `65536`.  This module says what the loop sends to a card
that accepts every command, and what that card holds once it has written every chunk at
the offset the chunk names.

`writeKeyLoop_run` is the loop invariant: from `offset` with `tlen` bytes left, the loop
sends `ceil(tlen / 124)` chunks, chunk `i` at `offset + 124 * i`.  `writeKey_chunks`
says what the whole call does: the commands sent, the chunk lengths
(all `124` but the last, which is between `1` and `124`), the offsets as sums of the
lengths before them, the offsets as the header encodes them, modulo `65536`, and
reconstruction for every key of at most `65596` bytes.  The last chunk of a key that long
starts at `124 * 528 = 65472`; a longer key has a chunk at `65596`, which names offset
`60`, and `rebuild_65597_getD` says where its byte lands.
-/

namespace StarcosDriver

variable (F : Framework)

/-! ## The chunks, and what the card makes of them -/

/-- A card that answers every command with `90 00` and no data. -/
def acceptingCard : Unit → Apdu → Unit × Reply := fun _ _ => ((), .answer 0x90 0x00 [])

/-- `ceil(n / STARCOS_WKEY_CSIZE)`: the number of chunks of an `n`-byte key. -/
def chunkCount (n : Nat) : Nat := (n + wkeyCsize - 1) / wkeyCsize

/-- The length of chunk `i` of an `n`-byte key: `STARCOS_WKEY_CSIZE`, or what is left. -/
def chunkLen (n i : Nat) : Nat := min wkeyCsize (n - wkeyCsize * i)

/-- Chunk `i` of `key`, as `writeKeyChunkApdu` builds it at offset `124 * i`. -/
def keyChunk (card : ScCard) (mode kid : Nat) (key : List UInt8) (i : Nat) : Apdu :=
  writeKeyChunkApdu card mode kid (wkeyCsize * i) (chunkLen key.length i)
    ((key.drop (wkeyCsize * i)).take (chunkLen key.length i))

/-- `bytes` written over `buf` from offset `off`. -/
def writeAt (buf : List UInt8) (off : Nat) (bytes : List UInt8) : List UInt8 :=
  buf.take off ++ bytes ++ buf.drop (off + bytes.length)

/-- The offset a chunk command names: bytes 3 and 4 of its data, high byte first. -/
def encodedOffset (apdu : Apdu) : Nat :=
  (apdu.data.getD 3 0).toNat * 256 + (apdu.data.getD 4 0).toNat

/-- What the card's ISF holds after it writes each chunk's key bytes (its data from byte
5 on) at the offset the chunk names, starting from `buf`. -/
def rebuild (buf : List UInt8) (chunks : List Apdu) : List UInt8 :=
  chunks.foldl (fun b apdu => writeAt b (encodedOffset apdu) (apdu.data.drop 5)) buf

@[simp] theorem rebuild_nil (buf : List UInt8) : rebuild buf [] = buf := rfl

@[simp] theorem rebuild_cons (buf : List UInt8) (apdu : Apdu) (chunks : List Apdu) :
    rebuild buf (apdu :: chunks) =
      rebuild (writeAt buf (encodedOffset apdu) (apdu.data.drop 5)) chunks := rfl

theorem rebuild_append (buf : List UInt8) (c₁ c₂ : List Apdu) :
    rebuild buf (c₁ ++ c₂) = rebuild (rebuild buf c₁) c₂ :=
  List.foldl_append _ _ _ _

/-- The key bytes a chunk carries after its five header bytes. -/
theorem keyChunk_bytes (card : ScCard) (mode kid : Nat) (key : List UInt8) (i : Nat) :
    (keyChunk card mode kid key i).data.drop 5 =
      (key.drop (wkeyCsize * i)).take (chunkLen key.length i) := rfl

/-! ## The loop -/

/-- **The loop invariant of `starcos_write_key`.**  Against a card that accepts every
command, the loop from `offset` with `tlen` bytes left succeeds after `ceil(tlen / 124)`
chunks, chunk `i` holding the `chunkLen tlen i` key bytes from `offset + 124 * i`. -/
theorem writeKeyLoop_run (card : ScCard) (mode kid : Nat) (key : List UInt8) (offset tlen : Nat) :
    ((writeKeyLoop F card mode kid key offset tlen).run acceptingCard ()).1 = some scSuccess ∧
    Prog.sent ((writeKeyLoop F card mode kid key offset tlen).run acceptingCard ()).2.2 =
      (List.range (chunkCount tlen)).map fun i =>
        writeKeyChunkApdu card mode kid (offset + wkeyCsize * i) (chunkLen tlen i)
          ((key.drop (offset + wkeyCsize * i)).take (chunkLen tlen i)) := by
  simp only [chunkCount, chunkLen, wkeyCsize, Nat.add_sub_cancel]
  induction offset, tlen using writeKeyLoop.induct F card mode kid key with
  | case1 offset =>
    rw [writeKeyLoop, if_pos rfl]
    exact ⟨rfl, rfl⟩
  | case2 offset tlen h0 clen ih =>
    have hclen : (if tlen < wkeyCsize then tlen else wkeyCsize) = min 124 tlen := by
      simp only [wkeyCsize]; split <;> omega
    have hcount : (tlen + 124 - 1) / 124 = (tlen - min 124 tlen + 124 - 1) / 124 + 1 := by
      omega
    rw [writeKeyLoop, if_neg h0]
    simp only [Prog.send, Prog.run, acceptingCard, IsOk, and_self, not_true_eq_false, ↓reduceIte,
      Prog.sent_exchange, hclen]
    simp only [clen, dite_eq_ite, hclen] at ih
    refine ⟨ih.1, ?_⟩
    rw [ih.2, hcount, List.range_succ_eq_map, List.map_cons, List.map_map]
    simp only [Nat.mul_zero, Nat.add_zero, Nat.sub_zero, List.cons.injEq, true_and]
    refine List.map_congr_left fun i hi => ?_
    have h124 : min 124 tlen = 124 := by simp only [List.mem_range] at hi; omega
    have e₁ : offset + 124 + 124 * i = offset + 124 * (i + 1) := by omega
    have e₂ : tlen - 124 - 124 * i = tlen - 124 * (i + 1) := by omega
    simp only [Function.comp, h124, e₁, e₂]

/-- The whole call: the key header when the mode is `0`, then the chunks of the key. -/
theorem writeKey_run (card : ScCard) (data : WkeyData) :
    ((writeKey F card data).run acceptingCard ()).1 = some scSuccess ∧
    Prog.sent ((writeKey F card data).run acceptingCard ()).2.2 =
      (if data.mode = 0 then
        [proprietaryApdu card 0xf4 data.mode.toUInt8 0x00 ([0xc1, 0x0c] ++ data.keyHeader)]
       else []) ++
        (List.range (chunkCount (data.key.getD []).length)).map
          (keyChunk card data.mode data.kid (data.key.getD [])) := by
  have hloop := writeKeyLoop_run F card data.mode data.kid (data.key.getD []) 0
    (data.key.getD []).length
  simp only [Nat.zero_add] at hloop
  unfold writeKey
  by_cases hm : data.mode = 0
  · simp only [if_pos hm, Prog.send, Prog.run, acceptingCard, IsOk, and_self,
      not_true_eq_false, ↓reduceIte, Prog.sent_exchange, List.singleton_append]
    by_cases hk : data.key = none
    · rw [if_pos ⟨hk, hm⟩]
      simp only [hk, hm, chunkCount, wkeyCsize, Option.getD_none, List.length_nil, ↓reduceIte]
      exact ⟨rfl, rfl⟩
    · rw [if_neg fun h => hk h.1]
      exact ⟨hloop.1, by rw [hloop.2]; rfl⟩
  · rw [if_neg hm, if_neg fun h => hm h.2, if_neg hm]
    exact ⟨hloop.1, hloop.2⟩

/-! ## Lengths and offsets -/

/-- Every chunk but the last is full. -/
theorem chunkLen_eq_csize {n i : Nat} (h : i + 1 < chunkCount n) : chunkLen n i = wkeyCsize := by
  simp only [chunkLen, chunkCount, wkeyCsize] at h ⊢
  omega

/-- The last chunk holds between `1` and `124` bytes. -/
theorem chunkLen_last {n : Nat} (h : 0 < chunkCount n) :
    1 ≤ chunkLen n (chunkCount n - 1) ∧ chunkLen n (chunkCount n - 1) ≤ wkeyCsize := by
  simp only [chunkLen, chunkCount, wkeyCsize] at h ⊢
  omega

/-- The chunks before chunk `i` hold `124 * i` bytes, or the whole key. -/
theorem sum_chunkLen (n i : Nat) :
    ((List.range i).map (chunkLen n)).sum = min (wkeyCsize * i) n := by
  induction i with
  | zero => simp
  | succ i ih =>
    rw [List.range_succ, List.map_append, List.sum_append, ih]
    simp only [List.map_cons, List.map_nil, List.sum_cons, List.sum_nil, chunkLen, wkeyCsize]
    omega

theorem length_chunkBytes (key : List UInt8) (i : Nat) :
    ((key.drop (wkeyCsize * i)).take (chunkLen key.length i)).length = chunkLen key.length i := by
  simp only [List.length_take, List.length_drop, chunkLen, wkeyCsize]
  omega

theorem byteAt_toNat (n s : Nat) : (byteAt n s).toNat = n / 2 ^ s % 256 := by
  show ((n >>> s) &&& 2 ^ 8 - 1) % 256 = _
  rw [Nat.and_pow_two_sub_one_eq_mod, Nat.shiftRight_eq_div_pow, Nat.mod_mod]

/-- The offset chunk `i` names is `124 * i` modulo `65536`: lines 934-935 keep two bytes. -/
theorem encodedOffset_keyChunk (card : ScCard) (mode kid : Nat) (key : List UInt8) (i : Nat) :
    encodedOffset (keyChunk card mode kid key i) = wkeyCsize * i % 65536 := by
  show (byteAt (wkeyCsize * i) 8).toNat * 256 + (byteAt (wkeyCsize * i) 0).toNat = _
  rw [byteAt_toNat, byteAt_toNat]
  omega

/-! ## Reconstruction -/

/-- Writing the `l` key bytes from `o` over a buffer that already holds the key's first `o`
bytes makes it hold the first `o + l`. -/
theorem writeAt_take_drop {key buf : List UInt8} (hlen : key.length = buf.length) {o l : Nat}
    (hol : o + l ≤ key.length) :
    writeAt (key.take o ++ buf.drop o) o ((key.drop o).take l) =
      key.take (o + l) ++ buf.drop (o + l) := by
  have hto : (key.take o).length = o := by simp; omega
  have hl : ((key.drop o).take l).length = l := by simp; omega
  unfold writeAt
  rw [hl, List.take_left' hto, List.drop_append_eq_append_drop, hto,
    List.drop_eq_nil_of_le (show (key.take o).length ≤ o + l by omega), List.nil_append,
    List.drop_drop, List.take_add]
  congr 2
  omega

/-- The card side of the loop invariant: as long as no offset has wrapped, the first `i`
chunks put the key's first `124 * i` bytes in place and leave the rest of the buffer. -/
theorem rebuild_range (card : ScCard) (mode kid : Nat) {key buf : List UInt8}
    (hlen : key.length = buf.length) {i : Nat} (hi : i ≤ chunkCount key.length)
    (hwrap : ∀ j < i, wkeyCsize * j < 65536) :
    rebuild buf ((List.range i).map (keyChunk card mode kid key)) =
      key.take (min (wkeyCsize * i) key.length) ++ buf.drop (min (wkeyCsize * i) key.length) := by
  induction i with
  | zero => simp
  | succ i ih =>
    have hc : wkeyCsize * i < key.length := by simp only [chunkCount, wkeyCsize] at hi ⊢; omega
    have hmin : min (wkeyCsize * i) key.length = wkeyCsize * i := by omega
    have hnext : wkeyCsize * i + chunkLen key.length i = min (wkeyCsize * (i + 1)) key.length := by
      simp only [chunkLen, wkeyCsize] at hc ⊢; omega
    rw [List.range_succ, List.map_append, rebuild_append,
      ih (by omega) fun j hj => hwrap j (by omega), hmin]
    simp only [List.map_cons, List.map_nil, rebuild_cons, rebuild_nil,
      encodedOffset_keyChunk, Nat.mod_eq_of_lt (hwrap i (by omega))]
    rw [← hnext]
    exact writeAt_take_drop hlen (by rw [hnext]; omega)

/-- **A key of at most `65596` bytes is rebuilt exactly.**  Its last chunk starts at
`124 * 528 = 65472`, so no offset wraps. -/
theorem rebuild_keyChunks (card : ScCard) (mode kid : Nat) {key buf : List UInt8}
    (hlen : key.length = buf.length) (hn : key.length ≤ 65596) :
    rebuild buf ((List.range (chunkCount key.length)).map (keyChunk card mode kid key)) = key := by
  have hall : min (wkeyCsize * chunkCount key.length) key.length = key.length := by
    simp only [chunkCount, wkeyCsize]; omega
  rw [rebuild_range card mode kid hlen le_rfl fun j hj => by
      simp only [chunkCount, wkeyCsize] at hj ⊢; omega,
    hall, List.take_length, List.drop_eq_nil_of_le (by omega), List.append_nil]

/-- A key of `65597` bytes has a 530th chunk, of one byte at offset `65596`, which names
offset `60`: that byte lands at `60`. -/
theorem rebuild_65597_getD (card : ScCard) (mode kid : Nat) {key buf : List UInt8}
    (hk : key.length = 65597) (hb : buf.length = 65597) :
    (rebuild buf ((List.range (chunkCount key.length)).map (keyChunk card mode kid key))).getD
      60 0 = key.getD 65596 0 := by
  have hc : chunkCount key.length = 529 + 1 := by rw [hk]; rfl
  rw [hc, List.range_succ, List.map_append, rebuild_append,
    rebuild_range card mode kid (hk.trans hb.symm) (by rw [hc]; omega)
      fun j hj => by simp only [wkeyCsize]; omega]
  simp only [List.map_cons, List.map_nil, rebuild_cons, rebuild_nil, encodedOffset_keyChunk]
  have hlast : chunkLen key.length 529 = 1 := by rw [hk]; rfl
  rw [keyChunk_bytes, hlast, show wkeyCsize * 529 = 65596 from rfl,
    show min 65596 key.length = 65596 by rw [hk]; rfl]
  have hpre : ((key.take 65596 ++ buf.drop 65596).take 60).length = 60 := by
    simp only [List.length_take, List.length_append, List.length_drop, hk, hb]; omega
  unfold writeAt
  rw [List.append_assoc, List.getD_eq_getElem?_getD,
    List.getElem?_append_right (Nat.le_of_eq hpre), hpre, Nat.sub_self]
  have hone : (List.take 1 (List.drop 65596 key)).length = 1 := by
    simp only [List.length_take, List.length_drop, hk]; rfl
  rw [List.getElem?_append_left (show 0 < (List.take 1 (List.drop 65596 key)).length by omega),
    List.getElem?_take, List.getElem?_drop,
    List.getD_eq_getElem?_getD]
  rfl

/-! ## What `starcos_write_key` sends -/

/-- **The chunks of `starcos_write_key`.**  Against a card that accepts every command the
call succeeds and sends the key header (mode `0`) and then `ceil(n / 124)` chunks of
`124` bytes but the last, which holds `1` to `124`; chunk `i` starts at the sum of the
lengths before it, its header names that offset modulo `65536`, and writing the chunks
at the offsets they name rebuilds every key of at most `65596` bytes. -/
theorem writeKey_chunks (card : ScCard) (data : WkeyData) :
    let key := data.key.getD []
    let chunks := (List.range (chunkCount key.length)).map (keyChunk card data.mode data.kid key)
    ((writeKey F card data).run acceptingCard ()).1 = some scSuccess ∧
    Prog.sent ((writeKey F card data).run acceptingCard ()).2.2 =
      (if data.mode = 0 then
        [proprietaryApdu card 0xf4 data.mode.toUInt8 0x00 ([0xc1, 0x0c] ++ data.keyHeader)]
       else []) ++ chunks ∧
    (∀ i, ((key.drop (wkeyCsize * i)).take (chunkLen key.length i)).length =
      chunkLen key.length i) ∧
    (∀ i, i + 1 < chunkCount key.length → chunkLen key.length i = wkeyCsize) ∧
    (0 < chunkCount key.length → 1 ≤ chunkLen key.length (chunkCount key.length - 1) ∧
      chunkLen key.length (chunkCount key.length - 1) ≤ wkeyCsize) ∧
    (∀ i < chunkCount key.length,
      wkeyCsize * i = ((List.range i).map (chunkLen key.length)).sum ∧
      encodedOffset (keyChunk card data.mode data.kid key i) = wkeyCsize * i % 65536) ∧
    (key.length ≤ 65596 → ∀ buf : List UInt8, buf.length = key.length →
      rebuild buf chunks = key) := by
  intro key chunks
  refine ⟨(writeKey_run F card data).1, (writeKey_run F card data).2, length_chunkBytes key,
    fun i => chunkLen_eq_csize, chunkLen_last,
    fun i hi => ⟨?_, encodedOffset_keyChunk _ _ _ _ _⟩,
    fun hn buf hb => rebuild_keyChunks card data.mode data.kid hb.symm hn⟩
  rw [sum_chunkLen]
  simp only [chunkCount, wkeyCsize] at hi ⊢
  omega

/-- A key of `65597` bytes, `65596` zeros and a `1`, written with mode `1` to a card that
accepts every chunk: the card ends up with the `1` at offset `60`, so writing the chunks
at their offsets does not give the key back. -/
theorem writeKey_chunks_key_65597 :
    rebuild (List.replicate 65597 0) (Prog.sent ((writeKey Framework.opensc
        ⟨0, true, ⟨.path, []⟩, [], 128, 128, .zero⟩
        ⟨1, 0, List.replicate 12 0, rfl, some (List.replicate 65596 0 ++ [1])⟩).run
          acceptingCard ()).2.2) ≠
      List.replicate 65596 0 ++ [1] := by
  intro h
  have hlen : (List.replicate 65596 (0 : UInt8) ++ [1]).length = 65597 := by
    rw [List.length_append, List.length_replicate]; rfl
  rw [(writeKey_chunks Framework.opensc _ _).2.1, if_neg (by decide), List.nil_append] at h
  have h60 := congrArg (fun l : List UInt8 => l.getD 60 0) h
  dsimp only [Option.getD_some] at h60
  rw [rebuild_65597_getD _ 1 0 hlen (List.length_replicate _ _)] at h60
  rw [List.getD_eq_getElem?_getD, List.getD_eq_getElem?_getD,
    List.getElem?_append_right (Nat.le_of_eq (List.length_replicate _ _)),
    List.getElem?_append_left (by rw [List.length_replicate]; decide), List.length_replicate,
    Nat.sub_self, List.getElem?_replicate, if_pos (by decide)] at h60
  exact absurd h60 (by decide)

end StarcosDriver
