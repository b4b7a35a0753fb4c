import StarcosDriver.Create

/-!
# Installing and generating keys

`starcos_write_key` installs a key in the card's Internal Secret File: with mode `0` it
first sends the 12-byte key header (`C1 0C ...`), then it streams the key material in
chunks of at most `STARCOS_WKEY_CSIZE = 124` bytes, each prefixed by `C2`, its length,
the key's KID and the chunk's 2-byte offset.  The loop is `writeKeyLoop`, over the
offset and the bytes still to send, exactly as the source keeps them.

`starcos_gen_key` orders an RSA key pair and reads the public key back; the modulus is
the `key_length / 8` bytes at offset 18 of the response buffer, reversed.  The buffer
is a local array, so what lies past the card's answer is whatever it held before;
`genKey` takes those earlier contents as an argument.  `genKey_modulus` says which byte
comes from where: the answer's length is never compared with `18 + key_length / 8`, so
a short answer still succeeds, with modulus bytes taken from the earlier contents.
-/

namespace StarcosDriver

variable (F : Framework)

/-! ## `starcos_write_key` -/

/-- `sc_starcos_wkey_data`.  A missing key is `none`, and `key_len` is the key's length.
The source dereferences a missing key when the mode is not `0`; the model reads it as
an empty key. -/
structure WkeyData where
  mode : Nat
  kid : Nat
  /-- `u8 key_header[12]`. -/
  keyHeader : List UInt8
  keyHeader_length : keyHeader.length = 12
  key : Option (List UInt8)
  deriving DecidableEq, Repr

/-- `STARCOS_WKEY_CSIZE`. -/
def wkeyCsize : Nat := 124

/-- The command carrying one chunk of `clen` bytes: `C2`, `3 + clen`, KID, the offset's
two bytes, and the chunk. -/
def writeKeyChunkApdu (card : ScCard) (mode kid offset clen : Nat) (chunk : List UInt8) :
    Apdu :=
  proprietaryApdu card 0xf4 mode.toUInt8 0x00
    ([0xc2, (3 + clen).toUInt8, kid.toUInt8, byteAt offset 8, byteAt offset 0] ++ chunk)

/-- The `while (tlen)` loop: `offset` bytes of `key` are on the card, `tlen` are left. -/
def writeKeyLoop (card : ScCard) (mode kid : Nat) (key : List UInt8) (offset tlen : Nat) :
    Prog ScRet :=
  if tlen = 0 then .ret scSuccess
  else
    let clen := if tlen < wkeyCsize then tlen else wkeyCsize
    Prog.send (writeKeyChunkApdu card mode kid offset clen ((key.drop offset).take clen)) .err
      fun sw1 sw2 _ =>
    if ¬ IsOk sw1 sw2 then .ret (checkSw F sw1 sw2)
    else writeKeyLoop card mode kid key (offset + clen) (tlen - clen)
termination_by tlen
decreasing_by simp only [wkeyCsize]; split <;> omega

/-- `starcos_write_key`. -/
def writeKey (card : ScCard) (data : WkeyData) : Prog ScRet :=
  let chunks : Prog ScRet :=
    if data.key = none ∧ data.mode = 0 then .ret scSuccess
    else
      let key := data.key.getD []
      writeKeyLoop F card data.mode data.kid key 0 key.length
  if data.mode = 0 then
    Prog.send (proprietaryApdu card 0xf4 data.mode.toUInt8 0x00 ([0xc1, 0x0c] ++ data.keyHeader))
      .err fun sw1 sw2 _ =>
    if ¬ IsOk sw1 sw2 then .ret (checkSw F sw1 sw2) else chunks
  else chunks

/-! ## `starcos_gen_key` -/

/-- `sc_starcos_gen_key_data`: the key's ISF id and its length in bits. -/
structure GenKeyData where
  keyId : Nat
  keyLength : Nat
  deriving DecidableEq, Repr

/-- The response buffer `rbuf` after an answer `resp`: the answer, then what the buffer
held before. -/
def rbufAfter (rbuf0 resp : List UInt8) : List UInt8 :=
  resp ++ rbuf0.drop resp.length

/-- The modulus read at lines 1003-1008: `len` bytes from offset 18, last one first. -/
def reversedModulus (rbuf : List UInt8) (len : Nat) : List UInt8 :=
  (List.range len).map fun j => rbuf.getD (18 + (len - 1 - j)) 0

/-- `starcos_gen_key`, with `rbuf0` the contents of `rbuf` before the READ PUBLIC KEY
answer. -/
def genKey (card : ScCard) (data : GenKeyData) (rbuf0 : List UInt8) :
    Prog (ScRet × Option (List UInt8)) :=
  let len := data.keyLength >>> 3
  Prog.send { formatApdu card .case3Short 0x46 0x00 data.keyId.toUInt8 with
      data := [(data.keyLength >>> 8).toUInt8, data.keyLength.toUInt8] }
    (fun e => (.err e, none)) fun sw1 sw2 _ =>
  if ¬ IsOk sw1 sw2 then .ret (checkSw F sw1 sw2, none)
  else
  Prog.send { proprietaryApdu card 0xf0 0x9c 0x00 [data.keyId.toUInt8] with
      resplen := F.maxApduBufferSize, le := 256 }
    (fun e => (.err e, none)) fun sw1 sw2 resp =>
  if ¬ IsOk sw1 sw2 then .ret (checkSw F sw1 sw2, none)
  else
    Prog.allocOr (.err .outOfMemory, none)
      (.ret (scSuccess, some (reversedModulus (rbufAfter rbuf0 resp) len)))

/-! ## Where the modulus comes from -/

theorem length_reversedModulus (rbuf : List UInt8) (len : Nat) :
    (reversedModulus rbuf len).length = len := by
  simp [reversedModulus]

theorem reversedModulus_getD (rbuf : List UInt8) {len j : Nat} (hj : j < len) :
    (reversedModulus rbuf len).getD j 0 = rbuf.getD (18 + (len - 1 - j)) 0 := by
  simp [reversedModulus, List.getD_eq_getElem?_getD, hj]

theorem rbufAfter_getD (rbuf0 resp : List UInt8) (i : Nat) :
    (rbufAfter rbuf0 resp).getD i 0 =
      if i < resp.length then resp.getD i 0 else rbuf0.getD i 0 := by
  unfold rbufAfter
  split_ifs with hi
  · simp [List.getD_eq_getElem?_getD, List.getElem?_append_left hi]
  · simp [List.getD_eq_getElem?_getD, List.getElem?_append_right (Nat.le_of_not_lt hi),
      Nat.add_sub_cancel' (Nat.le_of_not_lt hi)]

/-- **What a successful `starcos_gen_key` returns as the modulus.**  After a READ PUBLIC
KEY answered `90 00` with `resp`, a success carries `key_length / 8` bytes, the bytes of
`rbuf` from offset 18 on in reverse order; byte `j` is a byte of the answer only when the
answer reaches its offset, and otherwise what `rbuf` held before the command. -/
theorem genKey_modulus (card : ScCard) (data : GenKeyData) (rbuf0 : List UInt8)
    {t : List Prog.Event} {x : ScRet × Option (List UInt8)}
    (h : Prog.Trace (genKey F card data rbuf0) t x) (hok : x.1 = scSuccess) {a : Apdu}
    {resp : List UInt8} (hread : Prog.Event.exchange a (.answer 0x90 0x00 resp) ∈ t)
    (hins : a.ins = 0xf0) :
    ∃ m, x.2 = some m ∧ m.length = data.keyLength >>> 3 ∧
      ∀ j < data.keyLength >>> 3, m.getD j 0 =
        let i := 18 + (data.keyLength >>> 3 - 1 - j)
        if i < resp.length then resp.getD i 0 else rbuf0.getD i 0 := by
  unfold genKey Prog.send at h
  obtain ⟨r₁, t₁, rfl, h₁⟩ := Prog.trace_transmit_iff.mp h
  rw [List.mem_cons] at hread
  rcases hread with hfirst | hread
  · obtain ⟨rfl, -⟩ := Prog.Event.exchange.inj hfirst
    exact absurd (show (0x46 : UInt8) = 0xf0 from hins) (by decide)
  cases r₁ with
  | error e => obtain ⟨-, rfl⟩ := Prog.trace_ret_iff.mp h₁; cases hok
  | answer sw1 sw2 resp₁ =>
    dsimp only at h₁
    by_cases hok₁ : IsOk sw1 sw2
    case neg =>
      rw [if_pos hok₁] at h₁
      obtain ⟨rfl, rfl⟩ := Prog.trace_ret_iff.mp h₁
      cases hread
    rw [if_neg (not_not.mpr hok₁)] at h₁
    obtain ⟨r₂, t₂, rfl, h₂⟩ := Prog.trace_transmit_iff.mp h₁
    cases r₂ with
    | error e => obtain ⟨-, rfl⟩ := Prog.trace_ret_iff.mp h₂; cases hok
    | answer sw1' sw2' resp₂ =>
      dsimp only at h₂
      by_cases hok₂ : IsOk sw1' sw2'
      case neg =>
        rw [if_pos hok₂] at h₂
        obtain ⟨rfl, rfl⟩ := Prog.trace_ret_iff.mp h₂
        simp only [List.mem_singleton, Prog.Event.exchange.injEq, Reply.answer.injEq] at hread
        exact absurd ⟨hread.2.1.symm, hread.2.2.1.symm⟩ hok₂
      rw [if_neg (not_not.mpr hok₂)] at h₂
      obtain ⟨b, t₃, rfl, h₃⟩ := Prog.trace_alloc_iff.mp h₂
      cases b
      · obtain ⟨-, rfl⟩ := Prog.trace_ret_iff.mp h₃; cases hok
      obtain ⟨rfl, rfl⟩ := Prog.trace_ret_iff.mp h₃
      simp only [List.mem_cons, List.not_mem_nil, Prog.Event.exchange.injEq, Reply.answer.injEq,
        reduceCtorEq, or_false] at hread
      obtain ⟨-, -, -, rfl⟩ := hread
      exact ⟨_, rfl, length_reversedModulus _ _, fun j hj => by
        rw [reversedModulus_getD _ hj, rbufAfter_getD]⟩

/-- An empty answer to READ PUBLIC KEY for a 16-bit key: the call succeeds, and both
modulus bytes are the buffer's earlier contents. -/
theorem genKey_modulus_empty_answer :
    ∃ t a, Prog.Trace (genKey Framework.opensc ⟨0, true, ⟨.path, []⟩, [], 128, 128, .zero⟩
        ⟨1, 16⟩ (List.replicate 20 0xAA)) t (scSuccess, some [0xAA, 0xAA]) ∧
      Prog.Event.exchange a (.answer 0x90 0x00 []) ∈ t ∧ a.ins = 0xf0 ∧
      ([] : List UInt8).length < 18 + 16 >>> 3 ∧
      ∃ m, some [(0xAA : UInt8), 0xAA] = some m ∧ m.length = 16 >>> 3 ∧
        ∀ j < 16 >>> 3, m.getD j 0 =
          let i := 18 + (16 >>> 3 - 1 - j)
          if i < ([] : List UInt8).length then ([] : List UInt8).getD i 0
          else (List.replicate 20 (0xAA : UInt8)).getD i 0 :=
  have ht : Prog.Trace (genKey Framework.opensc ⟨0, true, ⟨.path, []⟩, [], 128, 128, .zero⟩
      ⟨1, 16⟩ (List.replicate 20 0xAA)) _ (scSuccess, some [0xAA, 0xAA]) :=
    .transmit (.answer 0x90 0x00 []) (.transmit (.answer 0x90 0x00 []) (.alloc true (.ret _)))
  ⟨_, _, ht, List.mem_cons_of_mem _ (List.mem_cons_self _ _), rfl, by decide,
    genKey_modulus _ _ _ _ ht rfl (List.mem_cons_of_mem _ (List.mem_cons_self _ _)) rfl⟩

end StarcosDriver
