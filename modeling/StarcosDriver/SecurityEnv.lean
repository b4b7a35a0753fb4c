import StarcosDriver.Create

/-!
# Security environment and signatures

STARCOS signs in one of two ways.  COMPUTE SIGNATURE (PSO HASH then PSO COMPUTE
SIGNATURE) needs an algorithm reference naming the hash; INTERNAL AUTHENTICATE signs
whatever block it is given, so the driver must build the PKCS#1 block itself, DigestInfo
included.  `starcos_set_security_env` therefore tries the first with MANAGE SECURITY
ENVIRONMENT `22 41 B6` and falls back to the second (`22 41 A4`) when no reference fits
the hash or the card refuses; it records which one it installed in the extension state,
together with the hash flags when the driver has to build the DigestInfo.
`starcos_compute_signature` dispatches on that record.

The extension state is `StarcosExData`; both functions return the new one, and
`computeSignature` clears it (`StarcosExData.zero`) only when the card refused the final
command, as the source does at lines 1237-1239.
-/

namespace StarcosDriver

variable (F : Framework)

/-! ## `starcos_set_security_env` -/

/-- `sc_security_env_t`, with the fields the driver reads. -/
structure ScSecurityEnv where
  flags : Nat
  operation : SecOperation
  algorithm : Nat
  algorithmFlags : Nat
  algorithmRef : Nat
  /-- `key_ref[0 .. key_ref_len)`. -/
  keyRef : List UInt8
  deriving DecidableEq, Repr

/-- The key-reference object `83`/`84 len ref` that starts every MSE body, when the
environment carries a key reference. -/
def keyRefPart (env : ScSecurityEnv) : List UInt8 :=
  if env.flags &&& F.secEnvKeyRefPresent ≠ 0 then
    (if env.flags &&& F.secEnvKeyRefAsymmetric ≠ 0 then 0x83 else 0x84) ::
      env.keyRef.length.toUInt8 :: env.keyRef
  else []

/-- How the COMPUTE SIGNATURE attempt continues after the key reference (lines
1073-1105): with these algorithm-reference bytes, by going to INTERNAL AUTHENTICATE, or
by rejecting the environment. -/
inductive SignAlgRef where
  | bytes (b : List UInt8)
  | tryAuthenticate
  | invalid
  deriving DecidableEq, Repr

/-- The algorithm reference of COMPUTE SIGNATURE: the caller's byte, or the one the
padding and hash flags name. -/
def signAlgRef (env : ScSecurityEnv) : SignAlgRef :=
  let fl := env.algorithmFlags
  if env.flags &&& F.secEnvAlgRefPresent ≠ 0 then .bytes [0x80, 0x01, (env.algorithmRef &&& 0xFF).toUInt8]
  else if env.flags &&& F.secEnvAlgPresent ≠ 0 ∧ env.algorithm = F.algorithmRsa then
    if fl &&& F.rsaPadPkcs1 ≠ 0 then
      if fl &&& F.rsaHashSha1 ≠ 0 then .bytes [0x80, 0x01, 0x12]
      else if fl &&& F.rsaHashRipemd160 ≠ 0 then .bytes [0x80, 0x01, 0x22]
      else if fl &&& F.rsaHashMd5 ≠ 0 then .bytes [0x80, 0x01, 0x32]
      else .tryAuthenticate
    else if fl &&& F.rsaPadIso9796 ≠ 0 then
      if fl &&& F.rsaHashSha1 ≠ 0 then .bytes [0x80, 0x01, 0x11]
      else if fl &&& F.rsaHashRipemd160 ≠ 0 then .bytes [0x80, 0x01, 0x21]
      else .invalid
    else .invalid
  else .bytes []

/-- The MSE of INTERNAL AUTHENTICATE. -/
def authMseApdu (card : ScCard) (env : ScSecurityEnv) : Apdu :=
  { formatApdu card .case3Short 0x22 0x41 0xa4 with
    data := keyRefPart F env ++ [0x80, 0x01, 0x01] }

/-- The `try_authenticate` block: install INTERNAL AUTHENTICATE for PKCS#1 padding, and
record the flags for which the DigestInfo must be built. -/
def tryAuthenticate (card : ScCard) (env : ScSecurityEnv) : Prog (ScRet × StarcosExData) :=
  if env.algorithmFlags &&& F.rsaPadPkcs1 ≠ 0 then
    Prog.send (authMseApdu F card env) (fun e => (.err e, card.drvData)) fun sw1 sw2 _ =>
    if ¬ IsOk sw1 sw2 then .ret (checkSw F sw1 sw2, card.drvData)
    else .ret (scSuccess, ⟨some .authenticate, env.algorithmFlags⟩)
  else .ret (.err .invalidArguments, card.drvData)

/-- The MSE of COMPUTE SIGNATURE, whose failure is expected and not logged. -/
def signMseApdu (card : ScCard) (env : ScSecurityEnv) (algRef : List UInt8) : Apdu :=
  { formatApdu card .case3Short 0x22 0x41 0xb6 with data := keyRefPart F env ++ algRef }

/-- The MSE of DECIPHER. -/
def decipherMseApdu (card : ScCard) (env : ScSecurityEnv) : Apdu :=
  { formatApdu card .case3Short 0x22 0x81 0xb8 with
    data := keyRefPart F env ++ [0x80, 0x01, 0x02] }

/-- `starcos_set_security_env`: the new extension state with the result. -/
def setSecurityEnv (card : ScCard) (env : ScSecurityEnv) : Prog (ScRet × StarcosExData) :=
  match env.operation with
  | .decipher =>
    if env.algorithmFlags &&& F.rsaPadPkcs1 ≠ 0 then
      Prog.send (decipherMseApdu F card env) (fun e => (.err e, card.drvData)) fun sw1 sw2 _ =>
      if ¬ IsOk sw1 sw2 then .ret (checkSw F sw1 sw2, card.drvData)
      else .ret (scSuccess, card.drvData)
    else .ret (.err .invalidArguments, card.drvData)
  | .sign =>
    if env.algorithmFlags &&& F.rsaPadPkcs1 ≠ 0 ∨ env.algorithmFlags &&& F.rsaPadIso9796 ≠ 0
    then
      match signAlgRef F env with
      | .invalid => .ret (.err .invalidArguments, card.drvData)
      | .tryAuthenticate => tryAuthenticate F card env
      | .bytes algRef =>
        Prog.send (signMseApdu F card env algRef) (fun e => (.err e, card.drvData))
          fun sw1 sw2 _ =>
        if IsOk sw1 sw2 then .ret (scSuccess, ⟨some .sign, 0⟩)
        else tryAuthenticate F card env
    else .ret (.err .invalidArguments, card.drvData)
  | .authenticate => tryAuthenticate F card env

/-- The extension state INTERNAL AUTHENTICATE leaves: the environment's flags, which
have the PKCS#1 bit. -/
def AuthInstalled (env : ScSecurityEnv) (ex : StarcosExData) : Prop :=
  ex = ⟨some .authenticate, env.algorithmFlags⟩ ∧ env.algorithmFlags &&& F.rsaPadPkcs1 ≠ 0

theorem tryAuthenticate_exData (card : ScCard) (env : ScSecurityEnv) :
    (tryAuthenticate F card env).Always fun x => x.2 = card.drvData ∨ AuthInstalled F env x.2 := by
  unfold tryAuthenticate
  split_ifs with h
  · simp only [Prog.always_send, true_or, implies_true, true_and]
    intro sw1 sw2 _
    split_ifs <;> simp [AuthInstalled, h]
  · simp

/-- **What `starcos_set_security_env` can install**: nothing new, COMPUTE SIGNATURE with
no flags, or INTERNAL AUTHENTICATE with the environment's flags. -/
theorem setSecurityEnv_exData (card : ScCard) (env : ScSecurityEnv) :
    (setSecurityEnv F card env).Always fun x =>
      x.2 = card.drvData ∨ x.2 = ⟨some .sign, 0⟩ ∨ AuthInstalled F env x.2 := by
  have hauth : (tryAuthenticate F card env).Always fun x =>
      x.2 = card.drvData ∨ x.2 = ⟨some .sign, 0⟩ ∨ AuthInstalled F env x.2 :=
    (tryAuthenticate_exData F card env).mono fun x hx => hx.imp_right Or.inr
  unfold setSecurityEnv
  split
  · split_ifs
    · simp only [Prog.always_send, true_or, implies_true, true_and]
      intro sw1 sw2 _
      split_ifs <;> simp
    · simp
  · split_ifs
    · split
      · simp
      · exact hauth
      · simp only [Prog.always_send, true_or, implies_true, true_and]
        intro sw1 sw2 _
        split_ifs
        · simp
        · exact hauth
    · simp
  · exact hauth

/-! ## `starcos_compute_signature` -/

/-- The block INTERNAL AUTHENTICATE signs: the PKCS#1 encoding of the input with the
recorded hash flags (`SC_ALGORITHM_RSA_HASH_NONE` when none is set), or the input
itself when no flags are recorded. -/
def authBlock (ex : StarcosExData) (data : List UInt8) : Except ScError (List UInt8) :=
  if ex.fixDigestInfo ≠ 0 then
    let flags := ex.fixDigestInfo &&& F.rsaHashes
    F.pkcs1Encode (if flags = 0 then F.rsaHashNone else flags) data F.maxApduBufferSize
  else .ok data

/-- The PSO HASH command carrying the hash. -/
def psoHashApdu (card : ScCard) (data : List UInt8) : Apdu :=
  { formatApdu card .case3Short 0x2A 0x90 0x81 with data, resplen := F.maxApduBufferSize }

/-- The PSO COMPUTE SIGNATURE command. -/
def psoSignApdu (card : ScCard) : Apdu :=
  { formatApdu card .case2Short 0x2A 0x9E 0x9A with
    resplen := F.maxApduBufferSize, le := 256, sensitive := true }

/-- The INTERNAL AUTHENTICATE command. -/
def internalAuthApdu (card : ScCard) (block : List UInt8) : Apdu :=
  { formatApdu card .case4Short 0x88 0x10 0x00 with
    data := block, resplen := F.maxApduBufferSize, le := 256 }

/-- The end of both signing branches: on `90 00` return the first `outlen` bytes of the
answer with the state as it was; otherwise clear the state and translate the status. -/
def signatureDone (ex : StarcosExData) (outlen sw1 sw2 : Nat) (resp : List UInt8) :
    Prog (ScRet × StarcosExData × List UInt8) :=
  if IsOk sw1 sw2 then
    let len := if resp.length > outlen then outlen else resp.length
    .ret (.ok len, ex, resp.take len)
  else .ret (checkSw F sw1 sw2, .zero, [])

/-- `starcos_compute_signature`: the result, the extension state afterwards, and the
bytes copied to `out`. -/
def computeSignature (card : ScCard) (data : List UInt8) (outlen : Nat) :
    Prog (ScRet × StarcosExData × List UInt8) :=
  let ex := card.drvData
  if data.length > F.maxApduBufferSize then .ret (.err .invalidArguments, ex, [])
  else
    match ex.secOps with
    | some .sign =>
      Prog.send (psoHashApdu F card data) (fun e => (.err e, ex, [])) fun sw1 sw2 _ =>
      if ¬ IsOk sw1 sw2 then .ret (checkSw F sw1 sw2, ex, [])
      else
        Prog.send (psoSignApdu F card) (fun e => (.err e, ex, [])) fun sw1 sw2 resp =>
        signatureDone F ex outlen sw1 sw2 resp
    | some .authenticate =>
      match authBlock F ex data with
      | .error e => .ret (.err e, ex, [])
      | .ok block =>
        Prog.send (internalAuthApdu F card block) (fun e => (.err e, ex, [])) fun sw1 sw2 resp =>
        signatureDone F ex outlen sw1 sw2 resp
    | _ => .ret (.err .invalidArguments, ex, [])

theorem signatureDone_exData (ex : StarcosExData) (outlen sw1 sw2 : Nat) (resp : List UInt8) :
    (signatureDone F ex outlen sw1 sw2 resp).Always fun x => x.2.1 = ex ∨ x.2.1 = .zero := by
  unfold signatureDone
  split_ifs <;> simp

/-- **`starcos_compute_signature` keeps the extension state or clears it.** -/
theorem computeSignature_exData (card : ScCard) (data : List UInt8) (outlen : Nat) :
    (computeSignature F card data outlen).Always fun x =>
      x.2.1 = card.drvData ∨ x.2.1 = .zero := by
  unfold computeSignature
  dsimp only
  split_ifs
  · simp
  · split
    · simp only [Prog.always_send, true_or, implies_true, true_and]
      intro sw1 sw2 _
      split_ifs <;> simp [signatureDone_exData]
    · split <;> simp [signatureDone_exData]
    · simp

/-! ## What is copied to `out` -/

/-- What a path of `starcos_compute_signature` copies to `out`, seen with its events:
never more than `outlen` bytes, the count returned on success, and when there are any,
the first `outlen` bytes of the answer `90 00` to the signing command, PSO COMPUTE
SIGNATURE or INTERNAL AUTHENTICATE of the block built from the input, which was the last
exchange. -/
def SignatureOut (card : ScCard) (data : List UInt8) (outlen : Nat) (t : List Prog.Event)
    (x : ScRet × StarcosExData × List UInt8) : Prop :=
  x.2.2.length ≤ outlen ∧ (∀ n, x.1 = .ok n → n = x.2.2.length) ∧
    (x.2.2 ≠ [] → ∃ pre a resp, t = pre ++ [.exchange a (.answer 0x90 0x00 resp)] ∧
      (a = psoSignApdu F card ∨
        ∃ block, authBlock F card.drvData data = .ok block ∧ a = internalAuthApdu F card block) ∧
      x.2.2 = resp.take outlen)

theorem checkSw_ok (hF : F.IsoRejects) {sw1 sw2 n : Nat} (h : checkSw F sw1 sw2 = .ok n) :
    n = 0 := by
  by_cases h90 : sw1 = 0x90
  · subst h90
    exact (ScRet.ok.inj h).symm
  · have : (checkSw F sw1 sw2).IsErr := checkSw_isErr F hF h90
    rw [h] at this
    exact this.elim

/-- A path that copies nothing satisfies `SignatureOut`. -/
theorem signatureOut_nil (hF : F.IsoRejects) {card : ScCard} {data : List UInt8} {outlen : Nat}
    {t : List Prog.Event} {r : ScRet} {ex : StarcosExData}
    (hr : r = scSuccess ∨ r.IsErr ∨ ∃ sw1 sw2, r = checkSw F sw1 sw2) :
    SignatureOut F card data outlen t (r, ex, []) := by
  refine ⟨Nat.zero_le _, fun n hn => ?_, fun h => absurd rfl h⟩
  subst hn
  rcases hr with h | h | ⟨_, _, h⟩
  · exact (ScRet.ok.inj h)
  · exact h.elim
  · exact checkSw_ok F hF h.symm

/-- The end of a signing branch, after the signing command `a` was answered. -/
theorem signatureDone_out (hF : F.IsoRejects) (pre : List Prog.Event) {card : ScCard}
    {data : List UInt8} {outlen : Nat} {a : Apdu}
    (ha : a = psoSignApdu F card ∨
      ∃ block, authBlock F card.drvData data = .ok block ∧ a = internalAuthApdu F card block)
    (ex : StarcosExData) (sw1 sw2 : Nat) (resp : List UInt8) :
    (signatureDone F ex outlen sw1 sw2 resp).AlwaysT fun t x =>
      SignatureOut F card data outlen (pre ++ .exchange a (.answer sw1 sw2 resp) :: t) x := by
  unfold signatureDone
  by_cases hok : IsOk sw1 sw2
  · obtain ⟨rfl, rfl⟩ := hok
    have htake : resp.take (if resp.length > outlen then outlen else resp.length) =
        resp.take outlen := by
      split_ifs
      · rfl
      · rw [List.take_of_length_le (by omega), List.take_of_length_le (by omega)]
    rw [if_pos ⟨rfl, rfl⟩]
    refine ⟨?_, fun n hn => ?_, fun _ => ⟨pre, a, resp, rfl, ha, htake⟩⟩
    · show (resp.take _).length ≤ outlen
      rw [htake, List.length_take]
      exact Nat.min_le_left _ _
    · cases hn
      rw [List.length_take]
      split_ifs <;> omega
  · rw [if_neg hok]
    exact signatureOut_nil F hF (.inr (.inr ⟨sw1, sw2, rfl⟩))

/-- **`starcos_compute_signature` copies only what the card signed, within `out`.**  On
every path, under any answers of the card, at most `outlen` bytes are copied, a success
returns their number, and the bytes are the start of the card's `90 00` answer to the
signing command it sent last. -/
theorem computeSignature_out (hF : F.IsoRejects) (card : ScCard) (data : List UInt8)
    (outlen : Nat) :
    (computeSignature F card data outlen).AlwaysT (SignatureOut F card data outlen) := by
  have herr : ∀ {t r ex}, r.IsErr → SignatureOut F card data outlen t (r, ex, []) :=
    fun h => signatureOut_nil F hF (.inr (.inl h))
  unfold computeSignature
  dsimp only
  split_ifs
  · exact herr trivial
  split
  · refine (Prog.alwaysT_send _ _ _ _).mpr ⟨fun _ => herr trivial, fun sw1 sw2 resp => ?_⟩
    split_ifs
    · exact (Prog.alwaysT_send _ _ _ _).mpr ⟨fun _ => herr trivial, fun _ _ _ =>
        signatureDone_out F hF [_] (.inl rfl) ..⟩
    · exact signatureOut_nil F hF (.inr (.inr ⟨sw1, sw2, rfl⟩))
  · split
    · exact herr trivial
    · rename_i block hblock
      exact (Prog.alwaysT_send _ _ _ _).mpr ⟨fun _ => herr trivial, fun _ _ _ =>
        signatureDone_out F hF [] (.inr ⟨block, hblock, rfl⟩) ..⟩
  · exact herr trivial

/-- Signing on a handle with COMPUTE SIGNATURE installed, into an 8-byte buffer. -/
theorem computeSignature_out_sign :
    (computeSignature Framework.opensc ⟨0, false, ⟨.fileId, []⟩, [], 128, 128, ⟨some .sign, 0⟩⟩
      [0x01] 8).AlwaysT
      (SignatureOut Framework.opensc ⟨0, false, ⟨.fileId, []⟩, [], 128, 128, ⟨some .sign, 0⟩⟩
        [0x01] 8) :=
  computeSignature_out _ Framework.opensc_isoRejects _ _ _

end StarcosDriver
