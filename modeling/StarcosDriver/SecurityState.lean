import StarcosDriver.Driver

/-!
# The signing environment across a run

The spec describes the extension state as a small state machine: nothing installed,
COMPUTE SIGNATURE installed, or INTERNAL AUTHENTICATE installed together with the hash
flags for which the driver builds the DigestInfo.  `SecState` is that machine, with the
fact the code relies on carried by its third state: the recorded flags have the PKCS#1
bit, since `try_authenticate` only installs INTERNAL AUTHENTICATE for PKCS#1 padding.
`SecState.toExData` says how the driver stores each state.

`reachable_exData_invariant` is the refinement: on every reachable card handle the
extension state is the image of one of the three, whatever the operations, the card's
answers and the transport did.  The step lemma is `exec_exShape`; only
`set_security_env` and `compute_signature` write the state, and each writes one of the
three shapes (`setSecurityEnv_exData`, `computeSignature_exData`).  Two consequences are
part of the statement: `fix_digestInfo` is nonzero exactly when INTERNAL AUTHENTICATE is
installed, and then `compute_signature` always PKCS#1-encodes its input --- the branch
that sends the input verbatim is never taken.

`computeSignature_success_keeps_env` is the other side of the state machine: a
signature that succeeds returns through `SC_FUNC_RETURN` before the clearing at lines
1237-1239, so the environment stays installed.
-/

namespace StarcosDriver

variable (F : Framework)

/-- The spec's states of the signing environment. -/
inductive SecState (F : Framework) where
  | idle
  | signInstalled
  | authInstalled (flags : Nat) (pkcs1 : flags &&& F.rsaPadPkcs1 ≠ 0)

/-- How the driver stores each state in `starcos_ex_data`. -/
def SecState.toExData {F : Framework} : SecState F → StarcosExData
  | .idle => ⟨none, 0⟩
  | .signInstalled => ⟨some .sign, 0⟩
  | .authInstalled f _ => ⟨some .authenticate, f⟩

/-- The extension state stores one of the spec's states. -/
def ExShape (ex : StarcosExData) : Prop := ∃ s : SecState F, s.toExData = ex

theorem exShape_iff {ex : StarcosExData} :
    ExShape F ex ↔ ex = ⟨none, 0⟩ ∨ ex = ⟨some .sign, 0⟩ ∨
      ∃ f, ex = ⟨some .authenticate, f⟩ ∧ f &&& F.rsaPadPkcs1 ≠ 0 := by
  constructor
  · rintro ⟨s, rfl⟩
    cases s with
    | idle => exact .inl rfl
    | signInstalled => exact .inr (.inl rfl)
    | authInstalled f hf => exact .inr (.inr ⟨f, rfl, hf⟩)
  · rintro (rfl | rfl | ⟨f, rfl, hf⟩)
    exacts [⟨.idle, rfl⟩, ⟨.signInstalled, rfl⟩, ⟨.authInstalled f hf, rfl⟩]

theorem exShape_of_authInstalled {env : ScSecurityEnv} {ex : StarcosExData}
    (h : AuthInstalled F env ex) : ExShape F ex :=
  ⟨.authInstalled _ h.2, h.1.symm⟩

/-- A PKCS#1 flag set is not empty. -/
theorem ne_zero_of_and_ne_zero {f m : Nat} (h : f &&& m ≠ 0) : f ≠ 0 := by
  rintro rfl
  simp at h

/-- In the three shapes, `fix_digestInfo` is nonzero exactly when INTERNAL AUTHENTICATE
is installed. -/
theorem ExShape.fixDigestInfo_ne_zero_iff {ex : StarcosExData} (h : ExShape F ex) :
    ex.fixDigestInfo ≠ 0 ↔ ex.secOps = some .authenticate := by
  obtain ⟨s, rfl⟩ := h
  cases s with
  | idle => simp [SecState.toExData]
  | signInstalled => simp [SecState.toExData]
  | authInstalled f hf => simpa [SecState.toExData] using ne_zero_of_and_ne_zero hf

/-- **One step keeps the shape.** -/
theorem exec_exShape (fuel : Nat) (op : DriverOp) {card : ScCard}
    (h : ExShape F card.drvData) :
    (op.exec F fuel card).Always fun x => ExShape F x.2.drvData := by
  cases op with
  | selectFile path w =>
    simp only [DriverOp.exec, Prog.always_map]
    exact (selectFile_cacheOnly F fuel card path w).mono fun x hx => hx.drvData ▸ h
  | logout => simpa [DriverOp.exec] using (Prog.always_true _).mono fun _ _ => h
  | createFile file => simpa [DriverOp.exec] using (Prog.always_true _).mono fun _ _ => h
  | setSecurityEnv env =>
    simp only [DriverOp.exec, Prog.always_map]
    refine (setSecurityEnv_exData F card env).mono fun x hx => ?_
    rcases hx with hx | hx | hx
    · exact hx ▸ h
    · exact hx ▸ ⟨.signInstalled, rfl⟩
    · exact exShape_of_authInstalled F hx
  | computeSignature data outlen =>
    simp only [DriverOp.exec, Prog.always_map]
    refine (computeSignature_exData F card data outlen).mono fun x hx => ?_
    rcases hx with hx | hx
    · exact hx ▸ h
    · exact hx ▸ ⟨.idle, rfl⟩
  | cardCtl cmd =>
    simp only [DriverOp.exec, Prog.always_map]
    exact (cardCtl_drvData F card cmd).mono fun x hx => hx ▸ h

theorem starcosInit_exShape (card : ScCard) :
    (starcosInit card).Always fun x => x.1 = scSuccess → ExShape F x.2.drvData := by
  simp only [starcosInit, Prog.always_allocOr, Prog.always_ret, scSuccess]
  exact ⟨nofun, fun _ => ⟨.idle, rfl⟩⟩

/-- **The extension state of every reachable handle is one of the three**, and the
recorded flags tell the two signing modes apart. -/
theorem reachable_exData_invariant {card : ScCard} (h : Reachable F card) :
    (card.drvData = ⟨none, 0⟩ ∨ card.drvData = ⟨some .sign, 0⟩ ∨
      ∃ f, card.drvData = ⟨some .authenticate, f⟩ ∧ f &&& F.rsaPadPkcs1 ≠ 0) ∧
    (card.drvData.fixDigestInfo ≠ 0 ↔ card.drvData.secOps = some .authenticate) ∧
    (card.drvData.secOps = some .authenticate → ∀ data,
      authBlock F card.drvData data =
        F.pkcs1Encode (if card.drvData.fixDigestInfo &&& F.rsaHashes = 0 then F.rsaHashNone
          else card.drvData.fixDigestInfo &&& F.rsaHashes) data F.maxApduBufferSize) := by
  have hs : ExShape F card.drvData :=
    Reachable.invariant F (starcosInit_exShape F) (exec_exShape F) h
  refine ⟨(exShape_iff F).mp hs, hs.fixDigestInfo_ne_zero_iff F, fun hauth data => ?_⟩
  simp [authBlock, (hs.fixDigestInfo_ne_zero_iff F).mpr hauth]

/-- A run that installs INTERNAL AUTHENTICATE for PKCS#1 with SHA-1 (`22 41 A4` answered
`90 00`) and then COMPUTE SIGNATURE (`22 41 B6` answered `90 00`): both handles are
reachable and the theorem applies to each, in the first with the flags recorded and
every block PKCS#1-encoded. -/
theorem reachable_exData_invariant_sign_auth :
    ∃ auth sign : ScCard,
      Reachable Framework.opensc auth ∧ auth.drvData = ⟨some .authenticate, 0x22⟩ ∧
      ((auth.drvData = ⟨none, 0⟩ ∨ auth.drvData = ⟨some .sign, 0⟩ ∨
          ∃ f, auth.drvData = ⟨some .authenticate, f⟩ ∧ f &&& Framework.opensc.rsaPadPkcs1 ≠ 0) ∧
        (auth.drvData.fixDigestInfo ≠ 0 ↔ auth.drvData.secOps = some .authenticate) ∧
        (auth.drvData.secOps = some .authenticate → ∀ data,
          authBlock Framework.opensc auth.drvData data =
            Framework.opensc.pkcs1Encode
              (if auth.drvData.fixDigestInfo &&& Framework.opensc.rsaHashes = 0 then
                Framework.opensc.rsaHashNone
              else auth.drvData.fixDigestInfo &&& Framework.opensc.rsaHashes)
              data Framework.opensc.maxApduBufferSize)) ∧
      Reachable Framework.opensc sign ∧ sign.drvData = ⟨some .sign, 0⟩ ∧
      ((sign.drvData = ⟨none, 0⟩ ∨ sign.drvData = ⟨some .sign, 0⟩ ∨
          ∃ f, sign.drvData = ⟨some .authenticate, f⟩ ∧ f &&& Framework.opensc.rsaPadPkcs1 ≠ 0) ∧
        (sign.drvData.fixDigestInfo ≠ 0 ↔ sign.drvData.secOps = some .authenticate) ∧
        (sign.drvData.secOps = some .authenticate → ∀ data,
          authBlock Framework.opensc sign.drvData data =
            Framework.opensc.pkcs1Encode
              (if sign.drvData.fixDigestInfo &&& Framework.opensc.rsaHashes = 0 then
                Framework.opensc.rsaHashNone
              else sign.drvData.fixDigestInfo &&& Framework.opensc.rsaHashes)
              data Framework.opensc.maxApduBufferSize)) :=
  have hauth : Reachable Framework.opensc
      ⟨0, false, ⟨.path, []⟩, [], 128, 128, ⟨some .authenticate, 0x22⟩⟩ :=
    .step 0 (.setSecurityEnv ⟨0, .authenticate, 0, 0x22, 0, []⟩)
      (@Reachable.init _ ⟨0, false, ⟨.path, []⟩, [], 128, 128, .zero⟩ _
        ⟨_, .alloc true (.ret _)⟩)
      ⟨_, .transmit (.answer 0x90 0x00 []) (.ret _)⟩
  have hsign : Reachable Framework.opensc
      ⟨0, false, ⟨.path, []⟩, [], 128, 128, ⟨some .sign, 0⟩⟩ :=
    .step 0 (.setSecurityEnv ⟨0, .sign, 0, 0x22, 0, []⟩) hauth
      ⟨_, .transmit (.answer 0x90 0x00 []) (.ret _)⟩
  ⟨_, _, hauth, rfl, reachable_exData_invariant _ hauth, hsign, rfl,
    reachable_exData_invariant _ hsign⟩

/-! ## A signature that succeeds -/

/-- **A COMPUTE SIGNATURE that succeeds leaves the environment installed**: in every
handle with COMPUTE SIGNATURE installed and for every input the size check admits, the
run whose PSO HASH and PSO COMPUTE SIGNATURE are both answered 90 00 returns the
signature's length with the extension state as it was. -/
theorem computeSignature_success_keeps_env (card : ScCard) (data : List UInt8) (outlen : Nat)
    (hash sig : List UInt8) (hsign : card.drvData.secOps = some .sign)
    (hlen : data.length ≤ F.maxApduBufferSize) :
    Prog.Trace (computeSignature F card data outlen)
      [.exchange (psoHashApdu F card data) (.answer 0x90 0x00 hash),
        .exchange (psoSignApdu F card) (.answer 0x90 0x00 sig)]
      (.ok (min sig.length outlen), card.drvData, sig.take (min sig.length outlen)) := by
  have hmin : (if sig.length > outlen then outlen else sig.length) = min sig.length outlen := by
    split_ifs <;> omega
  simp only [computeSignature, if_neg (Nat.not_lt.mpr hlen), hsign, Prog.send, signatureDone]
  refine .transmit _ (.transmit _ ?_)
  dsimp only
  rw [if_pos ⟨rfl, rfl⟩, hmin]
  exact .ret _

/-- A 20-byte hash signed in a handle with COMPUTE SIGNATURE installed, the card
answering with an 8-byte signature: the call returns 8 with the environment still
installed. -/
theorem computeSignature_success_keeps_env_sha1 :
    (⟨0, false, ⟨.path, []⟩, [], 128, 128, ⟨some .sign, 0⟩⟩ : ScCard).drvData.secOps =
      some .sign ∧
    (List.replicate 20 (0 : UInt8)).length ≤ Framework.opensc.maxApduBufferSize ∧
    Prog.Trace (computeSignature Framework.opensc ⟨0, false, ⟨.path, []⟩, [], 128, 128, ⟨some .sign, 0⟩⟩
      (List.replicate 20 0) 128)
      [.exchange (psoHashApdu Framework.opensc ⟨0, false, ⟨.path, []⟩, [], 128, 128, ⟨some .sign, 0⟩⟩
          (List.replicate 20 0)) (.answer 0x90 0x00 []),
        .exchange (psoSignApdu Framework.opensc ⟨0, false, ⟨.path, []⟩, [], 128, 128, ⟨some .sign, 0⟩⟩)
          (.answer 0x90 0x00 [1, 2, 3, 4, 5, 6, 7, 8])]
      (.ok 8, ⟨some .sign, 0⟩, [1, 2, 3, 4, 5, 6, 7, 8]) :=
  ⟨rfl, by decide, computeSignature_success_keeps_env _ _ _ _ _ _ rfl (by decide)⟩

end StarcosDriver
