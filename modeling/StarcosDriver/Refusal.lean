import StarcosDriver.Driver

/-!
# A refused command ends the operation

The driver never retries: once a command is refused, the operation returns the
translation of the status word and sends nothing more.  A word is refused
(`Refused`) when its first byte is not `90` --- `starcos_check_sw` takes every `90 xx`
as success --- and it is not a `61 xx` answer to a SELECT.  Some refusals are part of
the protocol and the operation goes on after them (`Excused`):

* `starcos_select_fid` reads `62 84` to a SELECT with FCI as "a DF" and selects it
  again, and it reads the answer of its READ BINARY probe only to tell a DF from an EF;
* `starcos_set_security_env` falls back to INTERNAL AUTHENTICATE when the MSE of
  COMPUTE SIGNATURE is refused;
* `starcos_logout` and `starcos_erase_card` take `69 85` ("no MF") as success.

One refusal is not read at all: `starcos_create_df` tests only the transport result of
REGISTER DF (lines 739-740) and sends CREATE DF whatever the card answered, where the
other operations of two commands (`starcos_write_key`, `starcos_gen_key`,
`starcos_compute_signature`) return the translation of a refused first word.  This is a
slip, not part of the protocol; `UncheckedRegisterDf` names the command, and the
statement says nothing of its answers.

`exec_stopsOnRefusal` is the statement over every operation, under `IsoRejects`: the
ISO translation, which is not part of the driver, turns the words the driver's own
table does not know into errors.  The proof goes function by function, each lemma
taking the refusals it must stop at as a parameter `bad`.
-/

namespace StarcosDriver

variable (F : Framework)

/-- A refused status word: not `90 xx`, and not `61 xx` to a SELECT. -/
def Refused (apdu : Apdu) (sw1 : Nat) : Prop := sw1 ≠ 0x90 ∧ ¬ (apdu.ins = 0xA4 ∧ sw1 = 0x61)

/-- The refusals after which an operation goes on by design. -/
def Excused : DriverOp → Apdu → Nat → Nat → Prop
  | .selectFile _ _, apdu, sw1, sw2 =>
    (apdu.ins = 0xA4 ∧ apdu.p2 = 0x00 ∧ sw1 = 0x62 ∧ sw2 = 0x84) ∨ apdu.ins = 0xB0
  | .logout, _, sw1, sw2 => sw1 = 0x69 ∧ sw2 = 0x85
  | .setSecurityEnv _, apdu, _, _ => apdu.ins = 0x22 ∧ apdu.p2 = 0xB6
  | .cardCtl .eraseCard, _, sw1, sw2 => sw1 = 0x69 ∧ sw2 = 0x85
  | _, _, _, _ => False

/-- The REGISTER DF of a DF creation, the one command whose status word the driver
never reads: `starcos_create_df` goes on to CREATE DF after any answer that arrived. -/
def UncheckedRegisterDf : DriverOp → Apdu → Prop
  | .createFile _, apdu => apdu.ins = 0x52
  | .cardCtl (.createFile _), apdu => apdu.ins = 0x52
  | _, _ => False

section Stops

variable {F} {bad : Apdu → Nat → Nat → Prop}

/-- One command whose word is translated by `starcos_check_sw`. -/
theorem sendCheck_stops (hF : F.IsoRejects)
    (hbad : ∀ apdu sw1 sw2, bad apdu sw1 sw2 → sw1 ≠ 0x90) (apdu : Apdu) :
    (sendCheck F apdu).StopsOnRefusal bad ScRet.IsErr := by
  simp only [sendCheck, Prog.stopsOnRefusal_send, Prog.stopsOnRefusal_ret, and_true]
  exact fun sw1 sw2 _ hb => ⟨_, rfl, checkSw_isErr F hF (hbad _ _ _ hb)⟩

/-! ## Selection -/

/-- `selectFidDone` sends nothing. -/
theorem selectFidDone_stops {E : ScRet × ScCard × Option ScFile → Prop} (card : ScCard)
    (hi lo : UInt8) (w b : Bool) (sw1 sw2 : Nat) (resp : List UInt8) :
    (selectFidDone F card hi lo w b sw1 sw2 resp).StopsOnRefusal bad E := by
  rcases selectFidDone_eq F card hi lo w b sw1 sw2 resp with h | ⟨c, -, h | ⟨x, h⟩⟩ <;>
    simp only [h, Prog.stopsOnRefusal_ret, Prog.stopsOnRefusal_allocOr]

/-- A refused answer to a SELECT is returned as it is translated. -/
theorem selectFidDone_of_refused {apdu : Apdu} {sw1 : Nat} (h : Refused apdu sw1)
    (hins : apdu.ins = 0xA4) (card : ScCard) (hi lo : UInt8) (w b : Bool) (sw2 : Nat)
    (resp : List UInt8) :
    selectFidDone F card hi lo w b sw1 sw2 resp = .ret (checkSw F sw1 sw2, card, none) :=
  if_pos ⟨fun h61 => h.2 ⟨hins, h61⟩, fun hok => h.1 hok.1⟩

/-- The refusals a selection by FID goes on after: `62 84` to a SELECT with FCI, and
any answer to the probe. -/
def SelectGoesOn (apdu : Apdu) (sw1 sw2 : Nat) : Prop :=
  (apdu.ins = 0xA4 ∧ apdu.p2 = 0x00 ∧ sw1 = 0x62 ∧ sw2 = 0x84) ∨ apdu.ins = 0xB0

theorem selectFid_stops (hF : F.IsoRejects)
    (hbad : ∀ apdu sw1 sw2, bad apdu sw1 sw2 → Refused apdu sw1 ∧ ¬ SelectGoesOn apdu sw1 sw2)
    (card : ScCard) (hi lo : UInt8) (w : Bool) :
    (selectFid F card hi lo w).StopsOnRefusal bad fun x => x.1.IsErr := by
  unfold selectFid
  simp only [Prog.stopsOnRefusal_send]
  intro sw1 sw2 resp
  constructor
  · intro hb
    obtain ⟨hr, hgo⟩ := hbad _ _ _ hb
    rw [if_neg fun h => hgo (.inl ⟨rfl, h⟩), if_neg fun h => h.elim (fun h61 => hr.2 ⟨rfl, h61⟩)
      fun hok => hr.1 hok.1, selectFidDone_of_refused hr rfl]
    exact ⟨_, rfl, checkSw_isErr F hF hr.1⟩
  · split_ifs
    · simp only [Prog.stopsOnRefusal_send]
      refine fun sw1' sw2' resp' => ⟨fun hb => ?_, selectFidDone_stops _ _ _ _ _ _ _ _⟩
      rw [selectFidDone_of_refused (hbad _ _ _ hb).1 rfl]
      exact ⟨_, rfl, checkSw_isErr F hF (hbad _ _ _ hb).1.1⟩
    · simp only [Prog.stopsOnRefusal_send]
      exact fun _ _ _ => ⟨fun hb => absurd (.inr rfl) (hbad _ _ _ hb).2,
        selectFidDone_stops _ _ _ _ _ _ _ _⟩
    · exact selectFidDone_stops _ _ _ _ _ _ _ _

theorem selectAid_stops (hF : F.IsoRejects)
    (hbad : ∀ apdu sw1 sw2, bad apdu sw1 sw2 → Refused apdu sw1)
    (card : ScCard) (aid : List UInt8) (w : Bool) :
    (selectAid F card aid w).StopsOnRefusal bad fun x => x.1.IsErr := by
  unfold selectAid
  simp only [Prog.stopsOnRefusal_send]
  intro sw1 sw2 resp
  constructor
  · intro hb
    have hr := hbad _ _ _ hb
    rw [if_pos ⟨fun hok => hr.1 hok.1, fun h61 => hr.2 ⟨rfl, h61⟩⟩]
    exact ⟨_, rfl, checkSw_isErr F hF hr.1⟩
  · split_ifs <;> simp

/-- After a first SELECT, the rest of a path is sent only if it succeeded. -/
theorem stopsOnRefusal_bind_select {α : Type} {p : Prog (ScRet × ScCard × α)}
    {f : ScCard → Prog (ScRet × ScCard × Option ScFile)}
    (hp : p.StopsOnRefusal bad fun x => x.1.IsErr)
    (hf : ∀ c, (f c).StopsOnRefusal bad fun x => x.1.IsErr) :
    (p.bind fun x => match x.1 with
      | .err e => .ret (.err e, x.2.1, none)
      | .ok _ => f x.2.1).StopsOnRefusal bad fun x => x.1.IsErr := by
  refine Prog.stopsOnRefusal_bind hp (fun ⟨r, c, _⟩ hr => ?_)
    (Prog.always_iff.mpr fun ⟨r, c, _⟩ _ => ?_)
  · cases r with
    | err e => exact ⟨_, rfl, trivial⟩
    | ok n => exact absurd hr id
  · cases r with
    | err e => trivial
    | ok n => exact hf c

theorem selectCold_stops (hF : F.IsoRejects)
    (hbad : ∀ apdu sw1 sw2, bad apdu sw1 sw2 → Refused apdu sw1 ∧ ¬ SelectGoesOn apdu sw1 sw2)
    (card : ScCard) (path : List UInt8) (w : Bool) :
    (selectCold F card path w).StopsOnRefusal bad fun x => x.1.IsErr := by
  induction card, path, w using selectCold.induct F with
  | case1 card hi lo w => exact selectFid_stops hF hbad card hi lo w
  | case2 card hi lo rest w hne ih =>
    rw [selectCold.eq_2 F card w hi lo rest hne]
    exact stopsOnRefusal_bind_select (selectFid_stops hF hbad card hi lo false) ih
  | case3 path card w h₁ h₂ =>
    rw [selectCold.eq_3 F card path w h₁ h₂]
    trivial

theorem selectPath_stops (hF : F.IsoRejects)
    (hbad : ∀ apdu sw1 sw2, bad apdu sw1 sw2 → Refused apdu sw1 ∧ ¬ SelectGoesOn apdu sw1 sw2)
    {recurse : ScCard → ScPath → Bool → Prog (ScRet × ScCard × Option ScFile)}
    (hrec : ∀ c p w, (recurse c p w).StopsOnRefusal bad fun x => x.1.IsErr)
    (card : ScCard) (path : List UInt8) (w : Bool) :
    (selectPath F recurse card path w).StopsOnRefusal bad fun x => x.1.IsErr :=
  selectPath_cases F trivial (fun _ _ _ _ _ _ _ => selectFid_stops hF hbad _ _ _ _)
    (fun _ _ _ _ _ _ _ _ => stopsOnRefusal_bind_select (selectFid_stops hF hbad _ _ _ _)
      fun c => hrec c _ w)
    (fun _ _ _ _ _ _ _ => by split <;> simp) fun _ _ => selectCold_stops hF hbad _ _ _

theorem selectFile_stops (hF : F.IsoRejects)
    (hbad : ∀ apdu sw1 sw2, bad apdu sw1 sw2 → Refused apdu sw1 ∧ ¬ SelectGoesOn apdu sw1 sw2)
    (fuel : Nat) (card : ScCard) (path : ScPath) (w : Bool) :
    (selectFile F fuel card path w).StopsOnRefusal bad fun x => x.1.IsErr := by
  induction fuel generalizing card path w with
  | zero => trivial
  | succ fuel ih =>
    unfold selectFile
    split
    · split_ifs
      · trivial
      · exact selectFid_stops hF hbad _ _ _ _
    · split_ifs
      · trivial
      · exact selectAid_stops hF (fun a s1 s2 hb => (hbad a s1 s2 hb).1) _ _ _
    · exact selectPath_stops hF hbad ih card _ w
    · trivial

/-! ## Commands checked against `90 00` -/

/-- The pattern of most commands: a word other than `90 00` is returned as translated;
the operation goes on after `90 00` only. -/
theorem send_checked_stops {α : Type} (hF : F.IsoRejects)
    (hbad : ∀ apdu sw1 sw2, bad apdu sw1 sw2 → sw1 ≠ 0x90) {E : α → Prop} {g : ScRet → α}
    (hE : ∀ r, r.IsErr → E (g r)) (apdu : Apdu) (fail : ScError → α)
    {k : Nat → Nat → List UInt8 → Prog α}
    (hk : ∀ sw1 sw2 resp, IsOk sw1 sw2 → (k sw1 sw2 resp).StopsOnRefusal bad E) :
    (Prog.send apdu fail fun sw1 sw2 resp =>
      if ¬ IsOk sw1 sw2 then .ret (g (checkSw F sw1 sw2)) else k sw1 sw2 resp).StopsOnRefusal
      bad E := by
  simp only [Prog.stopsOnRefusal_send]
  intro sw1 sw2 resp
  refine ⟨fun hb => ?_, ?_⟩
  · rw [if_pos fun hok => hbad _ _ _ hb hok.1]
    exact ⟨_, rfl, hE _ (checkSw_isErr F hF (hbad _ _ _ hb))⟩
  · by_cases hok : IsOk sw1 sw2
    · rw [if_neg (not_not.mpr hok)]
      exact hk sw1 sw2 resp hok
    · rw [if_pos hok]
      trivial

/-! ## Creation, erase, logout -/

theorem createByData_stops (hF : F.IsoRejects)
    (hbad : ∀ apdu sw1 sw2, bad apdu sw1 sw2 → sw1 ≠ 0x90 ∧ apdu.ins ≠ 0x52)
    (card : ScCard) (data : CreateData) :
    (createByData F card data).StopsOnRefusal bad ScRet.IsErr := by
  have hcheck := sendCheck_stops hF fun a s1 s2 hb => (hbad a s1 s2 hb).1
  cases data with
  | mf header h => exact hcheck _
  | df header hh size hs =>
    simp only [createByData, createDf, Prog.stopsOnRefusal_send]
    exact fun _ _ _ => ⟨fun hb => absurd rfl (hbad _ _ _ hb).2, hcheck _⟩
  | ef header h => exact hcheck _
  | unknown => trivial

theorem createFile_stops (hF : F.IsoRejects)
    (hbad : ∀ apdu sw1 sw2, bad apdu sw1 sw2 → sw1 ≠ 0x90 ∧ apdu.ins ≠ 0x52)
    (card : ScCard) (file : ScFile) :
    (createFile F card file).StopsOnRefusal bad ScRet.IsErr := by
  unfold createFile
  split_ifs
  · split
    · exact createByData_stops hF hbad _ _
    · trivial
  · trivial

/-- The word `69 85` ("no MF") is success, every other one is translated. -/
theorem send_noMf_stops {α : Type} (hF : F.IsoRejects)
    (hbad : ∀ apdu sw1 sw2, bad apdu sw1 sw2 → sw1 ≠ 0x90 ∧ ¬ (sw1 = 0x69 ∧ sw2 = 0x85))
    {E : α → Prop} {g : ScRet → α} (hE : ∀ r, r.IsErr → E (g r)) (apdu : Apdu)
    (fail : ScError → α) :
    (Prog.send apdu fail fun sw1 sw2 _ =>
      if sw1 = 0x69 ∧ sw2 = 0x85 then .ret (g scSuccess)
      else .ret (g (checkSw F sw1 sw2))).StopsOnRefusal bad E := by
  simp only [Prog.stopsOnRefusal_send]
  refine fun sw1 sw2 _ => ⟨fun hb => ?_, by split_ifs <;> trivial⟩
  rw [if_neg (hbad _ _ _ hb).2]
  exact ⟨_, rfl, hE _ (checkSw_isErr F hF (hbad _ _ _ hb).1)⟩

theorem eraseCard_stops (hF : F.IsoRejects)
    (hbad : ∀ apdu sw1 sw2, bad apdu sw1 sw2 → sw1 ≠ 0x90 ∧ ¬ (sw1 = 0x69 ∧ sw2 = 0x85))
    (card : ScCard) : (eraseCard F card).StopsOnRefusal bad fun x => x.1.IsErr :=
  send_noMf_stops hF hbad (g := fun r => (r, _)) (fun _ h => h) _ _

theorem logout_stops (hF : F.IsoRejects)
    (hbad : ∀ apdu sw1 sw2, bad apdu sw1 sw2 → sw1 ≠ 0x90 ∧ ¬ (sw1 = 0x69 ∧ sw2 = 0x85))
    (card : ScCard) : (logout F card).StopsOnRefusal bad ScRet.IsErr :=
  send_noMf_stops hF hbad (fun _ h => h) _ _

/-! ## Keys -/

theorem writeKeyLoop_stops (hF : F.IsoRejects)
    (hbad : ∀ apdu sw1 sw2, bad apdu sw1 sw2 → sw1 ≠ 0x90)
    (card : ScCard) (mode kid : Nat) (key : List UInt8) (offset tlen : Nat) :
    (writeKeyLoop F card mode kid key offset tlen).StopsOnRefusal bad ScRet.IsErr := by
  induction offset, tlen using writeKeyLoop.induct F card mode kid key with
  | case1 offset =>
    rw [writeKeyLoop, if_pos rfl]
    trivial
  | case2 offset tlen h clen ih =>
    rw [writeKeyLoop, if_neg h]
    exact send_checked_stops hF hbad (fun _ h => h) _ _ fun _ _ _ _ => ih

theorem writeKey_stops (hF : F.IsoRejects)
    (hbad : ∀ apdu sw1 sw2, bad apdu sw1 sw2 → sw1 ≠ 0x90) (card : ScCard) (data : WkeyData) :
    (writeKey F card data).StopsOnRefusal bad ScRet.IsErr := by
  have hchunks : (if data.key = none ∧ data.mode = 0 then Prog.ret scSuccess
      else writeKeyLoop F card data.mode data.kid (data.key.getD []) 0
        (data.key.getD []).length).StopsOnRefusal bad ScRet.IsErr := by
    split_ifs
    · trivial
    · exact writeKeyLoop_stops hF hbad _ _ _ _ _ _
  unfold writeKey
  dsimp only
  by_cases hm : data.mode = 0
  · rw [if_pos hm]
    exact send_checked_stops hF hbad (fun _ h => h) _ _ fun _ _ _ _ => hchunks
  · rw [if_neg hm]
    exact hchunks

theorem genKey_stops (hF : F.IsoRejects)
    (hbad : ∀ apdu sw1 sw2, bad apdu sw1 sw2 → sw1 ≠ 0x90) (card : ScCard) (data : GenKeyData)
    (rbuf0 : List UInt8) : (genKey F card data rbuf0).StopsOnRefusal bad fun x => x.1.IsErr :=
  send_checked_stops hF hbad (g := fun r => (r, none)) (fun _ h => h) _ _ fun _ _ _ _ =>
    send_checked_stops hF hbad (g := fun r => (r, none)) (fun _ h => h) _ _ fun _ _ _ _ => by simp

theorem getSerialnr_stops (hbad : ∀ apdu sw1 sw2, bad apdu sw1 sw2 → sw1 ≠ 0x90)
    (card : ScCard) (hasOut : Bool) :
    (getSerialnr F card hasOut).StopsOnRefusal bad fun x => x.1.IsErr := by
  unfold getSerialnr
  split_ifs
  · trivial
  · simp only [Prog.stopsOnRefusal_send]
    refine fun sw1 sw2 _ => ⟨fun hb => ?_, by split_ifs <;> trivial⟩
    rw [if_pos fun hok => hbad _ _ _ hb hok.1]
    exact ⟨_, rfl, trivial⟩
  · trivial

/-! ## Security environment and signature -/

theorem tryAuthenticate_stops (hF : F.IsoRejects)
    (hbad : ∀ apdu sw1 sw2, bad apdu sw1 sw2 → sw1 ≠ 0x90) (card : ScCard) (env : ScSecurityEnv) :
    (tryAuthenticate F card env).StopsOnRefusal bad fun x => x.1.IsErr := by
  unfold tryAuthenticate
  split_ifs
  · exact send_checked_stops hF hbad (g := fun r => (r, _)) (fun _ h => h) _ _
      fun _ _ _ _ => trivial
  · trivial

theorem setSecurityEnv_stops (hF : F.IsoRejects)
    (hbad : ∀ apdu sw1 sw2, bad apdu sw1 sw2 → sw1 ≠ 0x90 ∧ ¬ (apdu.ins = 0x22 ∧ apdu.p2 = 0xB6))
    (card : ScCard) (env : ScSecurityEnv) :
    (setSecurityEnv F card env).StopsOnRefusal bad fun x => x.1.IsErr := by
  have h90 : ∀ apdu sw1 sw2, bad apdu sw1 sw2 → sw1 ≠ 0x90 := fun a s1 s2 hb => (hbad a s1 s2 hb).1
  have hauth := tryAuthenticate_stops hF h90 card env
  unfold setSecurityEnv
  split
  · split_ifs
    · exact send_checked_stops hF h90 (g := fun r => (r, _)) (fun _ h => h) _ _
        fun _ _ _ _ => trivial
    · trivial
  · split_ifs
    · split
      · trivial
      · exact hauth
      · simp only [Prog.stopsOnRefusal_send]
        refine fun sw1 sw2 _ => ⟨fun hb => absurd ⟨rfl, rfl⟩ (hbad _ _ _ hb).2, ?_⟩
        split_ifs
        · trivial
        · exact hauth
    · trivial
  · exact hauth

theorem computeSignature_stops (hF : F.IsoRejects)
    (hbad : ∀ apdu sw1 sw2, bad apdu sw1 sw2 → sw1 ≠ 0x90) (card : ScCard)
    (data : List UInt8) (outlen : Nat) :
    (computeSignature F card data outlen).StopsOnRefusal bad fun x => x.1.IsErr := by
  have hdone : ∀ apdu fail, (Prog.send apdu fail fun sw1 sw2 resp =>
      signatureDone F card.drvData outlen sw1 sw2 resp).StopsOnRefusal bad fun x => x.1.IsErr := by
    intro apdu fail
    simp only [Prog.stopsOnRefusal_send, signatureDone]
    refine fun sw1 sw2 _ => ⟨fun hb => ?_, by split_ifs <;> trivial⟩
    rw [if_neg fun hok => hbad _ _ _ hb hok.1]
    exact ⟨_, rfl, checkSw_isErr F hF (hbad _ _ _ hb)⟩
  unfold computeSignature
  dsimp only
  split_ifs
  · trivial
  · split
    · exact send_checked_stops hF hbad (g := fun r => (r, _, [])) (fun _ h => h) _ _
        fun _ _ _ _ => hdone _ _
    · split
      · trivial
      · exact hdone _ _
    · trivial

/-! ## Every operation -/

theorem createEnd_stops (hF : F.IsoRejects)
    (hbad : ∀ apdu sw1 sw2, bad apdu sw1 sw2 → sw1 ≠ 0x90) (card : ScCard) (file : ScFile) :
    (createEnd F card file).StopsOnRefusal bad ScRet.IsErr := by
  unfold createEnd
  split_ifs
  · trivial
  · exact sendCheck_stops hF hbad _

theorem cardCtl_stops (hF : F.IsoRejects) (card : ScCard) (cmd : CardCtl)
    (hbad : ∀ apdu sw1 sw2, bad apdu sw1 sw2 → Refused apdu sw1 ∧
      ¬ Excused (.cardCtl cmd) apdu sw1 sw2 ∧ ¬ UncheckedRegisterDf (.cardCtl cmd) apdu) :
    (cardCtl F card cmd).StopsOnRefusal bad fun x => x.1.IsErr := by
  have h90 : ∀ apdu sw1 sw2, bad apdu sw1 sw2 → sw1 ≠ 0x90 := fun a s1 s2 hb => (hbad a s1 s2 hb).1.1
  cases cmd with
  | createFile data => exact Prog.stopsOnRefusal_map (createByData_stops hF
      (fun a s1 s2 hb => ⟨h90 a s1 s2 hb, (hbad a s1 s2 hb).2.2⟩) card data)
  | createEnd file => exact Prog.stopsOnRefusal_map (createEnd_stops hF h90 card file)
  | writeKey data => exact Prog.stopsOnRefusal_map (writeKey_stops hF h90 card data)
  | generateKey data rbuf0 => exact Prog.stopsOnRefusal_map (genKey_stops hF h90 card data rbuf0)
  | eraseCard => exact Prog.stopsOnRefusal_map (eraseCard_stops hF
      (fun a s1 s2 hb => ⟨h90 a s1 s2 hb, (hbad a s1 s2 hb).2.1⟩) card)
  | getSerialnr hasOut => exact getSerialnr_stops h90 card hasOut
  | unsupported => trivial

/-- **A refused command ends every operation.**  For every operation, every handle and
every answer of the card, once a command other than REGISTER DF is answered by a refused
word that the operation does not go on after by design, nothing more is sent and the
operation returns an error. -/
theorem exec_stopsOnRefusal (hF : F.IsoRejects) (fuel : Nat) (card : ScCard) (op : DriverOp) :
    (op.exec F fuel card).StopsOnRefusal
      (fun apdu sw1 sw2 => Refused apdu sw1 ∧ ¬ Excused op apdu sw1 sw2 ∧
        ¬ UncheckedRegisterDf op apdu) fun x => x.1.IsErr := by
  cases op with
  | selectFile path w =>
    exact Prog.stopsOnRefusal_map
      (selectFile_stops hF (fun _ _ _ hb => ⟨hb.1, hb.2.1⟩) fuel card path w)
  | logout =>
    exact Prog.stopsOnRefusal_map (logout_stops hF (fun _ _ _ hb => ⟨hb.1.1, hb.2.1⟩) card)
  | createFile file =>
    exact Prog.stopsOnRefusal_map
      (createFile_stops hF (fun _ _ _ hb => ⟨hb.1.1, hb.2.2⟩) card file)
  | setSecurityEnv env =>
    exact Prog.stopsOnRefusal_map
      (setSecurityEnv_stops hF (fun _ _ _ hb => ⟨hb.1.1, hb.2.1⟩) card env)
  | computeSignature data outlen =>
    exact Prog.stopsOnRefusal_map
      (computeSignature_stops hF (fun _ _ _ hb => hb.1.1) card data outlen)
  | cardCtl cmd => exact Prog.stopsOnRefusal_map (cardCtl_stops hF card cmd fun _ _ _ hb => hb)

end Stops

/-- With OpenSC's ISO translation, for `starcos_logout` on a fresh handle. -/
theorem exec_stopsOnRefusal_logout :
    Framework.opensc.IsoRejects ∧
    (DriverOp.logout.exec Framework.opensc 0 ⟨0, false, ⟨.fileId, []⟩, [], 128, 128, .zero⟩).StopsOnRefusal
      (fun apdu sw1 sw2 => Refused apdu sw1 ∧ ¬ Excused .logout apdu sw1 sw2 ∧
        ¬ UncheckedRegisterDf .logout apdu) fun x => x.1.IsErr :=
  ⟨Framework.opensc_isoRejects, exec_stopsOnRefusal Framework.opensc_isoRejects 0 _ .logout⟩

/-- The SELECT MF of `starcos_logout` answered `90 01`: the call returns `SC_SUCCESS`. -/
theorem logout_success_on_9001 :
    Prog.Trace (logout Framework.opensc ⟨0, false, ⟨.fileId, []⟩, [], 128, 128, .zero⟩)
      [.exchange (logoutApdu ⟨0, false, ⟨.fileId, []⟩, [], 128, 128, .zero⟩) (.answer 0x90 0x01 [])]
      scSuccess :=
  .transmit _ (.ret _)

end StarcosDriver
