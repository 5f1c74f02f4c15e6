import FlaconVault.Lib.Runs
import FlaconVault.Verifier.AccountData
import FlaconVault.Web.SendTx
namespace FlaconVault.Web
open Verifier

-- The anchor step of a scan. What a call throws: a refusal decided on the page, an HTTP error of the verifier with its code, or
-- anything else.
inductive Thrown where
  | refused (message : String)
  | api (code : Option String)
  | other
  deriving DecidableEq

structure AccountInfo where
  owner : Bytes32
  data : List Byte

def SCAN_PROOF_DISCRIMINATOR : List Byte := [208,136,45,119,131,191,85,170]
def SCAN_PROOF_ATTESTER_OFFSET : ℕ := 8+32+4+8+2+32+32

theorem attester_length {data : List Byte} (enough : SCAN_PROOF_ATTESTER_OFFSET+32 ≤ data.length) :
    ((data.drop SCAN_PROOF_ATTESTER_OFFSET).take 32).length = 32 := by
  rw [List.length_take,List.length_drop]
  omega

-- No account, an account of another program and data of another kind are no ScanProof.
def scanProofAttester (info : Option AccountInfo) (programId : Bytes32) : Option Bytes32 :=
  match info with
  | none => none
  | some info =>
    if info.owner ≠ programId then none
    else if enough : SCAN_PROOF_ATTESTER_OFFSET+32 ≤ info.data.length then
      if startsWith info.data SCAN_PROOF_DISCRIMINATOR then
        some ⟨(info.data.drop SCAN_PROOF_ATTESTER_OFFSET).take 32,attester_length enough⟩
      else none
    else none

def short (text : String) : String :=
  if text = "" then "–"
  else String.ofList (text.toList.take 4 ++ '…' :: text.toList.drop (text.toList.length-4))

-- The answer of /api/verify, as far as the anchor step reads it: the wallet named in the signed bundle.
structure VerifyResult where
  attesterPubkey : Option String

def signedAttester (v : VerifyResult) : Option String := v.attesterPubkey.filter (· ≠ "")
def attesterMismatch (v : VerifyResult) (connected : String) : Option String := (signedAttester v).filter (· ≠ connected)

inductive AnchorPlan where
  | send
  | recover
  | refuse (message : String)
  deriving DecidableEq

def anchorPlan (info : Option AccountInfo) (wallet programId : Bytes32) : AnchorPlan :=
  match scanProofAttester info programId with
  | none => .send
  | some attester =>
    if attester ≠ wallet then
      .refuse ("This scan is already anchored by another wallet (" ++ short (keyText attester) ++ "). It cannot be anchored twice.")
    else .recover

def resetsTxSig : Thrown → Bool
  | .api code => decide (code = some "tx_failed" ∨ code = some "tx_mismatch")
  | _ => false

def needsOwnScanConfirmation (resumed : Bool) (v : VerifyResult) : Bool := resumed && (signedAttester v).isNone

-- A call on the wallet, the RPC or the verifier: what it answers or throws, and the world it leaves.
abbrev Ask (ω α : Type) := ω → Except Thrown α × ω

structure AnchorDeps (ω σ : Type) where
  verify : VerifyResult
  wallet : Bytes32
  programId : Bytes32
  landedSig : Option σ
  resumed : Bool
  ownScanConfirmed : Bool
  build : Ask ω Unit
  accountInfo : Ask ω (Option AccountInfo)
  findCreating : Ask ω (Option σ)
  send : Ask ω σ
  confirm : σ → Ask ω Unit

-- A failure keeps a signature for the next attempt, or none to build and look again.
inductive AnchorOutcome (σ : Type) where
  | ok (sig : σ)
  | failed (error : Thrown) (landedSig : Option σ)

section Anchor
variable {ω σ : Type} (d : AnchorDeps ω σ)

-- The signature to confirm: the one that landed before, that of the wallet's own record_scan, or of a new one.
def anchorSignature : Ask ω σ := fun world =>
  match d.landedSig with
  | some sig => (.ok sig,world)
  | none =>
    match d.build world with
    | (.error error,world) => (.error error,world)
    | (.ok (),world) =>
      match d.accountInfo world with
      | (.error error,world) => (.error error,world)
      | (.ok info,world) =>
        match anchorPlan info d.wallet d.programId with
        | .refuse message => (.error (.refused message),world)
        | .recover =>
          match d.findCreating world with
          | (.error error,world) => (.error error,world)
          | (.ok none,world) =>
            (.error (.refused "This scan is anchored on chain, but its transaction was not found yet. Try again in a moment."),world)
          | (.ok (some sig),world) => (.ok sig,world)
        | .send => d.send world

-- What is kept after a failure while the signature was this.
def keptAfter (error : Thrown) (sig : Option σ) : Option σ := if resetsTxSig error then none else sig

-- The try block.
def attempt (world : ω) : AnchorOutcome σ × ω :=
  match anchorSignature d world with
  | (.error error,world) => (.failed error (keptAfter error d.landedSig),world)
  | (.ok sig,world) =>
    match d.confirm sig world with
    | (.error error,world) => (.failed error (keptAfter error (some sig)),world)
    | (.ok (),world) => (.ok sig,world)

def anchorScan (world : ω) : AnchorOutcome σ × ω :=
  match attesterMismatch d.verify (keyText d.wallet) with
  | some other =>
    (.failed (.refused ("This scan was signed for wallet " ++ short other ++ ". Switch back to that wallet (header) to anchor it.")) d.landedSig,world)
  | none =>
    if needsOwnScanConfirmation d.resumed d.verify = true ∧ d.ownScanConfirmed = false then
      (.failed (.refused "Confirm first that this is your own scan: anchor only a scan you made yourself.") d.landedSig,world)
    else attempt d world

end Anchor

theorem scan_proof_disc : accountDisc .scanProof = SCAN_PROOF_DISCRIMINATOR := rfl

-- What comes before the attester in the account.
theorem scan_proof_front (a : ScanProofRecord Bytes32) : ∃ front rest, front.length = SCAN_PROOF_ATTESTER_OFFSET ∧
    accountDisc .scanProof ++ a.bytes = front ++ (a.attester.val ++ rest) := by
  refine ⟨accountDisc .scanProof ++ [Borsh.bytes32 a.sealKey,Borsh.u32 a.counter,Borsh.u8 a.tier,Borsh.u8 a.role,Borsh.u8 a.tamper,
    Borsh.u8 a.uv,Borsh.u8 a.hum,Borsh.u8 a.heat,Borsh.u8 a.heatLevels,Borsh.u8 a.fill,Borsh.u16 a.siteId,Borsh.bytes32 a.mediaHash,
    Borsh.bytes32 a.bundleHash].flatten,[Borsh.u8 a.serverKeyId,Borsh.i64 a.ts,Borsh.u8 a.bump].flatten,?_,?_⟩
  · simp only [List.length_append,List.flatten_cons,List.flatten_nil,List.length_nil,Borsh.bytes32,Borsh.u32,Borsh.u8,Borsh.u16,
      a.sealKey.2,a.mediaHash.2,a.bundleHash.2,Bytes.littleEndian_length,List.length_cons,accountDisc,SCAN_PROOF_ATTESTER_OFFSET]
  · simp only [ScanProofRecord.bytes,List.flatten_cons,List.flatten_nil,List.append_nil,List.append_assoc,Borsh.bytes32]

-- An account the program wrote names its attester.
theorem scanProofAttester_account (a : ScanProofRecord Bytes32) (programId : Bytes32) :
    scanProofAttester (some ⟨programId,accountDisc .scanProof ++ a.bytes⟩) programId = some a.attester := by
  obtain ⟨front,rest,length,bytes⟩ := scan_proof_front a
  have enough : SCAN_PROOF_ATTESTER_OFFSET+32 ≤ (accountDisc .scanProof ++ a.bytes).length := by
    rw [bytes,List.length_append,List.length_append,length,a.attester.2]
    omega
  have begins : startsWith (accountDisc .scanProof ++ a.bytes) SCAN_PROOF_DISCRIMINATOR = true := by
    rw [scan_proof_disc]
    exact List.isPrefixOf_iff_prefix.mpr (List.prefix_append _ _)
  have named : ((accountDisc .scanProof ++ a.bytes).drop SCAN_PROOF_ATTESTER_OFFSET).take 32 = a.attester.val := by
    rw [bytes,List.drop_left' length,List.take_left' a.attester.2]
  unfold scanProofAttester
  simp only [ne_eq,not_true_eq_false,if_false,dif_pos enough,if_pos begins]
  exact congrArg some (Subtype.ext named)

theorem scanProofAttester_foreign {info : Option AccountInfo} {programId : Bytes32} (foreign : ∀ found ∈ info, found.owner ≠ programId) :
    scanProofAttester info programId = none := by
  cases info with
  | none => rfl
  | some found => exact if_pos (foreign found rfl)

-- A call that a press makes, whether or not anything comes of it.
inductive AnchorCall (σ : Type) where
  | build | accountInfo | findCreating | send
  | confirm (sig : σ)

def AnchorCall.isSend {σ : Type} : AnchorCall σ → Bool
  | .send => true
  | _ => false

-- The world of one scan: who has anchored it, and with which transaction, and every call that the page has made.
structure Scene (σ : Type) where
  proof : Option (Bytes32 × σ)
  calls : List (AnchorCall σ)

def Scene.made {σ : Type} (scene : Scene σ) (calls : List (AnchorCall σ)) : Scene σ := {scene with calls := scene.calls ++ calls}

-- The wallet's part in one press: its record_scan lands, or lands while the answer is lost, or is declined.
inductive Signing (σ : Type) where
  | signs (sig : σ)
  | lost (sig : σ) (error : Thrown)
  | declines (error : Thrown)

-- What one press meets: every call may throw, and the RPC may answer anything.
structure Weather (σ : Type) where
  built : Except Thrown Unit
  seen : Except Thrown (Option AccountInfo)
  indexed : Except Thrown (Option σ)
  signing : Signing σ
  answered : Except Thrown Unit

-- The scan itself: what the program writes for it, and the wallet it was signed for.
structure AnchoredScan where
  programId : Bytes32
  record : ScanProofRecord Bytes32
  verify : VerifyResult
  resumed : Bool

section Scenes
variable {σ : Type} [DecidableEq σ] (scan : AnchoredScan)

def AnchoredScan.account (attester : Bytes32) : AccountInfo :=
  ⟨scan.programId,accountDisc .scanProof ++ {scan.record with attester := attester}.bytes⟩

variable {scan}

-- The program creates a ScanProof once: a second record_scan fails before it lands.
def sendOnce (wallet : Bytes32) (signing : Signing σ) (scene : Scene σ) : Except Thrown σ × Scene σ :=
  match scene.proof with
  | some _ => (.error .other,scene)
  | none =>
    match signing with
    | .signs sig => (.ok sig,{scene with proof := some (wallet,sig)})
    | .lost sig error => (.error error,{scene with proof := some (wallet,sig)})
    | .declines error => (.error error,scene)

-- The verifier confirms the transaction by which this wallet anchored the scan.
def confirms (wallet : Bytes32) (scene : Scene σ) (sig : σ) : Except Thrown Unit :=
  if scene.proof = some (wallet,sig) then .ok () else .error (.api (some "tx_mismatch"))

variable (scan) in
def pressDeps (wallet : Bytes32) (ownScanConfirmed : Bool) (weather : Weather σ) (kept : Option σ) : AnchorDeps (Scene σ) σ where
  verify := scan.verify
  wallet := wallet
  programId := scan.programId
  landedSig := kept
  resumed := scan.resumed
  ownScanConfirmed := ownScanConfirmed
  build scene := (weather.built,scene.made [.build])
  accountInfo scene := (weather.seen,scene.made [.accountInfo])
  findCreating scene := (weather.indexed,scene.made [.findCreating])
  send scene := sendOnce wallet weather.signing (scene.made [.send])
  confirm sig scene := (weather.answered.bind fun _ => confirms wallet scene sig,scene.made [.confirm sig])

-- The anchor step of the page: the signature it keeps, and the one it is done with.
structure AnchorPage (σ : Type) where
  scene : Scene σ
  kept : Option σ
  done : Option σ

variable (σ) in
inductive AnchorEvent where
  | press (wallet : Bytes32) (ownScanConfirmed : Bool) (weather : Weather σ)
  | rival (attester : Bytes32) (sig : σ)

variable (scan) in
def anchorStep (event : AnchorEvent σ) (s : AnchorPage σ) : AnchorPage σ :=
  match event with
  | .press wallet ownScanConfirmed weather =>
    match s.done with
    | some _ => s
    | none =>
      match anchorScan (pressDeps scan wallet ownScanConfirmed weather s.kept) s.scene with
      | (.ok sig,scene) => ⟨scene,some sig,some sig⟩
      | (.failed _ kept,scene) => ⟨scene,kept,none⟩
  | .rival attester sig => {s with scene := (sendOnce attester (.signs sig) s.scene).2}

-- The RPC showed no ScanProof at the scan's address.
def Unseen (scan : AnchoredScan) (weather : Weather σ) : Prop :=
  ∃ info, weather.seen = .ok info ∧ scanProofAttester info scan.programId = none

-- The signature of a press: the one kept, one that the RPC names, or that of a new anchor; a failure may leave an anchor whose
-- answer was lost. With the calls that were made for it.
inductive Located (scan : AnchoredScan) (wallet : Bytes32) (weather : Weather σ) (scene : Scene σ) (kept : Option σ) :
    Except Thrown σ × Scene σ → Prop where
  | kept (sig : σ) (held : kept = some sig) : Located scan wallet weather scene kept (.ok sig,scene)
  | recovered (sig : σ) (fresh : kept = none) (found : weather.indexed = .ok (some sig)) :
      Located scan wallet weather scene kept (.ok sig,scene.made [.build,.accountInfo,.findCreating])
  | sent (sig : σ) (fresh : kept = none) (unseen : Unseen scan weather) (unanchored : scene.proof = none) :
      Located scan wallet weather scene kept (.ok sig,⟨some (wallet,sig),scene.calls ++ [.build,.accountInfo,.send]⟩)
  | lost (sig : σ) (error : Thrown) (fresh : kept = none) (unseen : Unseen scan weather) (unanchored : scene.proof = none) :
      Located scan wallet weather scene kept (.error error,⟨some (wallet,sig),scene.calls ++ [.build,.accountInfo,.send]⟩)
  | unsent (error : Thrown) (fresh : kept = none) (unseen : Unseen scan weather) :
      Located scan wallet weather scene kept (.error error,scene.made [.build,.accountInfo,.send])
  | failed (error : Thrown) (fresh : kept = none) (calls : List (AnchorCall σ)) (silent : calls.any AnchorCall.isSend = false) :
      Located scan wallet weather scene kept (.error error,scene.made calls)

theorem plan_cases (info : Option AccountInfo) (wallet programId : Bytes32) :
    anchorPlan info wallet programId = .send ∧ scanProofAttester info programId = none ∨
      anchorPlan info wallet programId = .recover ∨ ∃ message, anchorPlan info wallet programId = .refuse message := by
  unfold anchorPlan
  cases scanProofAttester info programId with
  | none => exact .inl ⟨rfl,rfl⟩
  | some attester =>
    by_cases own : attester = wallet
    · exact .inr (.inl (if_neg (not_not.mpr own)))
    · exact .inr (.inr ⟨_,if_pos own⟩)

omit [DecidableEq σ] in
@[simp] theorem Scene.made_proof (scene : Scene σ) (calls : List (AnchorCall σ)) : (scene.made calls).proof = scene.proof := rfl

omit [DecidableEq σ] in
theorem Scene.made_made (scene : Scene σ) (first second : List (AnchorCall σ)) :
    (scene.made first).made second = scene.made (first ++ second) := by
  simp only [made,List.append_assoc]

theorem located (wallet : Bytes32) (ownScanConfirmed : Bool) (weather : Weather σ) (kept : Option σ) (scene : Scene σ) :
    Located scan wallet weather scene kept (anchorSignature (pressDeps scan wallet ownScanConfirmed weather kept) scene) := by
  unfold anchorSignature
  cases kept with
  | some sig => exact .kept sig rfl
  | none =>
    simp only [pressDeps]
    cases weather.built with
    | error error => exact .failed error rfl [.build] rfl
    | ok built =>
      cases seen : weather.seen with
      | error error =>
        simp only [Scene.made_made]
        exact .failed error rfl _ rfl
      | ok info =>
        rcases plan_cases info wallet scan.programId with ⟨plan,attested⟩ | plan | ⟨message,plan⟩
        · have unseen : Unseen scan weather := ⟨info,seen,attested⟩
          simp only [plan,Scene.made_made,List.cons_append,List.nil_append]
          unfold sendOnce
          cases anchored : scene.proof with
          | some entry =>
            simp only [Scene.made_proof,anchored]
            exact .unsent .other rfl unseen
          | none =>
            simp only [Scene.made_proof,anchored]
            cases weather.signing with
            | signs sig => exact .sent sig rfl unseen anchored
            | lost sig error => exact .lost sig error rfl unseen anchored
            | declines error => exact .unsent error rfl unseen
        · simp only [plan,Scene.made_made,List.cons_append,List.nil_append]
          cases indexed : weather.indexed with
          | error error => exact .failed error rfl _ rfl
          | ok found =>
            cases found with
            | none => exact .failed _ rfl _ rfl
            | some sig => exact .recovered sig rfl indexed
        · simp only [plan,Scene.made_made,List.cons_append,List.nil_append]
          exact .failed _ rfl _ rfl

-- The two conditions under which a press gets as far as the calls.
structure Admitted (scan : AnchoredScan) (wallet : Bytes32) (ownScanConfirmed : Bool) : Prop where
  signedFor : attesterMismatch scan.verify (keyText wallet) = none
  own : ¬(needsOwnScanConfirmation scan.resumed scan.verify = true ∧ ownScanConfirmed = false)

theorem anchorScan_admitted {wallet : Bytes32} {ownScanConfirmed : Bool} (admitted : Admitted scan wallet ownScanConfirmed)
    (weather : Weather σ) (kept : Option σ) (scene : Scene σ) :
    anchorScan (pressDeps scan wallet ownScanConfirmed weather kept) scene =
      attempt (pressDeps scan wallet ownScanConfirmed weather kept) scene := by
  have signedFor : attesterMismatch (pressDeps scan wallet ownScanConfirmed weather kept).verify
    (keyText (pressDeps scan wallet ownScanConfirmed weather kept).wallet) = none := admitted.signedFor
  unfold anchorScan
  rw [signedFor]
  exact if_neg admitted.own

theorem anchorScan_refused {wallet : Bytes32} {ownScanConfirmed : Bool} (refused : ¬Admitted scan wallet ownScanConfirmed)
    (weather : Weather σ) (kept : Option σ) (scene : Scene σ) :
    ∃ error, anchorScan (pressDeps scan wallet ownScanConfirmed weather kept) scene = (.failed error kept,scene) := by
  unfold anchorScan
  cases signedFor : attesterMismatch (pressDeps scan wallet ownScanConfirmed weather kept).verify
    (keyText (pressDeps scan wallet ownScanConfirmed weather kept).wallet) with
  | some other => exact ⟨_,rfl⟩
  | none =>
    have unconfirmed : needsOwnScanConfirmation scan.resumed scan.verify = true ∧ ownScanConfirmed = false := by
      by_contra own
      exact refused ⟨signedFor,own⟩
    exact ⟨_,if_pos unconfirmed⟩

-- Everything one press can do to the page and the chain.
inductive Pressed (scan : AnchoredScan) (wallet : Bytes32) (ownScanConfirmed : Bool) (weather : Weather σ) (s : AnchorPage σ) :
    AnchorPage σ → Prop where
  | refused (admitted : ¬Admitted scan wallet ownScanConfirmed) : Pressed scan wallet ownScanConfirmed weather s s
  | unlocated (scene : Scene σ) (error : Thrown) (located : Located scan wallet weather s.scene s.kept (.error error,scene)) :
      Pressed scan wallet ownScanConfirmed weather s ⟨scene,keptAfter error s.kept,none⟩
  | unconfirmed (scene : Scene σ) (sig : σ) (error : Thrown) (located : Located scan wallet weather s.scene s.kept (.ok sig,scene))
      (thrown : (weather.answered.bind fun _ => confirms wallet scene sig) = .error error) :
      Pressed scan wallet ownScanConfirmed weather s ⟨scene.made [.confirm sig],keptAfter error (some sig),none⟩
  | confirmed (scene : Scene σ) (sig : σ) (admitted : Admitted scan wallet ownScanConfirmed)
      (located : Located scan wallet weather s.scene s.kept (.ok sig,scene)) (own : scene.proof = some (wallet,sig)) :
      Pressed scan wallet ownScanConfirmed weather s ⟨scene.made [.confirm sig],some sig,some sig⟩

theorem confirms_ok {wallet : Bytes32} {scene : Scene σ} {sig : σ} {answered : Except Thrown Unit}
    (confirmed : (answered.bind fun _ => confirms wallet scene sig) = .ok ()) : scene.proof = some (wallet,sig) := by
  cases answered with
  | error error => cases confirmed
  | ok done =>
    by_contra other
    have refused : confirms wallet scene sig = .error (.api (some "tx_mismatch")) := if_neg other
    simp only [Except.bind,refused] at confirmed
    cases confirmed

theorem pressed {wallet : Bytes32} {ownScanConfirmed : Bool} {weather : Weather σ} {s : AnchorPage σ} (open_ : s.done = none) :
    Pressed scan wallet ownScanConfirmed weather s (anchorStep scan (.press wallet ownScanConfirmed weather) s) := by
  obtain ⟨scene,kept,done⟩ := s
  subst open_
  simp only [anchorStep]
  by_cases admitted : Admitted scan wallet ownScanConfirmed
  · rw [anchorScan_admitted admitted]
    have found : Located scan wallet weather scene kept (anchorSignature (pressDeps scan wallet ownScanConfirmed weather kept) scene) :=
      located wallet ownScanConfirmed weather kept scene
    unfold attempt
    generalize anchorSignature (pressDeps scan wallet ownScanConfirmed weather kept) scene = result at found
    obtain ⟨answer,later⟩ := result
    cases answer with
    | error error => exact .unlocated later error found
    | ok sig =>
      cases confirmed : weather.answered.bind fun _ => confirms wallet later sig with
      | error error =>
        simp only [pressDeps,confirmed]
        exact .unconfirmed later sig error found confirmed
      | ok done =>
        simp only [pressDeps,confirmed]
        exact .confirmed later sig admitted found (confirms_ok confirmed)
  · obtain ⟨error,refused⟩ := anchorScan_refused admitted weather kept scene
    rw [refused]
    exact .refused admitted

-- A kept signature is that of the scan's anchor.
def Real (s : AnchorPage σ) : Prop := ∀ sig, s.kept = some sig → ∃ wallet, s.scene.proof = some (wallet,sig)

-- The RPC takes no other transaction for the one by which the wallet anchored the scan.
def Honest (wallet : Bytes32) (weather : Weather σ) (scene : Scene σ) : Prop :=
  ∀ sig, weather.indexed = .ok (some sig) → scene.proof = some (wallet,sig)

section Locations
variable {wallet : Bytes32} {weather : Weather σ} {scene : Scene σ} {kept : Option σ} {result : Except Thrown σ × Scene σ}
  (found : Located scan wallet weather scene kept result)
include found
omit [DecidableEq σ]

theorem Located.grows {entry : Bytes32 × σ} (anchored : scene.proof = some entry) : result.2.proof = some entry := by
  cases found with
  | sent sig fresh unseen unanchored => cases anchored.symm.trans unanchored
  | lost sig error fresh unseen unanchored => cases anchored.symm.trans unanchored
  | kept | recovered | unsent | failed => exact anchored

-- With a signature kept there are no calls for one.
theorem Located.held {sig : σ} (held : kept = some sig) : result = (.ok sig,scene) := by
  cases found with
  | kept other same => rw [Option.some.inj (held.symm.trans same)]
  | recovered other fresh | sent other fresh | lost other error fresh | unsent error fresh | failed error fresh =>
    cases held.symm.trans fresh

-- A press sends at most once, with no signature kept and the RPC showing no ScanProof.
theorem Located.calls : ∃ calls, result.2.calls = scene.calls ++ calls ∧ calls.countP AnchorCall.isSend ≤ 1 ∧
    (calls.any AnchorCall.isSend = true → kept = none ∧ Unseen scan weather) := by
  cases found with
  | kept sig held => exact ⟨[],(List.append_nil _).symm,Nat.zero_le _,by simp⟩
  | recovered sig fresh named => exact ⟨_,rfl,Nat.zero_le _,by simp [AnchorCall.isSend]⟩
  | sent sig fresh unseen | lost sig error fresh unseen | unsent error fresh unseen =>
    exact ⟨_,rfl,Nat.le_refl 1,fun _ => ⟨fresh,unseen⟩⟩
  | failed error fresh calls silent =>
    refine ⟨calls,rfl,?_,fun sends => absurd (silent.symm.trans sends) (by simp)⟩
    have none_sent : calls.countP AnchorCall.isSend = 0 := by
      rw [List.countP_eq_zero]
      exact List.any_eq_false.mp silent
    omega

end Locations

omit [DecidableEq σ] in
theorem Located.real {wallet : Bytes32} {weather : Weather σ} {s : AnchorPage σ} (real : Real s)
    (honest : Honest wallet weather s.scene) {sig : σ} {scene : Scene σ}
    (found : Located scan wallet weather s.scene s.kept (.ok sig,scene)) : ∃ attester, scene.proof = some (attester,sig) := by
  cases found with
  | kept _ held => exact real sig held
  | recovered _ fresh named => exact ⟨wallet,honest sig named⟩
  | sent _ fresh unseen unanchored => exact ⟨wallet,rfl⟩

omit [DecidableEq σ] in
theorem keptAfter_some {error : Thrown} {kept : Option σ} {sig : σ} (held : keptAfter error kept = some sig) : kept = some sig := by
  unfold keptAfter at held
  split at held
  · cases held
  · exact held

section Press
variable {wallet : Bytes32} {ownScanConfirmed : Bool} {weather : Weather σ} {s after : AnchorPage σ}
  (press : Pressed scan wallet ownScanConfirmed weather s after)
include press

theorem Pressed.grows {entry : Bytes32 × σ} (anchored : s.scene.proof = some entry) : after.scene.proof = some entry := by
  cases press with
  | refused admitted => exact anchored
  | unlocated scene error found => exact found.grows anchored
  | unconfirmed scene sig error found thrown => exact found.grows anchored
  | confirmed scene sig admitted found own => exact found.grows anchored

theorem Pressed.real (real : Real s) (honest : Honest wallet weather s.scene) : Real after := by
  cases press with
  | refused admitted => exact real
  | unlocated scene error found =>
    intro sig held
    obtain ⟨attester,anchored⟩ := real sig (keptAfter_some held)
    exact ⟨attester,found.grows anchored⟩
  | unconfirmed scene sig error found thrown =>
    intro other held
    cases keptAfter_some held
    exact found.real real honest
  | confirmed scene sig admitted found own =>
    intro other held
    cases held
    exact ⟨wallet,own⟩

-- While a signature is kept, a press only asks the verifier again.
theorem Pressed.retries (admitted : Admitted scan wallet ownScanConfirmed) {sig : σ} (held : s.kept = some sig) :
    after.scene = s.scene.made [.confirm sig] := by
  cases press with
  | refused refused => exact absurd admitted refused
  | unlocated scene error found => cases found.held held
  | unconfirmed scene other error found thrown =>
    cases found.held held
    rfl
  | confirmed scene other _ found own =>
    cases found.held held
    rfl

theorem Pressed.calls : ∃ calls, after.scene.calls = s.scene.calls ++ calls ∧ calls.countP AnchorCall.isSend ≤ 1 ∧
    (calls.any AnchorCall.isSend = true → s.kept = none ∧ Unseen scan weather) := by
  have confirmed {scene : Scene σ} {sig : σ} (found : Located scan wallet weather s.scene s.kept (.ok sig,scene)) :
      ∃ calls, (scene.made [.confirm sig]).calls = s.scene.calls ++ calls ∧ calls.countP AnchorCall.isSend ≤ 1 ∧
        (calls.any AnchorCall.isSend = true → s.kept = none ∧ Unseen scan weather) := by
    obtain ⟨calls,made,once,sends⟩ := found.calls
    have made : scene.calls = s.scene.calls ++ calls := made
    refine ⟨calls ++ [.confirm sig],?_,?_,?_⟩
    · simp only [Scene.made,made,List.append_assoc]
    · simpa [AnchorCall.isSend] using once
    · simpa [AnchorCall.isSend] using sends
  cases press with
  | refused admitted => exact ⟨[],(List.append_nil _).symm,Nat.zero_le _,by simp⟩
  | unlocated scene error found => exact found.calls
  | unconfirmed scene sig error found thrown => exact confirmed found
  | confirmed scene sig admitted found own => exact confirmed found

-- A signature is forgotten only for an answer of the verifier: the transaction failed, or it is not this wallet's.
theorem Pressed.forgets {sig : σ} (held : s.kept = some sig) (gone : after.kept = none) :
    (∃ error, weather.answered = .error error ∧ resetsTxSig error = true) ∨ s.scene.proof ≠ some (wallet,sig) := by
  cases press with
  | refused admitted => cases held.symm.trans gone
  | unlocated scene error found => cases found.held held
  | unconfirmed scene other error found thrown =>
    cases found.held held
    have resets : resetsTxSig error = true := by
      by_contra keeps
      simp only [keptAfter,if_neg keeps] at gone
      cases gone
    cases answered : weather.answered with
    | error reason =>
      rw [answered] at thrown
      cases thrown
      exact .inl ⟨_,rfl,resets⟩
    | ok done =>
      refine .inr ?_
      intro anchored
      have confirmed : confirms wallet s.scene sig = .ok () := if_pos anchored
      rw [answered] at thrown
      cases confirmed.symm.trans thrown
  | confirmed scene located admitted found own => cases gone

theorem Pressed.finishes {sig : σ} (open_ : s.done = none) (finished : after.done = some sig) :
    Admitted scan wallet ownScanConfirmed ∧ after.scene.proof = some (wallet,sig) := by
  cases press with
  | refused admitted => cases open_.symm.trans finished
  | unlocated scene error found => cases finished
  | unconfirmed scene located error found thrown => cases finished
  | confirmed scene located admitted found own =>
    cases finished
    exact ⟨admitted,own⟩

end Press

-- What stands at the scan's address: its ScanProof, or before that at most an account of somebody else.
def Shown (scan : AnchoredScan) (scene : Scene σ) (info : Option AccountInfo) : Prop :=
  match scene.proof with
  | none => ∀ found ∈ info, found.owner ≠ scan.programId
  | some (attester,_) => info = some (scan.account attester)

omit [DecidableEq σ] in
theorem plan_unanchored {scene : Scene σ} {info : Option AccountInfo} (shown : Shown scan scene info) (unanchored : scene.proof = none)
    (wallet : Bytes32) : anchorPlan info wallet scan.programId = .send := by
  unfold Shown at shown
  rw [unanchored] at shown
  unfold anchorPlan
  rw [scanProofAttester_foreign shown]

omit [DecidableEq σ] in
theorem plan_anchored {scene : Scene σ} {info : Option AccountInfo} (shown : Shown scan scene info) {attester : Bytes32} {sig : σ}
    (anchored : scene.proof = some (attester,sig)) (wallet : Bytes32) :
    if attester = wallet then anchorPlan info wallet scan.programId = .recover
    else ∃ message, anchorPlan info wallet scan.programId = .refuse message := by
  unfold Shown at shown
  rw [anchored] at shown
  dsimp only at shown
  subst shown
  simp only [AnchoredScan.account,anchorPlan,scanProofAttester_account]
  by_cases own : attester = wallet
  · rw [if_pos own,if_neg (not_not.mpr own)]
  · rw [if_neg own,if_pos own]
    exact ⟨_,rfl⟩

-- A press with every call answered as it stands and the wallet willing.
structure Fair (scan : AnchoredScan) (wallet : Bytes32) (weather : Weather σ) (scene : Scene σ) : Prop where
  built : weather.built = .ok ()
  seen : ∃ info, weather.seen = .ok info ∧ Shown scan scene info
  indexed : ∀ sig, scene.proof = some (wallet,sig) → weather.indexed = .ok (some sig)
  signs : ∃ sig, weather.signing = .signs sig
  answered : weather.answered = .ok ()

-- A fair press of the wallet that anchored the scan, or of the first to do so, finds the anchoring transaction.
theorem fair_signature {wallet : Bytes32} (ownScanConfirmed : Bool) {weather : Weather σ} {s : AnchorPage σ}
    (fair : Fair scan wallet weather s.scene) (real : Real s) (own : ∀ entry, s.scene.proof = some entry → entry.1 = wallet) :
    ∃ sig after, anchorSignature (pressDeps scan wallet ownScanConfirmed weather s.kept) s.scene = (.ok sig,after) ∧
      after.proof = some (wallet,sig) := by
  unfold anchorSignature
  cases held : s.kept with
  | some sig =>
    obtain ⟨attester,anchored⟩ := real sig held
    obtain rfl := own _ anchored
    exact ⟨sig,s.scene,rfl,anchored⟩
  | none =>
    obtain ⟨fresh,signing⟩ := fair.signs
    obtain ⟨info,seen,shown⟩ := fair.seen
    cases anchored : s.scene.proof with
    | none =>
      have bare : (s.scene.made [.build,.accountInfo,.send]).proof = none := anchored
      simp only [pressDeps,fair.built,seen,plan_unanchored shown anchored wallet,Scene.made_made,sendOnce,List.cons_append,
        List.nil_append,bare,signing]
      exact ⟨fresh,_,rfl,rfl⟩
    | some entry =>
      obtain ⟨attester,sig⟩ := entry
      obtain rfl := own _ anchored
      have plan := plan_anchored shown anchored attester
      rw [if_pos rfl] at plan
      simp only [pressDeps,fair.built,seen,plan,fair.indexed sig anchored]
      exact ⟨sig,_,rfl,anchored⟩

theorem fair_press {wallet : Bytes32} {ownScanConfirmed : Bool} {weather : Weather σ} {s : AnchorPage σ}
    (admitted : Admitted scan wallet ownScanConfirmed) (fair : Fair scan wallet weather s.scene) (real : Real s) (open_ : s.done = none)
    (own : ∀ entry, s.scene.proof = some entry → entry.1 = wallet) :
    ∃ sig, (anchorStep scan (.press wallet ownScanConfirmed weather) s).done = some sig := by
  obtain ⟨sig,after,found,anchored⟩ := fair_signature ownScanConfirmed fair real own
  have confirmed : confirms wallet after sig = .ok () := if_pos anchored
  refine ⟨sig,?_⟩
  simp only [anchorStep,open_]
  rw [anchorScan_admitted admitted,attempt,found]
  simp only [pressDeps,fair.answered,Except.bind,confirmed]

-- A fair press of another wallet sends nothing and keeps nothing.
theorem foreign_press {wallet other : Bytes32} {ownScanConfirmed : Bool} {weather : Weather σ} {s : AnchorPage σ} {sig : σ}
    (admitted : Admitted scan wallet ownScanConfirmed) (fair : Fair scan wallet weather s.scene) (real : Real s) (open_ : s.done = none)
    (anchored : s.scene.proof = some (other,sig)) (foreign : other ≠ wallet) : ∃ calls, calls.any AnchorCall.isSend = false ∧
      anchorStep scan (.press wallet ownScanConfirmed weather) s = ⟨s.scene.made calls,none,none⟩ := by
  simp only [anchorStep,open_]
  rw [anchorScan_admitted admitted,attempt]
  cases held : s.kept with
  | some kept =>
    obtain ⟨attester,same⟩ := real kept held
    cases anchored.symm.trans same
    have refused : confirms wallet s.scene sig = .error (.api (some "tx_mismatch")) := by
      refine if_neg ?_
      intro own
      cases anchored.symm.trans own
      exact foreign rfl
    refine ⟨[.confirm sig],rfl,?_⟩
    simp only [anchorSignature,pressDeps,fair.answered,Except.bind,refused]
    rfl
  | none =>
    obtain ⟨info,seen,shown⟩ := fair.seen
    have plan := plan_anchored shown anchored wallet
    rw [if_neg foreign] at plan
    obtain ⟨message,plan⟩ := plan
    refine ⟨[.build,.accountInfo],rfl,?_⟩
    simp only [anchorSignature,pressDeps,fair.built,seen,plan,Scene.made_made]
    rfl

theorem anchor_step {s : AnchorPage σ} {entry : Bytes32 × σ} (event : AnchorEvent σ) (anchored : s.scene.proof = some entry) :
    (anchorStep scan event s).scene.proof = some entry := by
  cases event with
  | press wallet ownScanConfirmed weather =>
    cases open_ : s.done with
    | some sig =>
      simp only [anchorStep,open_]
      exact anchored
    | none => exact (pressed open_).grows anchored
  | rival attester sig =>
    simp only [anchorStep,sendOnce,anchored]

-- A press is honest as far as the RPC's answers are.
def HonestEvent (s : AnchorPage σ) : AnchorEvent σ → Prop
  | .press wallet _ weather => Honest wallet weather s.scene
  | .rival _ _ => True

theorem real_step {s : AnchorPage σ} (event : AnchorEvent σ) (real : Real s) (honest : HonestEvent s event) :
    Real (anchorStep scan event s) := by
  cases event with
  | press wallet ownScanConfirmed weather =>
    cases open_ : s.done with
    | some sig =>
      simp only [anchorStep,open_]
      exact real
    | none => exact (pressed open_).real real honest
  | rival attester sig =>
    intro kept held
    obtain ⟨wallet,anchored⟩ := real kept held
    exact ⟨wallet,anchor_step (.rival attester sig) anchored⟩

theorem over_step {wallet : Bytes32} {ownScanConfirmed : Bool} {weather : Weather σ} {s : AnchorPage σ} {sig : σ}
    (finished : s.done = some sig) : anchorStep scan (.press wallet ownScanConfirmed weather) s = s := by
  simp only [anchorStep,finished]

theorem done_step {s : AnchorPage σ} {sig : σ} (event : AnchorEvent σ) (finished : s.done = some sig) :
    (anchorStep scan event s).done = some sig := by
  cases event with
  | press wallet ownScanConfirmed weather =>
    rw [over_step finished]
    exact finished
  | rival attester other => exact finished

theorem refused_step {wallet : Bytes32} {ownScanConfirmed : Bool} (refused : ¬Admitted scan wallet ownScanConfirmed)
    (weather : Weather σ) {s : AnchorPage σ} (open_ : s.done = none) :
    anchorStep scan (.press wallet ownScanConfirmed weather) s = s := by
  obtain ⟨scene,kept,done⟩ := s
  subst open_
  obtain ⟨error,answer⟩ := anchorScan_refused refused weather kept scene
  simp only [anchorStep,answer]

-- The page from its first press on, with other wallets anchoring the same scan in between.
structure AnchorRun (σ : Type) where
  scan : AnchoredScan
  scene : Scene σ
  schedule : ℕ → AnchorEvent σ

namespace AnchorRun

def state (run : AnchorRun σ) (n : ℕ) : AnchorPage σ := Runs.reached (anchorStep run.scan) ⟨run.scene,none,none⟩ run.schedule n

variable {run : AnchorRun σ}

theorem state_succ (n : ℕ) : run.state (n+1) = anchorStep run.scan (run.schedule n) (run.state n) := Runs.reached_succ n

theorem real (honest : ∀ n, HonestEvent (run.state n) (run.schedule n)) (n : ℕ) : Real (run.state n) := by
  induction n with
  | zero =>
    intro sig held
    cases held
  | succ n ih =>
    rw [state_succ]
    exact real_step (run.schedule n) ih (honest n)

theorem anchored {n m : ℕ} (ordered : n ≤ m) {entry : Bytes32 × σ} (anchored : (run.state n).scene.proof = some entry) :
    (run.state m).scene.proof = some entry := by
  refine Runs.related (R := fun s later : AnchorPage σ => s.scene.proof = some entry → later.scene.proof = some entry) ?_ ?_ ?_ ordered anchored
  · intro s here
    exact here
  · intro a b c first second here
    exact second (first here)
  · intro k here
    exact anchor_step (run.schedule k) here

theorem done_by (n : ℕ) : ∀ sig, (run.state n).done = some sig → ∃ k < n, ∃ wallet ownScanConfirmed weather,
    run.schedule k = .press wallet ownScanConfirmed weather ∧ Admitted run.scan wallet ownScanConfirmed ∧
      (run.state n).scene.proof = some (wallet,sig) := by
  induction n with
  | zero =>
    intro sig finished
    cases finished
  | succ n ih =>
    intro sig finished
    cases open_ : (run.state n).done with
    | some old =>
      have same : (run.state (n+1)).done = some old := done_step (run.schedule n) open_
      cases same.symm.trans finished
      obtain ⟨k,before,wallet,ownScanConfirmed,weather,called,admitted,anchored⟩ := ih sig open_
      exact ⟨k,by omega,wallet,ownScanConfirmed,weather,called,admitted,AnchorRun.anchored (Nat.le_succ n) anchored⟩
    | none =>
      rw [state_succ] at finished
      cases called : run.schedule n with
      | press wallet ownScanConfirmed weather =>
        rw [called] at finished
        obtain ⟨admitted,anchored⟩ := (pressed open_).finishes open_ finished
        refine ⟨n,by omega,wallet,ownScanConfirmed,weather,called,admitted,?_⟩
        rw [state_succ,called]
        exact anchored
      | rival attester other =>
        rw [called] at finished
        cases open_.symm.trans finished

end AnchorRun

-- The anchor step over every run of presses, whatever the wallet, the RPC and the verifier do. The scan is anchored once. A press
-- sends at most once, and not with a signature kept or a ScanProof in sight; with a signature kept it only asks the verifier
-- again, and forgets it only for the verifier's answer. A press of a wallet the scan was not signed for calls nobody, and so
-- does one after the end. Where the RPC names no wrong transaction, a kept signature is that of the anchor, and a fair press
-- finishes unless another wallet was first, and then sends nothing.
structure AnchorLaw (run : AnchorRun σ) : Prop where
  once : ∀ n m entry, n ≤ m → (run.state n).scene.proof = some entry → (run.state m).scene.proof = some entry
  done : ∀ n sig, (run.state n).done = some sig → ∃ k < n, ∃ wallet ownScanConfirmed weather,
    run.schedule k = .press wallet ownScanConfirmed weather ∧ Admitted run.scan wallet ownScanConfirmed ∧
      (run.state n).scene.proof = some (wallet,sig)
  sends : ∀ n wallet ownScanConfirmed weather, run.schedule n = .press wallet ownScanConfirmed weather →
    ∃ calls, (run.state (n+1)).scene.calls = (run.state n).scene.calls ++ calls ∧ calls.countP AnchorCall.isSend ≤ 1 ∧
      (calls.any AnchorCall.isSend = true → (run.state n).kept = none ∧ Unseen run.scan weather)
  retries : ∀ n wallet ownScanConfirmed weather sig, run.schedule n = .press wallet ownScanConfirmed weather →
    Admitted run.scan wallet ownScanConfirmed → (run.state n).done = none → (run.state n).kept = some sig →
    (run.state (n+1)).scene = (run.state n).scene.made [.confirm sig]
  forgets : ∀ n wallet ownScanConfirmed weather sig, run.schedule n = .press wallet ownScanConfirmed weather →
    (run.state n).kept = some sig → (run.state (n+1)).kept = none →
    (∃ error, weather.answered = .error error ∧ resetsTxSig error = true) ∨ (run.state n).scene.proof ≠ some (wallet,sig)
  refused : ∀ n wallet ownScanConfirmed weather, run.schedule n = .press wallet ownScanConfirmed weather →
    ¬Admitted run.scan wallet ownScanConfirmed ∨ (run.state n).done ≠ none → run.state (n+1) = run.state n
  kept : (∀ n, HonestEvent (run.state n) (run.schedule n)) → ∀ n, Real (run.state n)
  finishes : (∀ n, HonestEvent (run.state n) (run.schedule n)) → ∀ n wallet ownScanConfirmed weather,
    run.schedule n = .press wallet ownScanConfirmed weather → Admitted run.scan wallet ownScanConfirmed →
    Fair run.scan wallet weather (run.state n).scene → (run.state n).done = none →
    (∀ entry, (run.state n).scene.proof = some entry → entry.1 = wallet) → ∃ sig, (run.state (n+1)).done = some sig
  foreign : (∀ n, HonestEvent (run.state n) (run.schedule n)) → ∀ n wallet ownScanConfirmed weather other sig,
    run.schedule n = .press wallet ownScanConfirmed weather → Admitted run.scan wallet ownScanConfirmed →
    Fair run.scan wallet weather (run.state n).scene → (run.state n).done = none →
    (run.state n).scene.proof = some (other,sig) → other ≠ wallet →
    ∃ calls, calls.any AnchorCall.isSend = false ∧ run.state (n+1) = ⟨(run.state n).scene.made calls,none,none⟩

theorem anchor_law (run : AnchorRun σ) : AnchorLaw run := by
  have next (n : ℕ) : run.state (n+1) = anchorStep run.scan (run.schedule n) (run.state n) := AnchorRun.state_succ n
  refine ⟨fun n m entry ordered anchored => AnchorRun.anchored ordered anchored,AnchorRun.done_by,?_,?_,?_,?_,AnchorRun.real,?_,?_⟩
  · intro n wallet ownScanConfirmed weather called
    rw [next,called]
    cases open_ : (run.state n).done with
    | some finished =>
      rw [over_step open_]
      exact ⟨[],(List.append_nil _).symm,Nat.zero_le _,by simp⟩
    | none => exact (pressed open_).calls
  · intro n wallet ownScanConfirmed weather sig called admitted open_ held
    rw [next,called]
    exact (pressed open_).retries admitted held
  · intro n wallet ownScanConfirmed weather sig called held gone
    rw [next,called] at gone
    cases open_ : (run.state n).done with
    | some finished =>
      rw [over_step open_] at gone
      cases held.symm.trans gone
    | none => exact (pressed open_).forgets held gone
  · intro n wallet ownScanConfirmed weather called idle
    rw [next,called]
    cases open_ : (run.state n).done with
    | some finished => exact over_step open_
    | none => exact refused_step (idle.resolve_right fun finished => finished open_) weather open_
  · intro honest n wallet ownScanConfirmed weather called admitted fair open_ own
    rw [next,called]
    exact fair_press admitted fair (AnchorRun.real honest n) open_ own
  · intro honest n wallet ownScanConfirmed weather other sig called admitted fair open_ anchored foreign
    rw [next,called]
    exact foreign_press admitted fair (AnchorRun.real honest n) open_ anchored foreign

end Scenes

-- The record_scan lands while the wallet's answer is lost; the next press finds it and sends nothing more.
namespace LostAnswer

theorem key_length (fill : Byte) : (List.replicate 32 fill).length = 32 := List.length_replicate

def key (fill : Byte) : Bytes32 := ⟨List.replicate 32 fill,key_length fill⟩
def wallet : Bytes32 := key 7
def program : Bytes32 := key 1
def scan : AnchoredScan := ⟨program,⟨wallet,1,0,0,0,0,0,0,0,0,0,wallet,wallet,wallet,0,.zero,255⟩,⟨none⟩,false⟩
def first : Weather ℕ := ⟨.ok (),.ok none,.ok none,.lost 5 .other,.ok ()⟩
def second : Weather ℕ := ⟨.ok (),.ok (some (scan.account wallet)),.ok (some 5),.signs 6,.ok ()⟩

def run : AnchorRun ℕ := ⟨scan,⟨none,[]⟩,fun
  | 0 => .press wallet true first
  | _ => .press wallet true second⟩

theorem landed {n : ℕ} (later : 1 ≤ n) : (run.state n).scene.proof = some (wallet,5) :=
  AnchorRun.anchored later (by decide +kernel)

theorem honest : ∀ n, HonestEvent (run.state n) (run.schedule n)
  | 0 => by
    intro sig found
    cases found
  | n+1 => by
    intro sig found
    cases found
    exact landed (Nat.le_add_left 1 n)

theorem fair : Fair scan wallet second (run.state 1).scene where
  built := rfl
  seen := by
    refine ⟨_,rfl,?_⟩
    unfold Shown
    rw [landed (le_refl 1)]
  indexed := by
    intro sig anchored
    cases (landed (le_refl 1)).symm.trans anchored
    rfl
  signs := ⟨6,rfl⟩
  answered := rfl

theorem found_again : (run.state 2).done = some 5 ∧ (run.state 2).scene.calls.countP AnchorCall.isSend = 1 := by
  have law := anchor_law run
  have admitted : Admitted run.scan wallet true := ⟨rfl,fun unconfirmed => by cases unconfirmed.2⟩
  have own : ∀ entry, (run.state 1).scene.proof = some entry → entry.1 = wallet := by
    intro entry anchored
    cases (landed (le_refl 1)).symm.trans anchored
    rfl
  have called : run.schedule 1 = .press wallet true second := rfl
  have open_ : (run.state 1).done = none := by decide +kernel
  obtain ⟨sig,done⟩ := law.finishes honest 1 wallet true second called admitted fair open_ own
  obtain ⟨_,_,_,_,_,_,_,anchored⟩ := law.done 2 sig done
  have there : (run.state 2).scene.proof = some (wallet,5) := landed (by decide)
  rw [there] at anchored
  cases anchored
  exact ⟨done,by decide +kernel⟩

end LostAnswer
end FlaconVault.Web
