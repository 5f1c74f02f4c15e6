import FlaconVault.Verifier.Store
namespace FlaconVault.Verifier

-- What the program recorded for a scan: the arguments of the verified record_scan or the decoded ScanProof.
structure ChainValues where
  tier : Option ℕ
  role : Option ℕ
  siteId : Option ℕ
  source : AttestationSource
  mismatch : List String
  deriving DecidableEq

def differing {α : Type} [DecidableEq α] (name : String) (claimed recorded : Option α) : List String :=
  if claimed.isSome ∧ claimed ≠ recorded then [name] else []

-- Who attested a confirmed scan. The chain's values win; without them the signed claim is kept only when the
-- verified signer is the claimed attester.
def confirmedAttestation (scan : ScanPayload) (attester : Option Pubkey) (chain : Option ChainValues) : Attestation :=
  let claim := scan.bundle.attester
  match chain with
  | some chain =>
    let claimed := differing "attester" claim.pubkey attester ++ differing "tier" (some claim.tier) chain.tier ++
      differing "role" (some claim.role) chain.role ++ differing "siteId" scan.siteId (some (chain.siteId.getD 0))
    ⟨attester,chain.tier,chain.role,chain.siteId,chain.source,claimed ++ chain.mismatch.filter (!claimed.contains ·)⟩
  | none =>
    if attester.isSome ∧ attester = claim.pubkey then
      ⟨attester,some claim.tier,some claim.role,scan.siteId,.claimed,[]⟩
    else ⟨attester,some 0,none,none,.unverified,if claim.pubkey.isSome then ["attester"] else []⟩

-- The payload of a signed scan once its attestation is known.
def ScanPayload.attested (scan : ScanPayload) (attestation : Attestation) : ScanPayload :=
  {scan with confirmed := some attestation
             tier := some (attestation.tier.getD 0)
             role := attestation.role}

-- Two scans agree if they read heat and humidity alike and their fill levels are close.
def agrees (previous current : Bundle) : Bool :=
  previous.indicators.heat == current.indicators.heat && previous.indicators.humidity == current.indicators.humidity &&
    decide (((previous.fill : Int) - current.fill).natAbs ≤ 5)

namespace Database

def setActorLabel (db : Database) (id : ℕ) (attester : Option Pubkey) : Database :=
  let label := (attester.bind db.getAttester).bind (·.label)
  db.updateEvent id (fun row => {row with actorLabel := label}) (fun _ => rfl)

-- The confirmed scan stands in for the tier-0 sighting of its tap.
def replaceSighting (db : Database) (event : EventRow) (scan : ScanPayload) : Database :=
  match event.sealUidHash with
  | some sealUidHash => db.dropSupersededSighting event.serial sealUidHash scan.bundle.counter event.id
  | none => db

-- Scan statistics of the attester, and of the previous scan's attester where the two agree or not.
def creditAttester (db : Database) (event : EventRow) (scan : ScanPayload) (tier : ℕ) (attester : Option Pubkey) (ts : Int) :
    Database :=
  match attester with
  | none => db
  | some attester =>
    let db := db.bumpAttester attester ts 1 (if tier ≥ Tier.CERTIFIED then 1 else 0) 0 0
    match db.previousScanBefore event.serial event.id with
    | none => db
    | some previous =>
      match previous.actor,previous.payload.signedScan with
      | some other,some before =>
        if other ≠ attester then db.bumpAttester other ts 0 0 (if agrees before.bundle scan.bundle then 1 else 0) 1 else db
      | _,_ => db

-- The shared state a scan may change, applied when its event turns confirmed.
def applyConfirmedScan (db : Database) (event : EventRow) (attester : Option Pubkey) (ts : Int) (chain : Option ChainValues) :
    Database :=
  let db := {db with applied := db.applied ++ [event.id]}
  match event.payload.signedScan with
  | none => db
  | some scan =>
    let attested := scan.attested (confirmedAttestation scan attester chain)
    let db := db.updateEventPayload event.id (event.payload.setScan attested)
    let db := db.setActorLabel event.id attester
    let db := db.setPassportGrade event.serial scan.grade (!db.newerConfirmedScanExists event)
    let db := db.replaceSighting event scan
    db.creditAttester event scan (attested.tier.getD 0) attester ts

end Database
end FlaconVault.Verifier
