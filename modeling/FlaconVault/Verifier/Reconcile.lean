import FlaconVault.Verifier.Events
namespace FlaconVault.Verifier
open Guards

-- The reconcile job. All chain reads come before its write transaction.
def FAILED_RECHECK_S : Int := 24*3600
def SIGNATURE_MAX_CHECKS : ℕ := 20

-- What the RPC answers during one cycle: account data by address, the successful signatures on an address (newest
-- first, none when the call fails), transactions, and the escrow program's Order-sized accounts.
structure ReconcileReads where
  scans : Pubkey → Option (List Byte)
  signatures : Pubkey → Option (List Signature)
  transactions : Signature → Option TxResult
  accounts : Pubkey → Option (List Byte)
  orders : Option (List (Pubkey × List Byte))

-- Did this transaction run record_scan on the seal and ScanProof, signed by the attester at the signer's position?
def createsScan (program sealPda scanPda attester : Pubkey) (signature : Signature) (res : TxResult) : Bool :=
  let tx := parseTransaction res
  tx.err.isNone && (tx.signatures.isEmpty || tx.signatures.contains signature) && tx.instructions.any fun ix =>
    ix.program == some program && ix.data.take 8 == ixDisc .recordScan &&
      ix.accountAt .recordScan .sealAccount == some sealPda && ix.accountAt .recordScan .scan == some scanPda &&
      ix.accountAt .recordScan .signer == some attester && tx.signers.contains attester

def creatingSignature (reads : ReconcileReads) (program sealPda scanPda attester : Pubkey) : Option Signature :=
  (reads.signatures scanPda).bind fun found =>
    (found.reverse.take SIGNATURE_MAX_CHECKS).find? fun signature =>
      (reads.transactions signature).any (createsScan program sealPda scanPda attester signature)

-- The decoded ScanProof, or why the account does not count as this scan's.
def scanProofAt (settings : Settings) (data : Option (List Byte)) (sealPda : Pubkey) (counter : ℕ) :
    Option ScanProof × Option DecodeError :=
  match data with
  | none => (none,none)
  | some bytes =>
    match decodeScanProof settings (some bytes) with
    | .error error => (none,some error)
    | .ok acct => if acct.sealKey = sealPda ∧ acct.counter.val = counter then (some acct,none) else (none,some .otherScan)

structure WorkItem where
  event : EventRow
  scanPda : Pubkey
  proof : Option ScanProof
  why : Option DecodeError
  signature : Option Signature
  deriving DecidableEq

structure ReconcileJob where
  ts : I64
  work : List WorkItem
  passports : List (PassportRow × Option (List Byte))
  seals : List (SealRow × Option (List Byte))
  registry : Option (List Byte)
  orders : Option (List (Pubkey × List Byte))
  deriving DecidableEq

def workItem (settings : Settings) (program : Pubkey) (reads : ReconcileReads) (event : EventRow) : Option WorkItem :=
  match event.sealUidHash,event.payload.counter with
  | some sealUidHash,some counter =>
    let sealPda := Pubkey.sealOf sealUidHash
    let scanPda := Pubkey.scan sealPda (Fin.ofNat (2^32) counter)
    let found := scanProofAt settings (reads.scans scanPda) sealPda counter
    let signature := match found.1 with
      | some acct =>
        if event.txSig.isNone ∨ event.status = .failed then creatingSignature reads program sealPda scanPda acct.attester
        else none
      | none => none
    some ⟨event,scanPda,found.1,found.2,signature⟩
  | _,_ => none

-- First half of a cycle: the selected events, all passports and seals, and their accounts.
def reconcileRead (settings : Settings) (db : Database) (reads : ReconcileReads) (ts : I64) : Option ReconcileJob :=
  settings.programId.map fun program =>
    ⟨ts,(db.scanEventsToReconcile (ts.val-FAILED_RECHECK_S)).filterMap (workItem settings program reads),
      db.passports.rows.map fun row => (row,reads.accounts (.passport row.serialHash)),
      db.seals.rows.map fun row => (row,reads.accounts (.sealOf row.uidHash)),
      reads.accounts .registry,if settings.escrowProgramId.isSome then reads.orders else none⟩

-- The fields of the ScanProof that differ from the bundle.
def compareProof (scan : ScanPayload) (acct : ScanProof) : List String :=
  let bundle := scan.bundle
  let differs {α : Type} [DecidableEq α] (name : String) (want got : α) : List String := if want ≠ got then [name] else []
  let media := (bundle.media.head?.map (·.sha256)).getD zero32
  differs "counter" bundle.counter acct.counter.val ++ differs "tamper" bundle.tamper acct.tamper.val ++
    differs "uv" bundle.indicators.uv acct.uv.val ++ differs "hum" bundle.indicators.humidity acct.hum.val ++
    differs "heat" bundle.indicators.heat acct.heat.val ++ differs "fill" bundle.fill acct.fill.val ++
    differs "media_hash" media acct.mediaHash ++ differs "bundle_hash" scan.bundleHash acct.bundleHash ++
    differs "tier" bundle.attester.tier acct.tier.val ++ differs "role" bundle.attester.role acct.role.val ++
    differing "site_id" scan.siteId (some acct.siteId.val) ++
    differs "heat_levels" (heatLevelsToMask bundle.heatLevels) acct.heatLevels.val ++
    differing "attester" bundle.attester.pubkey (some acct.attester)

def chainPart (acct : ScanProof) (scanPda : Pubkey) : ChainPart :=
  ⟨acct.attester,acct.tier.val,acct.role.val,acct.siteId.val,acct.counter.val,scanPda⟩

def acctValues (acct : ScanProof) (mismatch : List String) : ChainValues :=
  ⟨some acct.tier.val,some acct.role.val,some acct.siteId.val,.chain,
    mismatch.map fun name => if name = "site_id" then "siteId" else name⟩

-- The note of this check; an account that does not count leaves its reason.
def WorkItem.note (item : WorkItem) (ts : Int) : ReconcilePart :=
  let part := item.event.payload.reconcile.getD .empty
  {part with checkedAt := some ts
             scanPda := some item.scanPda
             ignoredAccount := item.why <|> part.ignoredAccount}

def confirmedNote (item : WorkItem) (ts : Int) (mismatch : List String) : ReconcilePart :=
  let part := item.note ts
  {part with mismatch := some mismatch
             signatureChecked := true
             reason := none
             ignoredAccount := none
             recoveredFrom := if item.event.status = .failed then some .failed else part.recoveredFrom}

-- The payload a reconciled scan gets: the signed one with the chain's values and the note of the check.
def reconciledPayload (item : WorkItem) (acct : ScanProof) (ts : Int) : Payload :=
  match item.event.payload.signedScan with
  | some scan => ⟨.signedScan {scan with chain := some (chainPart acct item.scanPda)},some (confirmedNote item ts (compareProof scan acct))⟩
  | none => {item.event.payload with reconcile := some (confirmedNote item ts [])}

-- The row of a scan that a cycle confirms.
def WorkItem.confirm (item : WorkItem) (acct : ScanProof) (label : Option String) (ts : Int) (row : EventRow) : EventRow :=
  {row with status := .confirmed
            actor := some acct.attester
            actorLabel := label
            resumeHash := none
            txSig := if item.event.status = .failed then item.signature
              else row.txSig <|> item.event.txSig <|> item.signature
            payload := reconciledPayload item acct ts}

@[simp] theorem WorkItem.confirm_id (item : WorkItem) (acct : ScanProof) (label : Option String) (ts : Int) (row : EventRow) :
    (item.confirm acct label ts row).id = row.id := rfl

def confirmScan (db : Database) (item : WorkItem) (acct : ScanProof) (ts : Int) : Except SqlError Database :=
  let mismatch := match item.event.payload.signedScan with
    | some scan => compareProof scan acct
    | none => []
  let label := (db.getAttester acct.attester).bind (·.label)
  let confirmed := db.updateEvent item.event.id (item.confirm acct label ts) (item.confirm_id acct label ts)
  match confirmed.getEvent item.event.id with
  | some event => .ok (confirmed.applyConfirmedScan event (some acct.attester) ts (some (acctValues acct mismatch)))
  | none => .error .integrity

def failPending (db : Database) (id : ℕ) (payload : Payload) : Database :=
  let events := db.events.update (fun row => row.id = id ∧ row.status = .pending)
    (fun row => {row with status := .failed}) (fun _ => rfl)
  ({db with events := events} : Database).updateEventPayload id payload

-- One selected event, unless somebody else settled it meanwhile.
def applyWork (settings : Settings) (ts : Int) (db : Database) (item : WorkItem) : Except SqlError Database :=
  match (db.getEvent item.event.id).filter (·.status == item.event.status) with
  | none => .ok db
  | some _ =>
    match item.proof with
    | some acct => confirmScan db item acct ts
    | none =>
      if item.event.status = .failed then .ok db
      else if ts-item.event.ts > settings.reconcileTimeout then
        let timeout := settings.reconcileTimeout
        let part := {item.note ts with reason := some s!"no ScanProof after {timeout}s"}
        .ok (failPending db item.event.id {item.event.payload with reconcile := some part})
      else if item.why.isSome then
        .ok (db.updateEventPayload item.event.id {item.event.payload with reconcile := some (item.note ts)})
      else .ok db

def failStale (settings : Settings) (ts : Int) (db : Database) (event : EventRow) : Database :=
  let timeout := settings.reconcileTimeout
  let part := {event.payload.reconcile.getD .empty with checkedAt := some ts
                                                        reason := some s!"no on-chain confirmation after {timeout}s"}
  failPending db event.id {event.payload with reconcile := some part}

-- Chain → DB refresh of a passport with nothing pending, once the chain has recorded a scan or a void.
def refreshPassport (settings : Settings) (db : Database) (entry : PassportRow × Option (List Byte)) : Database :=
  if entry.2.isNone ∨ db.hasPendingEvents entry.1.serial then db
  else
    match decodePassport settings entry.2,db.getPassport entry.1.serial with
    | .ok acct,some row =>
      if acct.scanCount.val = 0 ∧ acct.void = false then db
      else
        let current := decide (acct.scanCount.val ≥ db.onchainScanCount entry.1.serial)
        db.setGrade entry.1.serial (passportFromChain row.grade row.void acct.grade.val acct.void current)
    | _,_ => db

-- Counters only rise, dead seals stay dead.
def refreshSeal (settings : Settings) (db : Database) (entry : SealRow × Option (List Byte)) : Database :=
  if entry.2.isNone ∨ db.hasPendingEvents entry.1.serial then db
  else
    match decodeSeal settings entry.2 with
    | .ok acct =>
      let seals := db.seals.update (·.uidHash = entry.1.uidHash)
        (fun row => {row with lastCounter := max row.lastCounter acct.lastCounter.val
                              dead := row.dead || acct.dead}) (fun _ => rfl)
      {db with seals := seals}
    | .error _ => db

def refreshRegistry (settings : Settings) (ts : Int) (db : Database) (data : Option (List Byte)) : Database :=
  match data,settings.programId with
  | some bytes,some program =>
    match decodeRegistry settings (some bytes) with
    | .ok registry => {db.syncRegistryPartners registry.partners ts with registry := some ⟨program,registry,ts⟩}
    | .error _ => db
  | _,_ => db

def applyOrders (settings : Settings) (ts : Int) : Database → List (Pubkey × List Byte) → Except SqlError Database
  | db, [] => .ok db
  | db, (orderPda,data) :: rest =>
    match decodeOrder settings (some data) with
    | .error _ => applyOrders settings ts db rest
    | .ok order => do
      let stored ← db.upsertEscrowOrder orderPda order ts
      applyOrders settings ts stored rest

def refreshOrders (settings : Settings) (ts : Int) (db : Database) (orders : Option (List (Pubkey × List Byte))) :
    Except SqlError Database :=
  match orders with
  | none => .ok db
  | some found => do
    let stored ← applyOrders settings ts db found
    stored.syncEscrowCounters none

-- Second half of a cycle: everything in one write transaction.
def reconcileWrite (settings : Settings) (db : Database) (job : ReconcileJob) : Except SqlError Database := do
  let ts := job.ts.val
  let worked ← job.work.foldlM (applyWork settings ts) db
  let failed := (worked.stalePendingEvents (ts-settings.reconcileTimeout)).foldl (failStale settings ts) worked
  let graded := job.passports.foldl (refreshPassport settings) failed
  let counted := job.seals.foldl (refreshSeal settings) graded
  refreshOrders settings ts (refreshRegistry settings ts counted job.registry) job.orders

end FlaconVault.Verifier
