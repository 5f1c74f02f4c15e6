import FlaconVault.Verifier.Credits
import FlaconVault.Verifier.Recompute
namespace FlaconVault.Verifier

-- The demo data of a deployment and POST /api/admin/purge-seed, which takes it out again. What purge-seed does to seals,
-- virtual tags is left out: it reads none of it.
structure SeedEvent where
  serial : String
  type : EventType
  ts : Int
  txSig : Option Signature
  counter : Option ℕ
  sighting : Bool
  deriving DecidableEq

-- An attester as the seed file has it; what it leaves out counts as nothing.
structure SeedAttester where
  pubkey : Pubkey
  label : Option String
  scanCount : ℕ
  certifiedCount : ℕ
  agreeCount : ℕ
  compareCount : ℕ
  escrowsOk : ℕ
  escrowsDisputed : ℕ
  deriving DecidableEq

-- The seed file as load_seed_index reads it, and the session nonces of its scans.
structure SeedFile where
  serials : List String
  events : List SeedEvent
  attesters : Table SeedAttester.pubkey
  seedNonce : String → ℕ → Bytes32

-- The keys of a stored payload that the seed and purge-seed write, and the one a seeded sighting lacks.
structure SeedMark where
  eventId : ℕ
  seed : Bool
  seedKept : Bool
  fromChain : Bool
  tapless : Bool
  deriving DecidableEq

-- What the RPC node answers to one run: which transactions it knows, the accounts, the transaction that created a passport.
structure ClusterReads where
  known : Signature → Bool
  passports : String → Option PassportFacts
  partners : Option (List Pubkey)
  mintSignature : String → Option Signature

structure Plan where
  delete : List ℕ
  keep : List ℕ
  partners : Option (List Pubkey)
  passports : String → Option PassportFacts
  mintFromChain : List (String × PassportFacts × Option Signature)

structure SeedWorld where
  db : Database
  marks : Table SeedMark.eventId
  plans : List Plan

def SeedMark.asKept (id : ℕ) (mark : SeedMark) : SeedMark :=
  {mark with eventId := id
             seedKept := true}

def markOf (marks : Table SeedMark.eventId) (id : ℕ) : SeedMark := (marks.get id).getD ⟨id,false,false,false,false⟩

namespace SeedWorld
variable (file : SeedFile) (world : SeedWorld)

-- payload.seed.
def seeded (id : ℕ) : Bool := (markOf world.marks id).seed
def kept (id : ℕ) : Bool := (markOf world.marks id).seedKept

-- "tapId" in payload.
def hasTapId (row : EventRow) : Bool :=
  match row.payload.body with
  | .sighting _ _ => !(markOf world.marks row.id).tapless
  | _ => false

-- A scan the seed signed: flagged, or with the session nonce the seed derives.
def seedSigned (row : EventRow) : Bool :=
  row.type == .scan && row.payload.signedScan.any fun scan =>
    world.seeded row.id || scan.bundle.nonce == file.seedNonce row.serial scan.bundle.counter

def fits (row : EventRow) (event : SeedEvent) : Bool :=
  event.serial == row.serial && event.type == row.type && event.ts == row.ts &&
    ((event.txSig.filter (· ≠ "")).isNone || event.txSig == row.txSig) &&
    !(event.sighting && (row.payload.counter != event.counter || world.hasTapId row || row.txSig.isSome))

-- Each seed event matches the first row it fits, and no other.
def matchSeedEvents : List EventRow → List SeedEvent → List ℕ
  | [],_ => []
  | row :: rows,pool =>
    if pool.any (world.fits row) then row.id :: matchSeedEvents rows (pool.eraseP (world.fits row)) else matchSeedEvents rows pool

-- The rows purge-seed has to classify; a MINT it rebuilt itself is never one.
def seedCandidates : List EventRow :=
  let rows := world.db.events.rows.filter fun row => !(markOf world.marks row.id).fromChain
  let matched := world.matchSeedEvents (rows.filter fun row => file.serials.contains row.serial) file.events
  rows.filter fun row => matched.contains row.id || world.seedSigned file row || world.seeded row.id

-- Kept is what has a transaction the cluster knows, unless the seed signed it.
def keeps (reads : ClusterReads) (row : EventRow) : Bool :=
  !world.seedSigned file row && (row.txSig.filter (· ≠ "")).any reads.known

-- The on-chain passports no MINT of which is left.
def missingMints (reads : ClusterReads) (deleted : List ℕ) : List (String × PassportFacts × Option Signature) :=
  file.serials.filterMap fun serial =>
    let left := world.db.events.rows.any fun row => row.serial == serial && row.type == .mint && !deleted.contains row.id
    if (world.db.passports.get serial).isSome ∧ left = false then
      (reads.passports serial).map fun chain => (serial,chain,reads.mintSignature serial)
    else none

def plan (reads : ClusterReads) : Plan :=
  let candidates := world.seedCandidates file
  let delete := (candidates.filter fun row => !world.keeps file reads row).map (·.id)
  let keep := (candidates.filter (world.keeps file reads)).map (·.id)
  ⟨delete,keep,reads.partners,reads.passports,world.missingMints file reads delete⟩

end SeedWorld

-- What one run reports of the rows and the attesters.
structure PurgeReport where
  events : ℕ
  kept : ℕ
  deleted : List Pubkey
  cleaned : List Pubkey

-- The loop over the attesters of the seed: the database, and whom it has deleted and cleaned so far.
structure Cleaning where
  db : Database
  deleted : List Pubkey
  cleaned : List Pubkey

namespace SeedAttester

def inOrders (db : Database) (pubkey : Pubkey) : Bool :=
  db.escrowOrders.rows.any fun row => row.seller == pubkey || row.buyer == some pubkey

-- The seeded counters come off the row, never below zero.
def strip (attester : SeedAttester) (isPartner : Bool) (row : AttesterRow) : AttesterRow :=
  {row with scanCount := row.scanCount-attester.scanCount
            certifiedCount := row.certifiedCount-attester.certifiedCount
            agreeCount := row.agreeCount-attester.agreeCount
            compareCount := row.compareCount-attester.compareCount
            escrowsOk := row.escrowsOk-attester.escrowsOk
            escrowsDisputed := row.escrowsDisputed-attester.escrowsDisputed
            isPartner := isPartner
            label := if row.label = attester.label then none else row.label}

-- A wallet without events, partnership and orders goes; with rows to delete, any other loses what the seed gave it.
def clean (purges : Bool) (partners : Option (List Pubkey)) (done : Cleaning) (attester : SeedAttester) : Cleaning :=
  let pubkey := attester.pubkey
  let acts := done.db.events.rows.any (·.actor == some pubkey)
  let isPartner := partners.any (·.contains pubkey)
  if (done.db.getAttester pubkey).isNone then done
  else if !acts && !isPartner && !inOrders done.db pubkey then
    {done with db := {done.db with attesters := done.db.attesters.delete (·.pubkey == pubkey)}
               deleted := done.deleted ++ [pubkey]}
  else if purges then
    {done with db := done.db.updateAttester pubkey (attester.strip isPartner) (fun _ => rfl)
               cleaned := done.cleaned ++ [pubkey]}
  else done

end SeedAttester

-- A passport of the seed without rows and without an account goes; one that lost rows gets its grade anew, and the issuer
-- of the chain in place of one of the seed.
def SeedFile.tidyPassport (file : SeedFile) (chainPassports : String → Option PassportFacts) (touched : List String) (db : Database)
    (serial : String) : Database :=
  match db.passports.get serial with
  | none => db
  | some passport =>
    let chain := chainPassports serial
    if !db.events.rows.any (·.serial == serial) && chain.isNone then
      {db with passports := db.passports.delete (·.serial == serial)}
    else if touched.contains serial then
      let graded := (db.recomputePassport serial chain).1
      match chain.filter fun acct => passport.issuer.any (fun issuer => (file.attesters.get issuer).isSome && issuer != acct.issuer) with
      | none => graded
      | some acct =>
        let label := (graded.getAttester acct.issuer).bind (·.label)
        let passports := graded.passports.update (·.serial = serial) (fun row => {row with issuer := some acct.issuer
                                                                                           issuerLabel := label}) (fun _ => rfl)
        {graded with passports := passports}
    else db

namespace SeedWorld
variable (settings : Settings) (file : SeedFile) (world : SeedWorld)

-- The planned rows that are still there.
def still (plan : Plan) : List ℕ := plan.delete.filter fun id => (world.db.getEvent id).isSome

def deleteRows (ids : List ℕ) : Database := {world.db with events := world.db.events.delete fun row => ids.contains row.id}

-- Kept rows are marked.
def markKept (marks : Table SeedMark.eventId) (id : ℕ) : Table SeedMark.eventId :=
  if (world.db.getEvent id).isSome then marks.put ((markOf marks id).asKept id) else marks

-- The MINT of an on-chain passport, from chain facts and the names of the passport row.
def rebuildMint (ts : Int) (world : SeedWorld) (item : String × PassportFacts × Option Signature) : SeedWorld :=
  let serial := item.1
  let chain := item.2.1
  let exists_one := world.db.events.rows.any fun row => row.serial == serial && row.type == .mint
  match (world.db.passports.get serial).filter fun _ => !exists_one with
  | none => world
  | some passport =>
    let created := if chain.createdAt.val = 0 then ts else chain.createdAt.val
    let asset := if chain.asset = settings.keyOf (hashOf []) then none else some chain.asset
    let known := world.db.upsertAttester chain.issuer created
    let label := (known.getAttester chain.issuer).bind (·.label)
    let passports := known.passports.update (·.serial = serial) (fun row => {row with issuer := some chain.issuer
                                                                                      issuerLabel := label
                                                                                      asset := asset <|> row.asset}) (fun _ => rfl)
    let payload : Payload :=
      ⟨.facts (.mint (some passport.brand) (some passport.name) passport.batch asset (some chain.bindingHash)),none⟩
    let make (id : ℕ) : EventRow :=
      ⟨id,serial,.mint,created,some chain.issuer,label,item.2.2,.confirmed,none,payload,
        some (if passport.void then Grade.VOID else passport.grade),none,none,none⟩
    {world with db := Database.insertEvent {known with passports := passports} make (fun _ => rfl)
                marks := world.marks.put ⟨world.db.events.next,false,false,true,false⟩}

def apply (plan : Plan) (ts : Int) : SeedWorld × PurgeReport :=
  let ids := world.still plan
  let touched := (world.db.events.rows.filter (ids.contains ·.id)).map (·.serial)
  let marks := plan.keep.foldl world.markKept world.marks
  let newly := plan.keep.countP fun id => (world.db.getEvent id).isSome && !world.kept id
  let cleaning := file.attesters.rows.foldl (SeedAttester.clean (!ids.isEmpty) plan.partners) ⟨world.deleteRows ids,[],[]⟩
  let tidied := file.serials.foldl (file.tidyPassport plan.passports touched) cleaning.db
  (plan.mintFromChain.foldl (rebuildMint settings ts) ⟨tidied,marks,world.plans⟩,⟨ids.length,newly,cleaning.deleted,cleaning.cleaned⟩)

end SeedWorld

-- A row confirmed for its attester.
def EventRow.confirmedBy (attester : Pubkey) (txSig : Option Signature) (row : EventRow) : EventRow :=
  {row with status := .confirmed
            actor := some attester
            txSig := txSig}

namespace Database

-- The confirmation of a scan, by its attester's post or by a cycle.
def confirmScanRow (db : Database) (id : ℕ) (attester : Pubkey) (txSig : Option Signature) (ts : Int) (chain : Option ChainValues) :
    Database :=
  match (db.getEvent id).filter fun row => row.payload.signedScan.isSome && !row.confirmedScan && row.type == .scan with
  | none => db
  | some row =>
    let known := (db.updateEvent id (EventRow.confirmedBy attester txSig) (fun _ => rfl)).upsertAttester attester ts
    known.applyConfirmedScan (row.confirmedBy attester txSig) (some attester) ts chain

end Database

-- What the requests and cycles between two runs do to the rows and the attesters. A rewrite of a row neither makes nor
-- changes a confirmed scan; a filled row gets a transaction.
inductive Interleaved where
  | logged (row : EventRow)
  | rewritten (id : ℕ) (row : EventRow)
  | filled (id : ℕ) (txSig : Signature)
  | confirmed (id : ℕ) (attester : Pubkey) (txSig : Option Signature) (ts : Int) (chain : Option ChainValues)
  | seen (pubkey : Pubkey) (ts : Int)
  | registered (partners : List Pubkey) (ts : Int)
  | listed (row : OrderRow)
  | outcome (orderPda : Pubkey) (state : ℕ) (blockTime : Option Int) (ts : Int) (order : Option ChainOrder)
      (passport seller buyer : Option Pubkey) (price : Option ℕ)
  | synced

namespace Interleaved

-- A failed transaction of the database leaves it.
def settle (db : Database) : Except SqlError Database → Database
  | .ok later => later
  | .error _ => db

def step (db : Database) : Interleaved → Database
  | .logged row => if row.confirmedScan then db else db.insertEvent (fun id => {row with id := id}) (fun _ => rfl)
  | .rewritten id row =>
    if (db.getEvent id).any (!·.confirmedScan) && !row.confirmedScan then
      db.updateEvent id (fun old => {row with id := old.id}) (fun _ => rfl)
    else db
  | .filled id txSig => db.updateEvent id (fun row => {row with txSig := some txSig}) (fun _ => rfl)
  | .confirmed id attester txSig ts chain => db.confirmScanRow id attester txSig ts chain
  | .seen pubkey ts => db.upsertAttester pubkey ts
  | .registered partners ts => db.syncRegistryPartners partners ts
  | .listed row => settle db (Database.syncEscrowCounters {db with escrowOrders := db.escrowOrders.put row} none)
  | .outcome orderPda state blockTime ts order passport seller buyer price =>
    settle db (db.recordEscrowOutcome orderPda state blockTime ts order passport seller buyer price)
  | .synced => settle db (db.syncEscrowCounters none)

end Interleaved

-- A run reads and plans without the write lock, and applies its plan later or, as a dry run, never.
inductive SeedAction where
  | plan (reads : ClusterReads)
  | apply (index : ℕ) (ts : Int)
  | interleaved (op : Interleaved)

def SeedWorld.step (settings : Settings) (file : SeedFile) (world : SeedWorld) : SeedAction → SeedWorld
  | .plan reads => {world with plans := world.plans ++ [world.plan file reads]}
  | .apply index ts => (world.plans[index]?).elim world fun plan => (world.apply settings file plan ts).1
  | .interleaved op => {world with db := op.step world.db}

-- A database that the demo seed has just filled: every event is flagged, and the attesters have the counters of the file.
structure Seeded where
  file : SeedFile
  db : Database
  marks : Table SeedMark.eventId
  flagged : ∀ row ∈ db.events.rows, (markOf marks row.id).seed = true
  fresh : ∀ mark ∈ marks.rows, mark.eventId < db.events.next ∧ mark.fromChain = false
  credited : ∀ attester ∈ file.attesters.rows, db.scanCredit attester.pubkey = (attester.scanCount,attester.certifiedCount)

structure SeedRun extends Seeded where
  settings : Settings
  actions : ℕ → SeedAction

namespace SeedRun
variable (run : SeedRun)

def world (n : ℕ) : SeedWorld :=
  Runs.reached (fun action world => SeedWorld.step run.settings run.file world action) ⟨run.db,run.marks,[]⟩ run.actions n

end SeedRun
end FlaconVault.Verifier
