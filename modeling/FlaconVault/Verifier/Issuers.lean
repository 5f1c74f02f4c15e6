import FlaconVault.Flacon.Counting
import FlaconVault.Verifier.Actors
import FlaconVault.Verifier.ScanViews
namespace FlaconVault.Verifier
open Guards

-- The issuers of the passports: only a new MINT writes one, and nothing else adds a MINT.
def Database.issuers (db : Database) : List (String × Option Pubkey) := db.passports.rows.map fun row => (row.serial,row.issuer)

structure Unminted (db later : Database) : Prop where
  issuers : later.issuers = db.issuers
  next : later.events.next = db.events.next

namespace Unminted
variable {db later : Database}

theorem refl (db : Database) : Unminted db db := ⟨rfl,rfl⟩

theorem trans {middle : Database} (first : Unminted db middle) (second : Unminted middle later) : Unminted db later :=
  ⟨second.issuers.trans first.issuers,second.next.trans first.next⟩

theorem of_same (passports : later.passports = db.passports) (next : later.events.next = db.events.next) : Unminted db later := by
  refine ⟨?_,next⟩
  unfold Database.issuers
  rw [passports]

theorem after {middle : Database} (rest : Unminted middle later) (passports : middle.passports = db.passports)
    (next : middle.events.next = db.events.next) : Unminted db later := (of_same passports next).trans rest

theorem foldl {α : Type} {step : Database → α → Database} (each : ∀ db value, Unminted db (step db value)) (values : List α)
    (db : Database) : Unminted db (values.foldl step db) := by
  induction values generalizing db with
  | nil => exact refl db
  | cons first rest ih => exact (each db first).trans (ih (step db first))

theorem setGrade (db : Database) (serial : String) (graded : ℕ × Bool) : Unminted db (db.setGrade serial graded) := by
  refine ⟨?_,rfl⟩
  unfold Database.issuers Database.setGrade Table.update
  rw [List.map_map]
  refine List.map_congr_left ?_
  intro row _
  dsimp only [Function.comp_apply]
  split
  · rfl
  · rfl

theorem setPassportGrade (db : Database) (serial : String) (grade : ℕ) (latest : Bool) :
    Unminted db (db.setPassportGrade serial grade latest) := by
  unfold Database.setPassportGrade
  split
  · exact refl db
  · exact setGrade db serial _

theorem applyConfirmedScan (db : Database) (event : EventRow) (attester : Option Pubkey) (ts : Int) (chain : Option ChainValues) :
    Unminted db (db.applyConfirmedScan event attester ts chain) := by
  unfold Database.applyConfirmedScan
  dsimp only
  split
  · exact of_same rfl rfl
  · rename_i scan _
    generalize stored_is : (({db with applied := db.applied ++ [event.id]} : Database).updateEventPayload event.id
      (event.payload.setScan (scan.attested (confirmedAttestation scan attester chain)))).setActorLabel event.id attester = stored
    have before : Unminted db stored := stored_is ▸ of_same rfl rfl
    refine before.trans ((setPassportGrade stored event.serial scan.grade (!stored.newerConfirmedScanExists event)).trans ?_)
    generalize stored.setPassportGrade event.serial scan.grade (!stored.newerConfirmedScanExists event) = graded
    obtain ⟨attesters,credited⟩ := Database.creditAttester_only (graded.replaceSighting event scan) event scan
      ((scan.attested (confirmedAttestation scan attester chain)).tier.getD 0) attester ts
    rw [credited]
    obtain ⟨events,dropped⟩ := Database.replaceSighting_only graded event scan
    refine of_same ?_ (Database.replaceSighting_next graded event scan)
    show (graded.replaceSighting event scan).passports = graded.passports
    rw [dropped]

theorem applySealDead (db : Database) (serial : String) (sealUidHash : Option Bytes32) :
    Unminted db (Verifier.applySealDead db serial sealUidHash) := by
  unfold Verifier.applySealDead
  cases sealUidHash with
  | none => exact setGrade db serial _
  | some hash =>
    have marked : Unminted db (db.markSealDead hash) := of_same rfl rfl
    exact marked.trans (setGrade (db.markSealDead hash) serial _)

theorem upsertSeal {uidHash : Bytes32} {uid : Uid} {serial : String} {kind : ℕ} {attachedAt : Int}
    (accepted : db.upsertSeal uidHash uid serial kind attachedAt = .ok later) : Unminted db later := by
  unfold Database.upsertSeal at accepted
  dsimp only at accepted
  split at accepted
  · split at accepted
    · cases accepted
    · cases accepted
      exact of_same rfl rfl
  · cases accepted
    exact of_same rfl rfl

theorem upsertAttesters {α : Type} (known : Database) (values : List α) (key : α → Pubkey) (seen : α → Int) :
    Unminted known (values.foldl (fun known value => known.upsertAttester (key value) (seen value)) known) :=
  @foldl α (fun known value => known.upsertAttester (key value) (seen value)) (fun _ _ => of_same rfl rfl) values known

theorem putOrder {row : OrderRow} {merge : OrderRow → OrderRow}
    {keeps : ∀ old, ((merge old).orderPda,(merge old).listedAt) = (old.orderPda,old.listedAt)}
    (accepted : db.putOrder row merge keeps = .ok later) : Unminted db later := by
  unfold Database.putOrder at accepted
  obtain ⟨_,_,accepted⟩ := bind_ok.mp accepted
  obtain ⟨_,_,accepted⟩ := bind_ok.mp accepted
  split at accepted
  · cases pure_ok.mp accepted
    exact of_same rfl rfl
  · cases pure_ok.mp accepted
    exact of_same rfl rfl

theorem syncEscrowCounters {only : Option (List Pubkey)} (accepted : db.syncEscrowCounters only = .ok later) : Unminted db later := by
  unfold Database.syncEscrowCounters at accepted
  obtain ⟨_,_,accepted⟩ := bind_ok.mp accepted
  cases pure_ok.mp accepted
  exact (upsertAttesters db db.participants (·.1) _).trans (of_same rfl rfl)

theorem recordOutcome {job : EventJob} (accepted : Verifier.recordOutcome db job = .ok later) : Unminted db later := by
  unfold Verifier.recordOutcome at accepted
  split at accepted
  · cases accepted
    exact refl db
  · unfold Database.recordEscrowOutcome at accepted
    dsimp only at accepted
    split at accepted
    · obtain ⟨stored,put,synced⟩ := bind_ok.mp accepted
      exact (putOrder put).trans (syncEscrowCounters synced)
    · split at accepted
      · exact (syncEscrowCounters accepted).after rfl rfl
      · obtain ⟨stored,put,synced⟩ := bind_ok.mp accepted
        exact (putOrder put).trans (syncEscrowCounters synced)
      · cases pure_ok.mp accepted
        exact refl db

theorem upsertEscrowOrder {orderPda : Pubkey} {order : ChainOrder} {ts : Int}
    (accepted : db.upsertEscrowOrder orderPda order ts = .ok later) : Unminted db later := by
  unfold Database.upsertEscrowOrder at accepted
  dsimp only at accepted
  refine Unminted.trans ?_ (putOrder accepted)
  cases Database.oldestListing (db.escrowOrders.rows.filter (Database.placeholder orderPda order.listedAt.val)) with
  | some row => exact of_same rfl rfl
  | none => exact refl db

theorem applyOrders {settings : Settings} {ts : Int} {found : List (Pubkey × List Byte)}
    (accepted : Verifier.applyOrders settings ts db found = .ok later) : Unminted db later := by
  induction found generalizing db with
  | nil =>
    cases accepted
    exact refl _
  | cons first rest ih =>
    unfold Verifier.applyOrders at accepted
    split at accepted
    · exact ih accepted
    · obtain ⟨stored,put,accepted⟩ := bind_ok.mp accepted
      exact (upsertEscrowOrder put).trans (ih accepted)

theorem refreshOrders {settings : Settings} {ts : Int} {orders : Option (List (Pubkey × List Byte))}
    (accepted : Verifier.refreshOrders settings ts db orders = .ok later) : Unminted db later := by
  unfold Verifier.refreshOrders at accepted
  split at accepted
  · cases accepted
    exact refl db
  · obtain ⟨stored,put,accepted⟩ := bind_ok.mp accepted
    exact (applyOrders put).trans (syncEscrowCounters accepted)

theorem refreshPassport (settings : Settings) (db : Database) (entry : PassportRow × Option (List Byte)) :
    Unminted db (Verifier.refreshPassport settings db entry) := by
  unfold Verifier.refreshPassport
  split
  · exact refl db
  · split
    · split
      · exact refl db
      · exact setGrade db _ _
    · exact refl db

theorem refreshSeal (settings : Settings) (db : Database) (entry : SealRow × Option (List Byte)) :
    Unminted db (Verifier.refreshSeal settings db entry) := by
  unfold Verifier.refreshSeal
  split
  · exact refl db
  · split
    · exact of_same rfl rfl
    · exact refl db

theorem refreshRegistry (settings : Settings) (ts : Int) (db : Database) (data : Option (List Byte)) :
    Unminted db (Verifier.refreshRegistry settings ts db data) := by
  unfold Verifier.refreshRegistry
  split
  · split
    · rename_i registry _
      exact (upsertAttesters db registry.partners id fun _ => ts).trans (of_same rfl rfl)
    · exact refl db
  · exact refl db

theorem confirmWrite {settings : Settings} {job : ConfirmJob} {now : I64} {row : EventRow}
    (accepted : Verifier.confirmWrite settings db job now = .ok (later,row)) : Unminted db later := by
  obtain ⟨current,_,outcome⟩ := confirmWrite_parts accepted
  cases outcome with
  | filled => exact of_same rfl rfl
  | kept => exact refl db
  | repaired => exact of_same rfl rfl
  | posted =>
    unfold ConfirmJob.effects
    split
    · exact (applyConfirmedScan _ _ _ _ _).after rfl rfl
    · split
      · have posted : Unminted db (db.updateEvent job.eventId job.posted job.posted_id) := of_same rfl rfl
        exact (posted.trans (applySealDead _ current.serial _)).trans (of_same rfl rfl)
      · exact of_same rfl rfl

theorem applyWork {settings : Settings} {ts : Int} {item : WorkItem} (accepted : Verifier.applyWork settings ts db item = .ok later) :
    Unminted db later := by
  unfold Verifier.applyWork at accepted
  split at accepted
  · cases accepted
    exact refl db
  · rename_i current matched
    obtain ⟨found,_⟩ := Option.filter_eq_some_iff.mp matched
    split at accepted
    · obtain ⟨_,_,same⟩ := confirmScan_parts found accepted
      rw [same]
      exact (applyConfirmedScan _ _ _ _ _).after rfl rfl
    · rcases branch accepted with failed | pending
      · cases failed.2
        exact refl db
      · rcases branch pending.2 with late | early
        · cases late.2
          exact of_same rfl rfl
        · rcases branch early.2 with ignored | quiet
          · cases ignored.2
            exact of_same rfl rfl
          · cases quiet.2
            exact refl db

theorem work {settings : Settings} {ts : Int} {items : List WorkItem}
    (accepted : items.foldlM (Verifier.applyWork settings ts) db = .ok later) : Unminted db later := by
  induction items generalizing db with
  | nil => exact pure_ok.mp accepted ▸ refl db
  | cons item rest ih =>
    rw [List.foldlM_cons] at accepted
    obtain ⟨middle,first,accepted⟩ := bind_ok.mp accepted
    exact (applyWork first).trans (ih accepted)

theorem reconcileWrite {settings : Settings} {job : ReconcileJob} (accepted : Verifier.reconcileWrite settings db job = .ok later) :
    Unminted db later := by
  cases works : job.work.foldlM (Verifier.applyWork settings job.ts.val) db with
  | error error =>
    unfold Verifier.reconcileWrite at accepted
    dsimp only at accepted
    rw [works,error_bind] at accepted
    cases accepted
  | ok worked =>
    rw [reconcileWrite_worked works] at accepted
    refine (work works).trans (Unminted.trans ?_ (refreshOrders accepted))
    refine (@foldl EventRow (failStale settings job.ts.val) (fun _ _ => of_same rfl rfl) (worked.stalePendingEvents (job.ts.val-settings.reconcileTimeout)) worked).trans ?_
    refine (foldl (refreshPassport settings) job.passports _).trans ?_
    exact (foldl (refreshSeal settings) job.seals _).trans (refreshRegistry settings job.ts.val _ job.registry)

end Unminted

theorem issuers_update (db : Database) (chosen : PassportRow → Bool) (change : PassportRow → PassportRow)
    (keeps : ∀ row, (change row).serial = row.serial) :
    (Database.issuers {db with passports := db.passports.update chosen change keeps}).map (·.1) = db.issuers.map (·.1) := by
  unfold Database.issuers Table.update
  simp only [List.map_map]
  refine List.map_congr_left ?_
  intro row _
  dsimp only [Function.comp_apply]
  split
  · exact keeps row
  · rfl

theorem upsertPassport_issuers {db later : Database} {row : PassportRow} {key : Pubkey} (issuer : row.issuer = some key)
    (accepted : db.upsertPassport row = .ok later) :
    (∀ entry ∈ later.issuers, entry ∈ db.issuers ∨ entry = (row.serial,some key)) ∧
      ∀ serial, serial ∈ db.issuers.map (·.1) ∨ serial = row.serial → serial ∈ later.issuers.map (·.1) := by
  unfold Database.upsertPassport at accepted
  split at accepted
  · rename_i passports inserted
    rcases branch accepted with taken | free
    · cases taken.2
    · cases free.2
      have grown : Database.issuers {db with passports := passports} = db.issuers ++ [(row.serial,some key)] := by
        unfold Database.issuers
        rw [(Table.insert_some.mp inserted).2,List.map_append,← issuer]
        rfl
      rw [grown]
      constructor
      · intro entry inside
        rwa [List.mem_append,List.mem_singleton] at inside
      · intro serial known
        rw [List.map_append,List.mem_append]
        exact known.imp_right fun same => by simp [same]
  · rename_i taken
    cases accepted
    constructor
    · intro entry inside
      obtain ⟨changed,present,named⟩ := List.mem_map.mp inside
      obtain ⟨old,there,becomes⟩ := List.mem_map.mp present
      rw [← named,← becomes]
      split
      · rename_i here
        have here : old.serial = row.serial := by simpa using here
        exact .inr (by simp [here,issuer])
      · exact .inl (List.mem_map.mpr ⟨old,there,rfl⟩)
    · intro serial known
      rw [issuers_update]
      rcases known with known | same
      · exact known
      · have there : (db.passports.get row.serial).isSome := by
          cases found : db.passports.get row.serial with
          | some old => rfl
          | none => simp [Table.insert,found] at taken
        obtain ⟨old,found⟩ := Option.isSome_iff_exists.mp there
        obtain ⟨present,named⟩ := Table.get_some.mp found
        exact List.mem_map.mpr ⟨_,List.mem_map.mpr ⟨old,present,rfl⟩,named.trans same.symm⟩

theorem mintPassport_issuers {settings : Settings} {db later : Database} {job : EventJob} {label brand name batch : Option String}
    {asset : Option Pubkey} {bindingHash : Option Bytes32} {facts : Facts}
    (accepted : mintPassport settings db job label brand name batch asset bindingHash = .ok (later,facts)) :
    (∀ entry ∈ later.issuers, entry ∈ db.issuers ∨ entry = (job.serial,some job.actor)) ∧
      ∀ serial, serial ∈ db.issuers.map (·.1) ∨ serial = job.serial → serial ∈ later.issuers.map (·.1) := by
  unfold mintPassport at accepted
  obtain ⟨_,_,accepted⟩ := bind_ok.mp accepted
  obtain ⟨minted,stored,accepted⟩ := bind_ok.mp accepted
  obtain ⟨_,_,accepted⟩ := bind_ok.mp accepted
  obtain ⟨rfl,_⟩ := Prod.mk.inj (pure_ok.mp accepted)
  exact upsertPassport_issuers rfl (sql_ok.mp stored)

-- A new event of another type mints nothing.
theorem Prepared.unminted {settings : Settings} {db later : Database} {job : EventJob} {sealUidHash : Option Bytes32} {facts : Facts}
    (prepares : Prepared settings db job later sealUidHash facts) (other : job.type ≠ .mint) : Unminted db later := by
  cases prepares with
  | minted label brand name batch asset bindingHash _ _ mint => exact absurd mint other
  | attached hash uid kind _ _ own wrote => exact .upsertSeal wrote
  | dead => exact .applySealDead db job.serial sealUidHash
  | recorded _ _ wrote => exact .recordOutcome wrote
  | plain => exact .refl db

-- The wallet that minted a passport, as the passport's account says; the account keeps it.
def OnChainIssuer (cluster : FlaconVault.Run) (passport issuer : Pubkey) : Prop :=
  ∃ n found, (cluster.ledger n).flacon.passports passport = some found ∧ found.issuer = issuer

theorem OnChainIssuer.unique {cluster : FlaconVault.Run} {passport issuer other : Pubkey} (issues : OnChainIssuer cluster passport issuer)
    (again : OnChainIssuer cluster passport other) : issuer = other := by
  obtain ⟨n,found,there,named⟩ := issues
  obtain ⟨m,found',there',named'⟩ := again
  have later {i j : ℕ} {old new : Passport} (ordered : i ≤ j) (known : (cluster.ledger i).flacon.passports passport = some old)
      (known' : (cluster.ledger j).flacon.passports passport = some new) : new.issuer = old.issuer := by
    obtain ⟨kept,still,birth⟩ := (Flacon.grows_at ordered).passports passport old known
    have same : kept = new := Option.some.inj (still.symm.trans known')
    obtain ⟨_,_,_,issuer,_⟩ := birth
    exact same ▸ issuer
  rcases Nat.le_total n m with before | after
  · exact named.symm.trans ((later before there there').symm.trans named')
  · exact named.symm.trans ((later after there' there).trans named')

-- The accounts of a `mint_passport` instruction, in the program's order.
def mintAccounts : List Pubkey → Option Flacon.MintPassport
  | registryKey :: passport :: issuer :: _ :: coreAsset :: _ => some ⟨registryKey,passport,issuer,coreAsset⟩
  | _ => none

def Minted (cluster : FlaconVault.Run) (a : Flacon.MintPassport) : Prop :=
  ∃ n serialHash bindingHash asset, (cluster.schedule n).call = .flacon (.mintPassport a serialHash bindingHash asset) ∧
    process (cluster.schedule n) (cluster.ledger n) = .ok (cluster.ledger (n+1))

theorem mint_address {s after : Ledger} {a : Flacon.MintPassport} {serialHash bindingHash : Bytes32} {asset : Pubkey} {now : I64}
    (accepted : Flacon.handleMintPassport s a serialHash bindingHash asset now = .ok after) : a.passport = .passport serialHash := by
  unfold Flacon.handleMintPassport at accepted
  obtain ⟨_,_,accepted⟩ := bind_ok.mp accepted
  obtain ⟨_,_,accepted⟩ := bind_ok.mp accepted
  obtain ⟨_,here,_⟩ := bind_ok.mp accepted
  exact require_ok.mp here

theorem Minted.issues {cluster : FlaconVault.Run} {a : Flacon.MintPassport} (minted : Minted cluster a) :
    OnChainIssuer cluster a.passport a.issuer := by
  obtain ⟨n,serialHash,bindingHash,asset,called,accepted⟩ := minted
  unfold process at accepted
  rw [called] at accepted
  have here := mint_address accepted
  obtain ⟨_,_,_,_,_,_,after⟩ := Flacon.mint_parts accepted
  refine ⟨n+1,⟨serialHash,bindingHash,asset,a.issuer,.a,0,0,false,(cluster.schedule n).now⟩,?_,rfl⟩
  rw [after,here]
  exact Cells.put_self _ _ _

-- What the cluster promises a verifier: the mint_passport of a transaction that succeeded is one the program executed.
structure MintsRead (settings : Settings) (run : Run) where
  cluster : FlaconVault.Run
  executed : ∀ m serial reads exp res ix, Asks settings (run.db settings m) (run.actions m) .mint serial reads exp →
    reads.transaction = .ok res → res.err = none → ix ∈ (parseTransaction res).instructions →
      ix.named exp = some .mintPassport → ∃ a, mintAccounts ix.accounts = some a ∧ Minted cluster a

-- Before step `m` no wallet but the signer of its instruction could pass for the actor of an event other than a scan.
def Run.Alone (settings : Settings) (run : Run) (m : ℕ) : Prop :=
  ∀ type serial reads exp res, Asks settings (run.db settings m) (run.actions m) type serial reads exp → type ≠ .scan →
    reads.transaction = .ok res → coSigners settings exp reads (parseTransaction res) = []

theorem expectation_mint {settings : Settings} {db : Database} {serial : String} {sealUidHash : Option Bytes32} {exp : Expectation}
    (expected : expectation settings db .mint serial sealUidHash none = .ok exp) :
    exp.instructions = [.mintPassport] ∧ exp.passport = .passport (settings.serialHash serial) := by
  unfold expectation at expected
  obtain ⟨_,_,expected⟩ := bind_ok.mp expected
  cases pure_ok.mp expected
  exact ⟨rfl,rfl⟩

-- Who mints is the issuer.
theorem mint_actor {settings : Settings} {run : Run} (chain : MintsRead settings run) {m : ℕ} (alone : run.Alone settings m)
    {job : EventJob} (begun : Begun settings (run.db settings m) (run.actions m) (.event job)) (mint : job.type = .mint) :
    OnChainIssuer chain.cluster (.passport (settings.serialHash job.serial)) job.actor := by
  generalize action_is : run.actions m = action at begun
  cases begun with
  | event body reads now _ read =>
    have parts := eventRead_parts read
    obtain ⟨exp,expected,verified⟩ := parts.verified
    rw [mint] at expected
    obtain ⟨instructions,passport⟩ := expectation_mint expected
    have asks : Asks settings (run.db settings m) (run.actions m) .mint job.serial reads exp := by
      rw [action_is]
      exact .event body reads now .mint job.serial job.sealUidHash exp (mint ▸ parts.type) parts.serial expected
    obtain ⟨res,told,signs,found⟩ := verified_parts verified
    have signer := verified_signer told (alone .mint job.serial reads exp res asks nofun told) verified
    obtain ⟨ix,inside,name,chosen,succeeded,_,same⟩ := findInstruction_found found
    obtain ⟨named,placed,_,_⟩ := candidate_some chosen
    obtain ⟨_,allowed,_⟩ := named_some named
    have minting : name = .mintPassport := by
      rw [instructions] at allowed
      exact List.mem_singleton.mp allowed
    subst minting
    obtain ⟨a,accounts,minted⟩ := chain.executed m job.serial reads exp res ix asks told succeeded inside named
    have here : ix.accounts[1]? = some exp.passport := (positions_ok placed).1 1 rfl
    have its_name : job.vt.name = .mintPassport := congrArg VerifiedTx.name same
    have its_accounts : job.vt.ixAccounts = ix.accounts := congrArg VerifiedTx.ixAccounts same
    unfold VerifiedTx.account at signer
    rw [its_name,its_accounts] at signer
    unfold mintAccounts at accounts
    split at accounts
    · rename_i registryKey key issuer system coreAsset others listed
      cases accounts
      rw [listed] at here signer
      have key_is : key = exp.passport := Option.some.inj here
      have issuer_is : issuer = job.actor := Option.some.inj signer
      rw [← passport,← key_is,← issuer_is]
      exact minted.issues
    · cases accounts

-- The issuers the verifier keeps are those on the chain, and every MINT has one.
structure IssuedOnChain (settings : Settings) (cluster : FlaconVault.Run) (db : Database) : Prop where
  issuers : ∀ entry ∈ db.issuers, ∃ key, entry.2 = some key ∧ OnChainIssuer cluster (.passport (settings.serialHash entry.1)) key
  mints : ∀ id row, db.getEvent id = some row → row.type = .mint → row.serial ∈ db.issuers.map (·.1)

namespace IssuedOnChain
variable {settings : Settings} {cluster : FlaconVault.Run} {db later : Database}

theorem unminted (issued : IssuedOnChain settings cluster db) (kept : Kept db later) (same : Unminted db later) :
    IssuedOnChain settings cluster later := by
  constructor
  · intro entry inside
    rw [same.issuers] at inside
    exact issued.issuers entry inside
  · intro id row found mint
    rw [same.issuers]
    obtain ⟨old,there,follows⟩ := kept.rows id row (same.next ▸ Database.getEvent_below found) found
    rw [follows.serial]
    exact issued.mints id old there (follows.type ▸ mint)

-- A step outside the jobs stores no MINT.
theorem grows (issued : IssuedOnChain settings cluster db) (grows : Verifier.Grows db later) : IssuedOnChain settings cluster later := by
  cases grows with
  | same rest => exact issued.unminted (.of_events rest.events) (.of_same rest.passports (congrArg _ rest.events))
  | row known make named before after shape unbacked =>
    have issuers : later.issuers = db.issuers := by
      have same : later.passports = known.passports := after.passports
      unfold Database.issuers
      rw [same,before.passports]
    constructor
    · intro entry inside
      rw [issuers] at inside
      exact issued.issuers entry inside
    · intro id row found mint
      rw [issuers]
      have found : (known.insertEvent make named).getEvent id = some row := by
        unfold Database.getEvent at found ⊢
        rwa [after.events] at found
      rw [Database.getEvent_insert,before.events] at found
      split at found
      · have row_is := Option.some.inj found
        subst row_is
        cases shape with
        | signed _ kind => cases kind.symm.trans mint
        | sighting _ _ kind => cases kind.symm.trans mint
        | facts facts _ body => exact absurd body (unbacked facts)
        | report _ _ _ kind => cases kind.symm.trans mint
      · unfold Database.getEvent at found
        rw [before.events] at found
        exact issued.mints id row found mint

-- A new MINT stores its issuer with it.
theorem stored (issued : IssuedOnChain settings cluster db) {job : EventJob} {prepared : Database} {label : Option String}
    {passport : PassportRow} {sealUidHash : Option Bytes32} {facts : Facts}
    (prepares : Prepared settings (db.upsertAttester job.actor job.ts) job prepared sealUidHash facts)
    (own : job.type = .mint → OnChainIssuer cluster (.passport (settings.serialHash job.serial)) job.actor) :
    IssuedOnChain settings cluster (prepared.insertEvent (newEvent job label sealUidHash facts passport) fun _ => rfl) := by
  have rows (id : ℕ) (row : EventRow) (found : (prepared.insertEvent (newEvent job label sealUidHash facts passport) fun _ => rfl).getEvent id =
      some row) (mint : row.type = .mint) : row.serial = job.serial ∧ job.type = .mint ∨ row.serial ∈ db.issuers.map (·.1) := by
    rw [Database.getEvent_insert (newEvent job label sealUidHash facts passport) fun _ => rfl] at found
    split at found
    · have row_is := Option.some.inj found
      subst row_is
      exact .inl ⟨rfl,mint⟩
    · unfold Database.getEvent at found
      rw [prepares.events] at found
      exact .inr (issued.mints id row found mint)
  by_cases minting : job.type = .mint
  · cases prepares with
    | minted label' brand name batch asset bindingHash _ _ _ wrote =>
      obtain ⟨entries,serials⟩ := mintPassport_issuers wrote
      constructor
      · intro entry inside
        rcases entries entry inside with old | new
        · exact issued.issuers entry old
        · rw [new]
          exact ⟨job.actor,rfl,own minting⟩
      · intro id row found mint
        rcases rows id row found mint with new | old
        · exact serials row.serial (.inr new.1)
        · exact serials row.serial (.inl old)
    | attached _ _ _ _ type => cases type.symm.trans minting
    | dead _ type => cases type.symm.trans minting
    | recorded _ type =>
      rcases type with type | type
      · cases type.symm.trans minting
      · cases type.symm.trans minting
    | plain other => exact absurd minting other.1
  · have same : prepared.issuers = db.issuers := (prepares.unminted minting).issuers
    constructor
    · intro entry inside
      exact issued.issuers entry (same ▸ inside)
    · intro id row found mint
      rcases rows id row found mint with new | old
      · exact absurd new.2 minting
      · exact same.symm ▸ old

end IssuedOnChain

-- Every run in which the signer of the instruction is the only one who can pass for the actor.
theorem Run.issued {settings : Settings} {run : Run} (chain : MintsRead settings run) {n : ℕ} (alone : ∀ m < n, run.Alone settings m) :
    IssuedOnChain settings chain.cluster (run.db settings n) := by
  induction n with
  | zero =>
    constructor
    · intro entry inside
      cases inside
    · intro id row found
      cases found
  | succ n ih =>
    have issued := ih fun m below => alone m (below.trans n.lt_succ_self)
    rcases changes_grows (run.changes settings n) with finished | grows
    · obtain ⟨index,now,job,action,there,_⟩ := finished
      have started := List.mem_of_getElem? there
      have kept := run.kept settings n.le_succ
      obtain ⟨rest,later⟩ := finish_db action there
      rw [later] at kept ⊢
      cases run.knows settings n job started with
      | event job knows =>
        rcases answered_cases ⟨run.db settings n,rest⟩ (eventWrite settings (run.db settings n) job) .event with refused | accepted
        · obtain ⟨_,_,same⟩ := refused
          exact (congrArg (·.1.db) same).symm ▸ issued
        · obtain ⟨stored,told,passed,same⟩ := accepted
          have same : (Server.finish settings ⟨run.db settings n,rest⟩ (.event job) now).1.db = stored := congrArg (·.1.db) same
          rw [same] at kept ⊢
          cases eventWrite_parts knows passed with
          | known _ _ _ _ unchanged =>
            rcases unchanged with unchanged | unchanged
            · exact unchanged ▸ issued
            · rw [unchanged] at kept ⊢
              exact issued.unminted kept (.of_same rfl rfl)
          | stored label passport sealUidHash facts prepared prepares =>
            refine issued.stored prepares ?_
            intro mint
            obtain ⟨m,before,begun⟩ := origin started
            exact mint_actor chain (alone m (before.trans n.lt_succ_self)) begun mint
          | settled existing _ sealUidHash facts prepared prepares found unsettled type kind =>
            exact (never_settled (run.shapes settings n) (prepares.found found) unsettled (type ▸ kind)).elim
      | confirm job knows =>
        rcases answered_cases ⟨run.db settings n,rest⟩ (confirmWrite settings (run.db settings n) job now) .event with refused | accepted
        · obtain ⟨_,_,same⟩ := refused
          exact (congrArg (·.1.db) same).symm ▸ issued
        · obtain ⟨written,told,passed,same⟩ := accepted
          have same : (Server.finish settings ⟨run.db settings n,rest⟩ (.confirm job) now).1.db = written := congrArg (·.1.db) same
          rw [same] at kept ⊢
          exact issued.unminted kept (.confirmWrite passed)
      | fail eventId txSig knows => exact issued.unminted kept (.of_same rfl rfl)
      | reconcile job knows =>
        cases passed : reconcileWrite settings (run.db settings n) job with
        | error error =>
          have same : (Server.finish settings ⟨run.db settings n,rest⟩ (.reconcile job) now).1.db = run.db settings n := by
            simp only [Server.finish,passed]
          exact same.symm ▸ issued
        | ok written =>
          have same : (Server.finish settings ⟨run.db settings n,rest⟩ (.reconcile job) now).1.db = written := by
            simp only [Server.finish,passed]
          rw [same] at kept ⊢
          exact issued.unminted kept (.reconcileWrite passed)
    · exact issued.grows grows

end FlaconVault.Verifier
