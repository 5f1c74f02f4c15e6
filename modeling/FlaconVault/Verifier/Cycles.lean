import FlaconVault.Verifier.Orders
import FlaconVault.Verifier.Settling
import FlaconVault.Verifier.Sightings
namespace FlaconVault.Verifier
open Guards

-- One cycle on whatever the chain answers: which part of its write can be refused, and what it confirms when it commits.

-- The parts of a write that leave the escrow orders alone.
theorem applyConfirmedScan_orders (db : Database) (event : EventRow) (attester : Option Pubkey) (ts : Int) (chain : Option ChainValues) :
    (db.applyConfirmedScan event attester ts chain).escrowOrders = db.escrowOrders := by
  obtain ⟨_,_,_,same,_⟩ := Database.applyConfirmedScan_only db event attester ts chain
  rw [same]

theorem applySealDead_orders (db : Database) (serial : String) (sealUidHash : Option Bytes32) :
    (applySealDead db serial sealUidHash).escrowOrders = db.escrowOrders := by
  unfold applySealDead
  cases sealUidHash <;> rfl

theorem effects_orders (settings : Settings) (job : ConfirmJob) (confirmed : Database) (current event : EventRow) (now : I64) :
    (job.effects settings confirmed current event now).escrowOrders = confirmed.escrowOrders := by
  unfold ConfirmJob.effects
  split
  · exact applyConfirmedScan_orders _ _ _ _ _
  · split
    · exact applySealDead_orders confirmed current.serial (current.sealUidHash <|> sealInTx confirmed current.serial job.vt)
    · rfl

theorem confirmWrite_orders {settings : Settings} {db later : Database} {job : ConfirmJob} {now : I64} {row : EventRow}
    (accepted : confirmWrite settings db job now = .ok (later,row)) : later.escrowOrders = db.escrowOrders := by
  obtain ⟨current,_,outcome⟩ := confirmWrite_parts accepted
  cases outcome with
  | filled | kept | repaired => rfl
  | posted => exact effects_orders _ _ _ _ _ _

theorem upsertPassport_orders {db later : Database} {row : PassportRow} (accepted : db.upsertPassport row = .ok later) :
    later.escrowOrders = db.escrowOrders := by
  unfold Database.upsertPassport at accepted
  split at accepted
  · split at accepted <;> cases accepted
    rfl
  · cases accepted
    rfl

theorem mintPassport_orders {settings : Settings} {db later : Database} {job : EventJob} {label brand name batch : Option String}
    {asset : Option Pubkey} {bindingHash : Option Bytes32} {facts : Facts}
    (accepted : mintPassport settings db job label brand name batch asset bindingHash = .ok (later,facts)) :
    later.escrowOrders = db.escrowOrders := by
  unfold mintPassport at accepted
  obtain ⟨_,_,accepted⟩ := bind_ok.mp accepted
  obtain ⟨minted,stored,accepted⟩ := bind_ok.mp accepted
  obtain ⟨_,_,accepted⟩ := bind_ok.mp accepted
  obtain ⟨rfl,_⟩ := Prod.mk.inj (pure_ok.mp accepted)
  exact upsertPassport_orders (sql_ok.mp stored)

theorem Prepared.dated {settings : Settings} {db later : Database} {job : EventJob} {sealUidHash : Option Bytes32} {facts : Facts}
    (prepares : Prepared settings db job later sealUidHash facts) (dated : db.Dated) : later.Dated := by
  cases prepares with
  | minted label brand name batch asset bindingHash _ _ _ wrote => exact dated.of_same (mintPassport_orders wrote)
  | attached hash uid kind _ _ _ wrote =>
    obtain ⟨seals,same⟩ := upsertSeal_only wrote
    exact dated.of_same (by rw [same])
  | dead => exact dated.of_same (applySealDead_orders _ _ _)
  | recorded _ _ wrote =>
    unfold recordOutcome at wrote
    split at wrote
    · cases wrote
      exact dated
    · exact dated.of_outcome wrote
  | plain => exact dated

theorem eventWrite_dated {settings : Settings} {db later : Database} {job : EventJob} {row : EventRow} (knows : KnowsEvent job)
    (accepted : eventWrite settings db job = .ok (later,row)) (dated : db.Dated) : later.Dated := by
  have start : (db.upsertAttester job.actor job.ts).Dated := dated.of_same rfl
  cases eventWrite_parts knows accepted with
  | known _ _ _ _ same =>
    rcases same with same | same
    · exact same ▸ dated
    · exact same ▸ start
  | stored label passport sealUidHash facts prepared prepares => exact (prepares.dated start).of_same rfl
  | settled existing _ sealUidHash facts prepared prepares => exact (prepares.dated start).of_same rfl

theorem confirmScan_orders {db later : Database} {item : WorkItem} {acct : ScanProof} {ts : Int}
    (accepted : confirmScan db item acct ts = .ok later) : later.escrowOrders = db.escrowOrders := by
  unfold confirmScan at accepted
  dsimp only at accepted
  split at accepted
  · cases accepted
    exact applyConfirmedScan_orders _ _ _ _ _
  · cases accepted

theorem applyWork_orders {settings : Settings} {ts : Int} {db later : Database} {item : WorkItem}
    (accepted : applyWork settings ts db item = .ok later) : later.escrowOrders = db.escrowOrders := by
  unfold applyWork at accepted
  split at accepted
  · cases accepted
    rfl
  · split at accepted
    · exact confirmScan_orders accepted
    · split at accepted
      · cases accepted
        rfl
      · split at accepted
        · cases accepted
          rfl
        · split at accepted <;> cases accepted <;> rfl

theorem foldl_orders {α : Type} {step : Database → α → Database} (each : ∀ db value, (step db value).escrowOrders = db.escrowOrders)
    (values : List α) (db : Database) : (values.foldl step db).escrowOrders = db.escrowOrders := by
  induction values generalizing db with
  | nil => rfl
  | cons first rest ih => exact (ih (step db first)).trans (each db first)

theorem refreshPassport_orders (settings : Settings) (db : Database) (entry : PassportRow × Option (List Byte)) :
    (refreshPassport settings db entry).escrowOrders = db.escrowOrders := by
  unfold refreshPassport
  split
  · rfl
  · split
    · split <;> rfl
    · rfl

theorem refreshSeal_orders (settings : Settings) (db : Database) (entry : SealRow × Option (List Byte)) :
    (refreshSeal settings db entry).escrowOrders = db.escrowOrders := by
  obtain ⟨seals,same⟩ := refreshSeal_only settings db entry
  rw [same]

theorem refreshRegistry_orders (settings : Settings) (ts : Int) (db : Database) (data : Option (List Byte)) :
    (refreshRegistry settings ts db data).escrowOrders = db.escrowOrders := by
  unfold refreshRegistry
  split
  · split
    · exact foldl_orders (fun db pubkey => show (db.upsertAttester pubkey ts).escrowOrders = db.escrowOrders from rfl) _ db
    · rfl
  · rfl

-- Which parts of a cycle can be refused: none before the orders.
theorem cycleRest_orders (settings : Settings) (job : ReconcileJob) (worked : Database) :
    (cycleRest settings job worked).escrowOrders = worked.escrowOrders := by
  unfold cycleRest
  dsimp only
  have stale (db : Database) (event : EventRow) : (failStale settings job.ts.val db event).escrowOrders = db.escrowOrders := rfl
  rw [refreshRegistry_orders,foldl_orders (refreshSeal_orders settings),foldl_orders (refreshPassport_orders settings),
    foldl_orders stale]

theorem applyWork_accepted (settings : Settings) (ts : Int) (db : Database) (item : WorkItem) :
    ∃ later, applyWork settings ts db item = .ok later := by
  unfold applyWork
  split
  · exact ⟨db,rfl⟩
  · rename_i current matched
    have found := (Option.filter_eq_some_iff.mp matched).1
    split
    · rename_i acct proof
      unfold confirmScan
      dsimp only
      rw [getEvent_updateEvent found]
      exact ⟨_,rfl⟩
    · split
      · exact ⟨_,rfl⟩
      · split
        · exact ⟨_,rfl⟩
        · split <;> exact ⟨_,rfl⟩

theorem work_accepted (settings : Settings) (ts : Int) (work : List WorkItem) (db : Database) :
    ∃ worked, work.foldlM (applyWork settings ts) db = .ok worked ∧ worked.escrowOrders = db.escrowOrders := by
  induction work generalizing db with
  | nil => exact ⟨db,rfl,rfl⟩
  | cons item rest ih =>
    obtain ⟨middle,first⟩ := applyWork_accepted settings ts db item
    obtain ⟨worked,last,same⟩ := ih middle
    exact ⟨worked,by rw [List.foldlM_cons,first,ok_bind,last],same.trans (applyWork_orders first)⟩

theorem applyOrders_accepted {settings : Settings} {ts : Int} {found : List (Pubkey × List Byte)} {db : Database} :
    (∃ later, applyOrders settings ts db found = .ok later) ↔
      ∀ entry ∈ found, ∀ order, decodeOrder settings (some entry.2) = .ok order → (order.price.val : Int) < 2^63 := by
  induction found generalizing db with
  | nil =>
    constructor
    · intro _ entry inside
      cases inside
    · intro _
      exact ⟨db,rfl⟩
  | cons first rest ih =>
    obtain ⟨orderPda,data⟩ := first
    unfold applyOrders
    cases decoded : decodeOrder settings (some data) with
    | error error =>
      dsimp only
      rw [ih,List.forall_mem_cons]
      refine (and_iff_right ?_).symm
      intro order other
      rw [decoded] at other
      cases other
    | ok order =>
      dsimp only
      rw [List.forall_mem_cons]
      constructor
      · intro runs
        obtain ⟨later,accepted⟩ := runs
        obtain ⟨stored,put,accepted⟩ := bind_ok.mp accepted
        refine ⟨?_,ih.mp ⟨later,accepted⟩⟩
        intro other same
        rw [decoded] at same
        cases same
        exact Database.upsertEscrowOrder_accepted.mp ⟨stored,put⟩
      · intro small
        obtain ⟨price,others⟩ := small
        obtain ⟨stored,put⟩ := Database.upsertEscrowOrder_accepted.mpr (price order decoded)
        obtain ⟨later,accepted⟩ := ih.mpr others
        exact ⟨later,by rw [put,ok_bind,accepted]⟩

theorem applyOrders_other {settings : Settings} {ts : Int} {found : List (Pubkey × List Byte)} {db later : Database}
    (accepted : applyOrders settings ts db found = .ok later) {orderPda : Pubkey} (elsewhere : orderPda ∉ found.map (·.1)) (time : Int) :
    later.getOrder orderPda time = db.getOrder orderPda time := by
  induction found generalizing db with
  | nil =>
    cases accepted
    rfl
  | cons first rest ih =>
    simp only [List.map_cons,List.mem_cons,not_or] at elsewhere
    unfold applyOrders at accepted
    split at accepted
    · exact ih accepted elsewhere.2
    · obtain ⟨stored,put,accepted⟩ := bind_ok.mp accepted
      exact (ih accepted elsewhere.2).trans ((Database.upsertEscrowOrder_parts put).other elsewhere.1 time)

-- The counters can be taken afterwards exactly if every listing that was stored has a date SQLite can negate.
theorem applyOrders_dated {settings : Settings} {ts : Int} {found : List (Pubkey × List Byte)} {db later : Database}
    (distinct : (found.map (·.1)).Nodup) (accepted : applyOrders settings ts db found = .ok later) (dated : db.Dated) :
    later.Dated ↔ ∀ entry ∈ found, ∀ order, decodeOrder settings (some entry.2) = .ok order → order.listedAt.val ≠ -2^63 := by
  induction found generalizing db with
  | nil =>
    cases accepted
    exact ⟨fun _ _ inside => absurd inside List.not_mem_nil,fun _ => dated⟩
  | cons first rest ih =>
    obtain ⟨orderPda,data⟩ := first
    simp only [List.map_cons,List.nodup_cons] at distinct
    unfold applyOrders at accepted
    rw [List.forall_mem_cons]
    split at accepted
    · rename_i error decoded
      rw [ih distinct.2 accepted dated]
      refine (and_iff_right ?_).symm
      intro order other
      rw [decoded] at other
      cases other
    · rename_i order decoded
      obtain ⟨stored,put,accepted⟩ := bind_ok.mp accepted
      have read := Database.upsertEscrowOrder_parts put
      by_cases listed : order.listedAt.val = -2^63
      · refine ⟨?_,fun all => absurd listed (all.1 order decoded)⟩
        intro later_dated
        obtain ⟨row,there⟩ := Option.isSome_iff_exists.mp read.own
        rw [← applyOrders_other accepted distinct.1] at there
        exact absurd listed (later_dated.get there)
      · rw [ih distinct.2 accepted (read.dated dated listed)]
        refine (and_iff_right ?_).symm
        intro other same
        rw [decoded] at same
        cases same
        exact listed

-- Every order that decodes fits into the columns, and its date can be negated.
def Storable (settings : Settings) (orders : Option (List (Pubkey × List Byte))) : Prop :=
  ∀ found ∈ orders, ∀ entry ∈ found, ∀ order, decodeOrder settings (some entry.2) = .ok order →
    (order.price.val : Int) < 2^63 ∧ order.listedAt.val ≠ -2^63

theorem refreshOrders_accepted {settings : Settings} {ts : Int} {db : Database} {orders : Option (List (Pubkey × List Byte))}
    (distinct : ∀ found ∈ orders, (found.map (·.1)).Nodup) (dated : db.Dated) :
    (∃ later, refreshOrders settings ts db orders = .ok later) ↔ Storable settings orders := by
  unfold refreshOrders Storable
  cases orders with
  | none => exact ⟨fun _ _ inside => (nomatch inside),fun _ => ⟨db,rfl⟩⟩
  | some found =>
    dsimp only
    have distinct := distinct found rfl
    constructor
    · intro ⟨later,accepted⟩ other same entry inside order decoded
      obtain ⟨stored,put,synced⟩ := bind_ok.mp accepted
      cases same
      exact ⟨applyOrders_accepted.mp ⟨stored,put⟩ entry inside order decoded,
        (applyOrders_dated distinct put dated).mp (Database.syncEscrowCounters_accepted.mp ⟨later,synced⟩) entry inside order decoded⟩
    · intro all
      have fits := all found rfl
      obtain ⟨stored,put⟩ := applyOrders_accepted.mpr fun entry inside order decoded => (fits entry inside order decoded).1
      have stored_dated := (applyOrders_dated distinct put dated).mpr fun entry inside order decoded => (fits entry inside order decoded).2
      obtain ⟨later,synced⟩ := Database.syncEscrowCounters_accepted.mpr stored_dated
      exact ⟨later,by rw [put,ok_bind,synced]⟩

-- What the work of a cycle confirms.
theorem applyWork_other {settings : Settings} {ts : Int} {db later : Database} {item : WorkItem} {id : ℕ} {row : EventRow}
    (knows : KnowsItem db item) (accepted : applyWork settings ts db item = .ok later) (found : db.getEvent id = some row)
    (signed : row.payload.signedScan.isSome) (elsewhere : id ≠ item.event.id) : later.getEvent id = some row := by
  unfold applyWork at accepted
  split at accepted
  · cases accepted
    exact found
  · rename_i current matched
    obtain ⟨here,status⟩ := Option.filter_eq_some_iff.mp matched
    have status : current.status = item.event.status := by simpa using status
    split at accepted
    · have kind : current.type = .scan := (knows.follows current here).type.trans knows.type
      obtain ⟨_,_,_,rows⟩ := reconciled_rows here kind (knows.body here (knows.open status)) accepted
      rw [rows,if_neg elsewhere,found]
      simp [Option.filter,replaced_signed current signed]
    · rcases branch accepted with failed | pending
      · cases failed.2
        exact found
      · rcases branch pending.2 with late | early
        · cases late.2
          rw [getEvent_failPending,if_neg elsewhere,found]
        · rcases branch early.2 with ignored | quiet
          · cases ignored.2
            unfold Database.updateEventPayload
            rw [Database.getEvent_update,if_neg elsewhere,found]
          · cases quiet.2
            exact found

theorem applyWork_confirms {settings : Settings} {ts : Int} {db later : Database} {item : WorkItem} {row : EventRow}
    (shapes : Shapes db) (knows : KnowsItem db item) (found : db.getEvent item.event.id = some row)
    (status : row.status = item.event.status) (proven : item.proof.isSome) (accepted : applyWork settings ts db item = .ok later) :
    ∃ final, later.getEvent item.event.id = some final ∧ final.confirmedScan = true := by
  obtain ⟨acct,proof⟩ := Option.isSome_iff_exists.mp proven
  unfold applyWork at accepted
  rw [found] at accepted
  simp only [Option.filter,status,beq_self_eq_true,if_true,proof] at accepted
  have kind : row.type = .scan := (knows.follows row found).type.trans knows.type
  have body := knows.body found (knows.open status)
  obtain ⟨_,final,becomes,rows⟩ := reconciled_rows found kind body accepted
  refine ⟨final,by rw [rows,if_pos rfl],?_⟩
  obtain ⟨scan,signed,_⟩ := (shapes _ _ found).open_scan (knows.open status) kind
  have own : item.event.payload.signedScan = some scan := Payload.signed_of_body (body ▸ Payload.body_of_signed signed)
  have told := becomes.signed
  rw [own] at told
  simp [EventRow.confirmedScan,becomes.follows.type.trans kind,becomes.status,told]

theorem edits_confirmed {settings : Settings} {cause : Cause} {db later : Database} {id : ℕ} {row : EventRow} (shapes : Shapes db)
    (credited : Credited db) (edits : Edits settings cause db later) (found : db.getEvent id = some row)
    (counted : row.confirmedScan = true) : ∃ final, later.getEvent id = some final ∧ final.confirmedScan = true := by
  have before := (credited.applied id).mpr ⟨row,found,counted⟩
  exact ((edits_credited shapes credited edits).applied id).mp ((edits_applied edits).subset before)

theorem work_confirms {settings : Settings} {ts : Int} {work : List WorkItem} {db worked : Database} {item : WorkItem} {row : EventRow}
    (shapes : Shapes db) (credited : Credited db) (knows : ∀ item ∈ work, KnowsItem db item)
    (distinct : (work.map (·.event.id)).Nodup) (accepted : work.foldlM (applyWork settings ts) db = .ok worked) (inside : item ∈ work)
    (proven : item.proof.isSome) (found : db.getEvent item.event.id = some row) (status : row.status = item.event.status) :
    ∃ final, worked.getEvent item.event.id = some final ∧ final.confirmedScan = true := by
  induction work generalizing db with
  | nil => exact absurd inside List.not_mem_nil
  | cons first rest ih =>
    rw [List.foldlM_cons] at accepted
    obtain ⟨middle,step,finished⟩ := bind_ok.mp accepted
    simp only [List.map_cons,List.nodup_cons] at distinct
    have knows_first := knows first List.mem_cons_self
    have edits := applyWork_edits knows_first step
    have kept := edits_kept edits
    have knows_rest (other : WorkItem) (inside : other ∈ rest) : KnowsItem middle other :=
      (knows other (List.mem_cons_of_mem first inside)).kept kept
    rcases List.mem_cons.mp inside with here | later
    · subst here
      obtain ⟨final,there,counted⟩ := applyWork_confirms shapes knows_first found status proven step
      exact edits_confirmed (edits_shapes shapes edits) (edits_credited shapes credited edits) (work_edits knows_rest finished) there counted
    · have knows_item := knows item inside
      have elsewhere : item.event.id ≠ first.event.id := fun same =>
        distinct.1 (same ▸ List.mem_map.mpr ⟨item,later,rfl⟩)
      have kind : row.type = .scan := (knows_item.follows row found).type.trans knows_item.type
      obtain ⟨scan,signed,_⟩ := (shapes _ _ found).open_scan (knows_item.open status) kind
      have stays := applyWork_other knows_first step found (by rw [signed]; rfl) elsewhere
      exact ih (edits_shapes shapes edits) (edits_credited shapes credited edits) knows_rest distinct.2 finished later stays

theorem reconcileRead_distinct {settings : Settings} {db : Database} {reads : ReconcileReads} {ts : I64} {job : ReconcileJob}
    (read : reconcileRead settings db reads ts = some job) : (job.work.map (·.event.id)).Nodup := by
  obtain ⟨program,_,rfl⟩ := Option.map_eq_some_iff.mp read
  have selected : ((db.scanEventsToReconcile (ts.val-FAILED_RECHECK_S)).map (·.id)).Nodup :=
    (List.filter_sublist.map _).nodup db.events.table.unique
  dsimp only
  generalize db.scanEventsToReconcile (ts.val-FAILED_RECHECK_S) = events at selected
  induction events with
  | nil => exact List.nodup_nil
  | cons event rest ih =>
    simp only [List.map_cons,List.nodup_cons] at selected
    rw [List.filterMap_cons]
    split
    · exact ih selected.2
    · rename_i item made
      rw [List.map_cons,List.nodup_cons,workItem_event made]
      refine ⟨?_,ih selected.2⟩
      intro taken
      obtain ⟨other,inside,same⟩ := List.mem_map.mp taken
      obtain ⟨source,present,made'⟩ := List.mem_filterMap.mp inside
      rw [workItem_event made'] at same
      exact selected.1 (List.mem_map.mpr ⟨source,present,same⟩)

theorem Grows.orders {db later : Database} (grows : Grows db later) : later.escrowOrders = db.escrowOrders := by
  cases grows with
  | same rest => exact rest.escrowOrders
  | row known make named before after => exact after.escrowOrders.trans before.escrowOrders

theorem reconcileWrite_dated {settings : Settings} {db later : Database} {job : ReconcileJob}
    (accepted : reconcileWrite settings db job = .ok later) (dated : db.Dated) : later.Dated := by
  obtain ⟨worked,works,same⟩ := work_accepted settings job.ts.val job.work db
  rw [reconcileWrite_worked works] at accepted
  unfold refreshOrders at accepted
  split at accepted
  · cases accepted
    exact dated.of_same ((cycleRest_orders settings job worked).trans same)
  · obtain ⟨_,_,synced⟩ := bind_ok.mp accepted
    exact .of_sync synced

theorem Run.dated (settings : Settings) (run : Run) (n : ℕ) : (run.db settings n).Dated := by
  induction n with
  | zero => exact fun _ present => absurd present List.not_mem_nil
  | succ n ih =>
    have writes : Writes settings (run.server settings n) (run.actions n) (run.db settings (n+1)) (run.answer settings n) := run.writes n
    have knows := run.knows settings n
    rcases changes_grows (run.changes settings n) with finished | grows
    · obtain ⟨index,now,_,action,_⟩ := finished
      rw [action] at writes
      generalize run.db settings (n+1) = later at writes ⊢
      generalize run.answer settings n = answer at writes
      cases writes with
      | none => exact ih
      | event job _ _ _ row started accepted =>
        cases knows _ started with
        | event job knows => exact eventWrite_dated knows accepted ih
      | confirm job _ _ _ row started accepted => exact ih.of_same (confirmWrite_orders accepted)
      | fail eventId txSig => exact ih.of_same rfl
      | reconcile job _ _ _ started accepted => exact reconcileWrite_dated accepted ih
    · exact ih.of_same grows.orders

-- The address of an event holds a ScanProof of its seal and counter.
def ProvenAt (settings : Settings) (reads : ReconcileReads) (event : EventRow) : Prop :=
  ∃ sealUidHash counter acct, event.sealUidHash = some sealUidHash ∧ event.payload.counter = some counter ∧
    decodeScanProof settings (reads.scans (.scan (.sealOf sealUidHash) (Fin.ofNat (2^32) counter))) = .ok acct ∧
    acct.sealKey = .sealOf sealUidHash ∧ acct.counter.val = counter

theorem workItem_proven {settings : Settings} {program : Pubkey} {reads : ReconcileReads} {event : EventRow}
    (proven : ProvenAt settings reads event) : ∃ item, workItem settings program reads event = some item ∧ item.proof.isSome := by
  obtain ⟨sealUidHash,counter,acct,sealed,counted,decoded,onSeal,numbered⟩ := proven
  have found : scanProofAt settings (reads.scans (.scan (.sealOf sealUidHash) (Fin.ofNat (2^32) counter))) (.sealOf sealUidHash) counter =
      (some acct,none) := by
    unfold scanProofAt
    cases data : reads.scans (.scan (.sealOf sealUidHash) (Fin.ofNat (2^32) counter)) with
    | none =>
      rw [data] at decoded
      cases decoded
    | some bytes =>
      rw [data] at decoded
      dsimp only
      rw [decoded]
      exact if_pos ⟨onSeal,numbered⟩
  unfold workItem
  rw [sealed,counted]
  dsimp only
  rw [found]
  exact ⟨_,rfl,rfl⟩

-- A cycle that reads after step `m` and writes in step `n`; the RPC answers with no address twice.
structure Cycle (settings : Settings) (run : Run) (reads : ReconcileReads) (ts : I64) (m n : ℕ) : Prop where
  finish : ∃ index now job, run.actions n = .finish index now ∧ (run.server settings n).jobs[index]? = some (.reconcile job) ∧
    reconcileRead settings (run.db settings m) reads ts = some job
  distinct : ∀ found ∈ reads.orders, (found.map (·.1)).Nodup

-- Its write commits, and confirms every event it selected whose address holds its ScanProof, unless somebody settled the
-- event meanwhile.
structure Isolated (settings : Settings) (run : Run) (reads : ReconcileReads) (ts : I64) (m n : ℕ) : Prop where
  commits : run.answer settings n = .cycle (.ok ())
  confirms : ∀ event ∈ (run.db settings m).scanEventsToReconcile (ts.val-FAILED_RECHECK_S), ProvenAt settings reads event →
    (∃ row, (run.db settings n).getEvent event.id = some row ∧ row.status = event.status) →
    ∃ row, (run.db settings (n+1)).getEvent event.id = some row ∧ row.status = .confirmed

def ordersAsked (settings : Settings) (reads : ReconcileReads) : Option (List (Pubkey × List Byte)) :=
  if settings.escrowProgramId.isSome then reads.orders else none

theorem cycle_isolated (settings : Settings) (run : Run) (reads : ReconcileReads) (ts : I64) (m n : ℕ)
    (cycle : Cycle settings run reads ts m n) :
    Isolated settings run reads ts m n ↔ Storable settings (ordersAsked settings reads) := by
  obtain ⟨index,now,job,action,there,read⟩ := cycle.finish
  have present := List.mem_of_getElem? there
  have knows : ∀ item ∈ job.work, KnowsItem (run.db settings n) item := by
    cases run.knows settings n _ present with
    | reconcile job knows => exact knows
  have orders : job.orders = ordersAsked settings reads := by
    obtain ⟨program,_,rfl⟩ := Option.map_eq_some_iff.mp read
    rfl
  have commits (later : Database) (accepted : reconcileWrite settings (run.db settings n) job = .ok later) :
      run.db settings (n+1) = later ∧ run.answer settings n = .cycle (.ok ()) := by
    have accepted : reconcileWrite settings (run.server settings n).db job = .ok later := accepted
    unfold Run.answer
    rw [Run.db,Run.server_succ,action]
    simp only [Server.step,there,Server.finish,accepted,and_self]
  have aborts (error : SqlError) (refused : reconcileWrite settings (run.db settings n) job = .error error) :
      run.answer settings n = .cycle (.error error) := by
    have refused : reconcileWrite settings (run.server settings n).db job = .error error := refused
    unfold Run.answer
    rw [action]
    simp only [Server.step,there,Server.finish,refused]
  obtain ⟨worked,works,same⟩ := work_accepted settings job.ts.val job.work (run.db settings n)
  have written := reconcileWrite_worked works
  have dated : (cycleRest settings job worked).Dated :=
    (run.dated settings n).of_same ((cycleRest_orders settings job worked).trans same)
  have distinct : ∀ found ∈ job.orders, (found.map (·.1)).Nodup := by
    intro found asked
    rw [orders] at asked
    unfold ordersAsked at asked
    split at asked
    · exact cycle.distinct found asked
    · cases asked
  rw [← orders,← refreshOrders_accepted distinct dated]
  constructor
  · intro isolated
    cases accepted : refreshOrders settings job.ts.val (cycleRest settings job worked) job.orders with
    | ok later => exact ⟨later,rfl⟩
    | error error =>
      have refused := isolated.commits.symm.trans (aborts error (written.trans accepted))
      cases refused
  · intro storable
    obtain ⟨later,accepted⟩ := storable
    obtain ⟨stored,answered⟩ := commits later (written.trans accepted)
    refine ⟨answered,?_⟩
    intro event selected proven unchanged
    obtain ⟨row,found,status⟩ := unchanged
    obtain ⟨item,made,inside,proof⟩ : ∃ item, item.event = event ∧ item ∈ job.work ∧ item.proof.isSome := by
      obtain ⟨program,_,rfl⟩ := Option.map_eq_some_iff.mp read
      obtain ⟨item,made,proof⟩ := workItem_proven proven
      exact ⟨item,workItem_event made,List.mem_filterMap.mpr ⟨event,selected,made⟩,proof⟩
    subst made
    have edits := work_edits knows works
    have shapes := run.shapes settings n
    have credited := run.credited settings n
    obtain ⟨final,there,counted⟩ := work_confirms shapes credited knows (reconcileRead_distinct read) works inside proof found status
    obtain ⟨last,there,counted⟩ := edits_confirmed (edits_shapes shapes edits) (edits_credited shapes credited edits)
      (cycleRest_edits accepted) there counted
    simp only [EventRow.confirmedScan,Bool.and_eq_true,beq_iff_eq] at counted
    exact ⟨last,stored ▸ there,counted.1.2⟩

-- A scan waits with its ScanProof on chain while somebody lists a bottle at the given price.
namespace Listed
open Attachments (serial box now)
open Sighted (scanKey)

def sealBytes : Bytes32 := hashOf [11]

def settings : Settings :=
  {Settings.sample with keyOf := fun bytes => if bytes = sealBytes then .sealOf box else Settings.sample.keyOf bytes}

def proofData : List Byte :=
  accountDisc .scanProof ++ sealBytes.val ++ Bytes.littleEndian 4 1 ++ [0,0,Fin.ofNat 256 Tamper.UNKNOWN,0,0,0,0,90,0,0] ++
    zero32.val ++ (hashOf [1]).val ++ (hashOf [12]).val ++ [0] ++ Bytes.signedLittleEndian 8 100 ++ [0]

def proof : ScanProof :=
  ⟨.sealOf box,1,0,0,Fin.ofNat 256 Tamper.UNKNOWN,0,0,0,0,90,0,zero32,hashOf [1],settings.keyOf (hashOf [12]),0,now⟩

def orderData (price : ℕ) : List Byte :=
  accountDisc .order ++ (hashOf [21]).val ++ (hashOf [22]).val ++ zero32.val ++ (hashOf [23]).val ++ Bytes.littleEndian 8 price ++ [0] ++
    Bytes.signedLittleEndian 8 50 ++ List.replicate 91 0

def reads (price : ℕ) : ReconcileReads :=
  ⟨fun key => if key = scanKey then some proofData else none,fun _ => none,fun _ => none,fun _ => none,
    some [(.foreign 77,orderData price)]⟩

def run (price : ℕ) : Run := ⟨fun
  | 7 => .reconcile (reads price) now
  | n => if n < 7 then Sighted.run.actions n else .finish 0 now⟩

theorem listedAt_fits : -2^63 ≤ (50 : Int) ∧ (50 : Int) < 2^63 := by decide

def listedAt : I64 := ⟨50,listedAt_fits⟩

def order (price : U64) : ChainOrder :=
  ⟨settings.keyOf (hashOf [21]),settings.keyOf (hashOf [22]),none,settings.keyOf (hashOf [23]),price,0,listedAt,.zero,.zero,settings.keyOf zero32,
    settings.keyOf zero32,.zero,false⟩

theorem cycle {price : ℕ} (idle : ((run price).server settings 7).jobs.length = 0)
    (starts : (reconcileRead settings ((run price).db settings 7) (reads price) now).isSome) :
    Cycle settings (run price) (reads price) now 7 8 := by
  obtain ⟨job,read⟩ := Option.isSome_iff_exists.mp starts
  have waiting : ((run price).server settings 8).jobs = [.reconcile job] := by
    have step : (run price).server settings 8 = (Server.step settings ((run price).server settings 7) (.reconcile (reads price) now)).1 := rfl
    have read : reconcileRead settings ((run price).server settings 7).db (reads price) now = some job := read
    rw [step]
    simp only [Server.step,read]
    rw [Server.begin,List.length_eq_zero_iff.mp idle]
    rfl
  refine ⟨⟨0,now,job,rfl,by rw [waiting]; rfl,read⟩,?_⟩
  intro found asked
  cases asked
  exact List.nodup_singleton _

theorem overpriced_not_isolated : Cycle settings (run (2^63)) (reads (2^63)) now 7 8 ∧
    ¬Isolated settings (run (2^63)) (reads (2^63)) now 7 8 := by
  refine ⟨cycle (by decide +kernel) (by decide +kernel),?_⟩
  intro isolated
  obtain ⟨event,selected,id,sealed,counted,status⟩ : ∃ event ∈ ((run (2^63)).db settings 7).scanEventsToReconcile (now.val-FAILED_RECHECK_S),
      event.id = 4 ∧ event.sealUidHash = some box ∧ event.payload.counter = some 1 ∧ event.status = .pending := by decide +kernel
  have decoded : decodeScanProof settings (some proofData) = .ok proof := by decide +kernel
  have proven : ProvenAt settings (reads (2^63)) event := ⟨box,1,proof,sealed,counted,decoded,rfl,rfl⟩
  have waiting : (((run (2^63)).db settings 8).getEvent 4).map (·.status) = some .pending := by decide +kernel
  obtain ⟨row,found,pending⟩ := Option.map_eq_some_iff.mp waiting
  obtain ⟨later,there,confirmed⟩ := isolated.confirms event selected proven ⟨row,id ▸ found,pending.trans status.symm⟩
  have still : (((run (2^63)).db settings 9).getEvent 4).map (·.status) = some .pending := by decide +kernel
  rw [← id,there,Option.map_some,confirmed] at still
  cases still

theorem priced_isolated : Isolated settings (run 5) (reads 5) now 7 8 := by
  refine (cycle_isolated settings (run 5) (reads 5) now 7 8 (cycle (by decide +kernel) (by decide +kernel))).mpr ?_
  have decoded : decodeOrder settings (some (orderData 5)) = .ok (order 5) := by decide +kernel
  intro found asked entry inside other told
  cases asked
  cases List.mem_singleton.mp inside
  cases decoded.symm.trans told
  exact ⟨by decide,by decide⟩

end Listed
end FlaconVault.Verifier
