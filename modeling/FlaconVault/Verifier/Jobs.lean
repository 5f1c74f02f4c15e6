import FlaconVault.Verifier.Effects
namespace FlaconVault.Verifier
open Guards

-- What a started job still knows when it writes, and its writes as a row of operations.

structure KnowsEvent (job : EventJob) : Prop where
  kind : job.type ≠ .scan
  mint : job.type = .mint → ∃ brand name batch asset bindingHash, job.facts = .mint brand name batch asset bindingHash

structure KnowsFail (db : Database) (eventId : ℕ) : Prop where
  old : eventId < db.events.next
  type : ∀ current, db.getEvent eventId = some current → current.type = .scan

inductive KnowsJob (db : Database) : Job → Prop
  | event (job : EventJob) (knows : KnowsEvent job) : KnowsJob db (.event job)
  | confirm (job : ConfirmJob) (knows : KnowsConfirm db job) : KnowsJob db (.confirm job)
  | fail (eventId : ℕ) (txSig : Signature) (knows : KnowsFail db eventId) : KnowsJob db (.fail eventId txSig)
  | reconcile (job : ReconcileJob) (knows : ∀ item ∈ job.work, KnowsItem db item) : KnowsJob db (.reconcile job)

theorem KnowsConfirm.kept {db later : Database} {job : ConfirmJob} (knows : KnowsConfirm db job) (kept : Kept db later) :
    KnowsConfirm later job := by
  refine ⟨knows.old.trans_le kept.next,?_⟩
  intro current found
  obtain ⟨row,there,follows⟩ := kept.rows job.eventId current knows.old found
  exact follows.type.trans (knows.type row there)

theorem KnowsFail.kept {db later : Database} {eventId : ℕ} (knows : KnowsFail db eventId) (kept : Kept db later) :
    KnowsFail later eventId := by
  refine ⟨knows.old.trans_le kept.next,?_⟩
  intro current found
  obtain ⟨row,there,follows⟩ := kept.rows eventId current knows.old found
  exact follows.type.trans (knows.type row there)

theorem KnowsItem.kept {db later : Database} {item : WorkItem} (knows : KnowsItem db item) (kept : Kept db later) :
    KnowsItem later item := by
  refine ⟨knows.type,knows.unsettled,knows.old.trans_le kept.next,?_⟩
  intro current found
  obtain ⟨row,there,follows⟩ := kept.rows item.event.id current knows.old found
  exact (knows.follows row there).trans follows

theorem KnowsJob.kept {db later : Database} {job : Job} (knows : KnowsJob db job) (kept : Kept db later) : KnowsJob later job := by
  cases knows with
  | event job knows => exact .event job knows
  | confirm job knows => exact .confirm job (knows.kept kept)
  | fail eventId txSig knows => exact .fail eventId txSig (knows.kept kept)
  | reconcile job knows => exact .reconcile job fun item inside => (knows item inside).kept kept

-- What each first half leaves its job with.
theorem txFacts_mint {settings : Settings} {type : EventType} {vt : VerifiedTx} {body : EventBody} {serial : String}
    {reads : ChainReads} {facts : Facts} (mint : type = .mint) (told : txFacts settings type vt body serial reads = .ok facts) :
    ∃ brand name batch asset bindingHash, facts = .mint brand name batch asset bindingHash := by
  subst mint
  unfold txFacts at told
  dsimp only at told
  split at told
  · obtain ⟨_,_,told⟩ := bind_ok.mp told
    obtain ⟨_,_,told⟩ := bind_ok.mp told
    exact ⟨_,_,_,_,_,(pure_ok.mp told).symm⟩
  · cases told

theorem eventRead_knows {settings : Settings} {db : Database} {body : EventBody} {reads : ChainReads} {now : I64} {job : EventJob}
    (read : eventRead settings db body reads now = .ok (.write job)) : KnowsEvent job := by
  unfold eventRead at read
  obtain ⟨_,_,read⟩ := bind_ok.mp read
  obtain ⟨serial,_,read⟩ := bind_ok.mp read
  obtain ⟨type,_,read⟩ := bind_ok.mp read
  obtain ⟨_,_,read⟩ := bind_ok.mp read
  dsimp only at read
  split at read
  all_goals
    obtain ⟨sealUidHash,_,read⟩ := bind_ok.mp read
    obtain ⟨_,kind,read⟩ := bind_ok.mp read
    obtain ⟨txSig,_,read⟩ := bind_ok.mp read
    obtain ⟨actor,_,read⟩ := bind_ok.mp read
    obtain ⟨⟨known,uid,sealUidHash⟩,_,read⟩ := bind_ok.mp read
    cases known with
    | some row => cases pure_ok.mp read
    | none =>
      obtain ⟨exp,_,read⟩ := bind_ok.mp read
      obtain ⟨vt,_,read⟩ := bind_ok.mp read
      obtain ⟨facts,told,read⟩ := bind_ok.mp read
      cases pure_ok.mp read
      exact ⟨require_ok.mp kind,fun mint => txFacts_mint mint told⟩

-- Whom a confirmation must come from, where its row says so.
def EventRow.expected (event : EventRow) : Option Pubkey :=
  event.actor <|> if event.type = .scan then event.payload.claimed else none

-- Where the first half of a confirmation by id ends.
inductive ConfirmRead (settings : Settings) (db : Database) (body : EventBody) (reads : ChainReads) (event : EventRow) :
    ConfirmStage → Prop
  | answered (settled : event.status = .confirmed) (same : event.txSig = body.txSig) :
      ConfirmRead settings db body reads event (.answered event)
  | refused (error : HttpError) : ConfirmRead settings db body reads event (.refused error)
  | fail (txSig : Signature) (actor : Pubkey) (exp : Expectation) (sent : body.txSig = some txSig) (scan : event.type = .scan)
      (own : event.expected = some actor)
      (expected : expectation settings db .scan event.serial event.sealUidHash event.payload.counter = .ok exp)
      (failed : verifyTransaction settings reads txSig actor exp = .error txFailed) :
      ConfirmRead settings db body reads event (.fail event.id txSig)
  | write (txSig : Signature) (actor : Pubkey) (exp : Expectation) (vt : VerifiedTx) (repair : Bool) (sent : body.txSig = some txSig)
      (own : ∀ key ∈ event.expected, actor = key)
      (expected : expectation settings db event.type event.serial event.sealUidHash
        (if event.type = .scan then event.payload.counter else none) = .ok exp)
      (verified : verifyTransaction settings reads txSig actor exp = .ok vt)
      (signer : event.type = .scan → vt.account .signer = some actor)
      (repairs : repair = (event.status == .confirmed && body.txSig.isSome && event.txSig.isSome && reconcileChoseSignature event)) :
      ConfirmRead settings db body reads event (.write ⟨event.id,event.type,txSig,actor,event.payload,vt,repair⟩)

theorem confirmRead_parts {settings : Settings} {db : Database} {body : EventBody} {eventId : ℕ} {reads : ChainReads}
    {stage : ConfirmStage} (read : confirmRead settings db body eventId reads = .ok stage) :
    ∃ event, db.getEvent eventId = some event ∧ ConfirmRead settings db body reads event stage := by
  unfold confirmRead at read
  obtain ⟨_,_,read⟩ := bind_ok.mp read
  obtain ⟨event,found,read⟩ := bind_ok.mp read
  rw [orRefuse_ok] at found
  have named : event.id = eventId := (Database.getEvent_some.mp found).2
  subst named
  refine ⟨event,found,?_⟩
  rcases branch read with known | fresh
  · obtain ⟨⟨settled,_,same⟩,read⟩ := known
    exact pure_ok.mp read ▸ .answered settled same
  · obtain ⟨_,read⟩ := fresh
    obtain ⟨_,_,read⟩ := bind_ok.mp read
    obtain ⟨txSig,sent,read⟩ := bind_ok.mp read
    rw [orRefuse_ok] at sent
    obtain ⟨_,_,read⟩ := bind_ok.mp read
    obtain ⟨actor,_,read⟩ := bind_ok.mp read
    obtain ⟨_,own,read⟩ := bind_ok.mp read
    have own := require_ok.mp own
    obtain ⟨exp,expected,read⟩ := bind_ok.mp read
    cases verified : verifyTransaction settings reads txSig actor exp with
    | error error =>
      rw [verified] at read
      rcases branch read with repair | read
      · exact pure_ok.mp repair.2 ▸ .refused _
      · rcases branch read.2 with failing | refused
        · obtain ⟨⟨failed,scan,claims⟩,read⟩ := failing
          rw [if_pos scan] at expected
          exact pure_ok.mp read ▸ .fail txSig actor exp sent scan claims (scan ▸ expected) (failed ▸ verified)
        · exact pure_ok.mp refused.2 ▸ .refused _
    | ok vt =>
      rw [verified] at read
      rcases branch read with refused | accepted
      · exact pure_ok.mp refused.2 ▸ .refused _
      · obtain ⟨passed,read⟩ := accepted
        have signer : event.type = .scan → vt.account .signer = some actor := by
          intro scan
          by_contra other
          exact passed ⟨scan,fun both => other both.1⟩
        exact pure_ok.mp read ▸ .write txSig actor exp vt _ sent own expected verified signer rfl

theorem workItem_event {settings : Settings} {program : Pubkey} {reads : ReconcileReads} {event : EventRow} {item : WorkItem}
    (made : workItem settings program reads event = some item) : item.event = event := by
  unfold workItem at made
  split at made
  · cases made
    rfl
  · cases made

theorem reconcileRead_knows {settings : Settings} {db : Database} {reads : ReconcileReads} {ts : I64} {job : ReconcileJob}
    (read : reconcileRead settings db reads ts = some job) : ∀ item ∈ job.work, KnowsItem db item := by
  obtain ⟨program,_,rfl⟩ := Option.map_eq_some_iff.mp read
  intro item inside
  obtain ⟨event,selected,made⟩ := List.mem_filterMap.mp inside
  obtain ⟨present,chosen⟩ := List.mem_filter.mp selected
  have same := workItem_event made
  subst same
  simp only [Bool.and_eq_true,beq_iff_eq,Bool.or_eq_true] at chosen
  obtain ⟨⟨⟨type,_⟩,_⟩,open_row⟩ := chosen
  refine ⟨type,open_row.imp_right And.left,db.events.below _ present,?_⟩
  intro current found
  rw [Database.getEvent_mem present] at found
  exact Option.some.inj found ▸ .refl _

theorem starts_knows {settings : Settings} {db : Database} {job : Job} (starts : Starts settings db job) : KnowsJob db job := by
  cases starts with
  | event body reads now job read => exact .event job (eventRead_knows read)
  | confirm body eventId reads job read =>
    obtain ⟨event,found,parts⟩ := confirmRead_parts read
    cases parts with
    | write txSig actor exp vt repair =>
      have named : event.id = eventId := (Database.getEvent_some.mp found).2
      refine .confirm _ ⟨named ▸ Database.getEvent_below found,?_⟩
      intro current there
      rw [named,found] at there
      exact Option.some.inj there ▸ rfl
  | fail body asked reads eventId txSig read =>
    obtain ⟨event,found,parts⟩ := confirmRead_parts read
    cases parts with
    | fail _ actor exp sent scan =>
      have named : event.id = asked := (Database.getEvent_some.mp found).2
      refine .fail event.id txSig ⟨named ▸ Database.getEvent_below found,?_⟩
      intro current there
      rw [named,found] at there
      exact Option.some.inj there ▸ scan
  | reconcile reads ts job read => exact .reconcile job (reconcileRead_knows read)

-- The second halves.
theorem Edits.one {settings : Settings} {cause : Cause} {db later : Database} (edit : Edit settings cause db later) : Edits settings cause db later :=
  Relation.ReflTransGen.single edit

theorem Edits.aside {settings : Settings} {cause : Cause} {db later : Database} (rest : Aside db later) : Edits settings cause db later :=
  .one (.aside later rest)

theorem findEvent_some {db : Database} {serial : String} {type : EventType} {sealUidHash : Option Bytes32} {row : EventRow}
    (found : db.findEvent serial type sealUidHash = some row) : db.getEvent row.id = some row ∧ row.serial = serial ∧ row.type = type := by
  have fits := List.find?_some found
  simp only [Bool.and_eq_true,beq_iff_eq] at fits
  exact ⟨Database.getEvent_mem (List.mem_of_find?_eq_some found),fits.1.1,fits.1.2⟩

theorem findEvent_events {db later : Database} (same : later.events = db.events) (serial : String) (type : EventType)
    (sealUidHash : Option Bytes32) : later.findEvent serial type sealUidHash = db.findEvent serial type sealUidHash := by
  unfold Database.findEvent
  rw [same]

theorem eventForTx_events {db later : Database} (same : later.events = db.events) (txSig : Signature) (serial : String)
    (type : EventType) : later.eventForTx txSig serial type = db.eventForTx txSig serial type := by
  unfold Database.eventForTx
  rw [same]

theorem applySealDead_edits (settings : Settings) (cause : Cause) (db : Database) (serial : String) (sealUidHash : Option Bytes32) :
    Edits settings cause db (applySealDead db serial sealUidHash) := by
  unfold applySealDead
  cases sealUidHash with
  | none => exact .aside (Aside.setGrade db serial _)
  | some hash => exact (Edits.one (.sealDead hash)).tail (.aside _ (Aside.setGrade _ serial _))

theorem applySealDead_events (db : Database) (serial : String) (sealUidHash : Option Bytes32) :
    (applySealDead db serial sealUidHash).events = db.events := by
  unfold applySealDead
  cases sealUidHash <;> rfl

-- What the second half of a new event has written before it writes the row: the passport of a MINT, the seal of a
-- SEAL_ATTACH, the void of a SEAL_DEAD, or the final state of a listing; with the row's seal and facts.
inductive Prepared (settings : Settings) (db : Database) (job : EventJob) : Database → Option Bytes32 → Facts → Prop
  | minted (label brand name batch : Option String) (asset : Option Pubkey) (bindingHash : Option Bytes32) (facts : Facts)
      (later : Database) (type : job.type = .mint)
      (wrote : mintPassport settings db job label brand name batch asset bindingHash = .ok (later,facts)) :
      Prepared settings db job later job.sealUidHash facts
  | attached (hash : Bytes32) (uid : Uid) (kind : ℕ) (later : Database) (type : job.type = .sealAttach)
      (own : ∀ other ∈ db.getSealByHash hash, other.serial = job.serial)
      (wrote : db.upsertSeal hash uid job.serial kind job.ts = .ok later) :
      Prepared settings db job later (some hash) (.sealAttach (some hash) (some kind))
  | dead (hash : Option Bytes32) (type : job.type = .sealDead) :
      Prepared settings db job (applySealDead db job.serial hash) hash job.facts
  | recorded (later : Database) (type : job.type = .release ∨ job.type = .dispute) (wrote : recordOutcome db job = .ok later) :
      Prepared settings db job later job.sealUidHash job.facts
  | plain (other : job.type ≠ .mint ∧ job.type ≠ .sealAttach) : Prepared settings db job db job.sealUidHash job.facts

-- The row that is there already, a new row, or a row of a MINT or SEAL_ATTACH that was never confirmed.
inductive EventOutcome (settings : Settings) (db : Database) (job : EventJob) : Database → EventRow → Prop
  | known (later : Database) (row : EventRow) (there : db.getEvent row.id = some row) (type : row.type = job.type)
      (same : later = db ∨ later = db.upsertAttester job.actor job.ts) : EventOutcome settings db job later row
  | stored (label : Option String) (passport : PassportRow) (sealUidHash : Option Bytes32) (facts : Facts) (prepared : Database)
      (prepares : Prepared settings (db.upsertAttester job.actor job.ts) job prepared sealUidHash facts)
      (new : NewTo prepared job sealUidHash) :
      EventOutcome settings db job (prepared.insertEvent (newEvent job label sealUidHash facts passport) fun _ => rfl)
        (newEvent job label sealUidHash facts passport prepared.events.next)
  | settled (existing row : EventRow) (sealUidHash : Option Bytes32) (facts : Facts) (prepared : Database)
      (prepares : Prepared settings (db.upsertAttester job.actor job.ts) job prepared sealUidHash facts)
      (found : prepared.getEvent existing.id = some existing) (unsettled : existing.status ≠ .confirmed)
      (type : existing.type = job.type) (kind : job.type = .mint ∨ job.type = .sealAttach)
      (reread : (settleExisting prepared existing facts job.txSig job.actor).getEvent existing.id = some row) :
      EventOutcome settings db job (settleExisting prepared existing facts job.txSig job.actor) row

-- The insert at the end of a new event, and the settling of the row that is already there.
theorem store_parts {settings : Settings} {db prepared later : Database} {job : EventJob} {label : Option String}
    {sealUidHash : Option Bytes32} {facts : Facts} {row : EventRow}
    (prepares : Prepared settings (db.upsertAttester job.actor job.ts) job prepared sealUidHash facts)
    (new : NewTo prepared job sealUidHash)
    (accepted : (do
      let passport ← orRefuse (prepared.getPassport job.serial) (⟨404,"passport not found"⟩ : HttpError)
      let make := newEvent job label sealUidHash facts passport
      pure (prepared.insertEvent make (fun _ => rfl),make prepared.events.next)) = .ok (later,row)) :
    EventOutcome settings db job later row := by
  obtain ⟨passport,_,stored⟩ := bind_ok.mp accepted
  obtain ⟨rfl,rfl⟩ := Prod.mk.inj (pure_ok.mp stored)
  exact .stored label passport sealUidHash facts prepared prepares new

theorem settle_parts {settings : Settings} {db prepared later : Database} {job : EventJob} {existing row : EventRow}
    {sealUidHash : Option Bytes32} {facts : Facts}
    (prepares : Prepared settings (db.upsertAttester job.actor job.ts) job prepared sealUidHash facts)
    (found : prepared.getEvent existing.id = some existing) (unsettled : existing.status ≠ .confirmed)
    (type : existing.type = job.type) (kind : job.type = .mint ∨ job.type = .sealAttach)
    (accepted : (do
      let settled := settleExisting prepared existing facts job.txSig job.actor
      pure (settled,← orRefuse (settled.getEvent existing.id) internalError)) = .ok (later,row)) :
    EventOutcome settings db job later row := by
  obtain ⟨_,reread,stored⟩ := bind_ok.mp accepted
  rw [orRefuse_ok] at reread
  obtain ⟨rfl,rfl⟩ := Prod.mk.inj (pure_ok.mp stored)
  exact .settled existing _ sealUidHash facts prepared prepares found unsettled type kind reread

theorem eventWrite_parts {settings : Settings} {db later : Database} {job : EventJob} {row : EventRow} (knows : KnowsEvent job)
    (accepted : eventWrite settings db job = .ok (later,row)) : EventOutcome settings db job later row := by
  unfold eventWrite at accepted
  dsimp only at accepted
  split at accepted
  · rename_i dup found
    obtain ⟨rfl,rfl⟩ := Prod.mk.inj (pure_ok.mp accepted)
    split at found
    · cases found
    · have fits := List.find?_some found
      simp only [Bool.and_eq_true,beq_iff_eq] at fits
      exact .known _ _ (Database.getEvent_mem (List.mem_of_find?_eq_some found)) fits.2 (.inl rfl)
  · rename_i dup
    have unused (first : job.type ≠ .mint) (second : job.type ≠ .sealAttach) :
        db.eventForTx job.txSig job.serial job.type = none := by simpa [first,second] using dup
    split at accepted
    · rename_i brand name batch asset bindingHash mint told
      obtain ⟨_,_,accepted⟩ := bind_ok.mp accepted
      split at accepted
      · rename_i existing found
        obtain ⟨there,_,type⟩ := findEvent_some found
        rcases branch accepted with settled | fresh
        · obtain ⟨_,same⟩ := settled
          obtain ⟨rfl,rfl⟩ := Prod.mk.inj (pure_ok.mp same)
          exact .known _ _ there (type.trans mint.symm) (.inr rfl)
        · obtain ⟨unsettled,accepted⟩ := fresh
          obtain ⟨⟨minted,facts⟩,wrote,accepted⟩ := bind_ok.mp accepted
          have kept : minted.getEvent existing.id = some existing := by
            unfold Database.getEvent
            rw [(Aside.mintPassport wrote).events]
            exact there
          exact settle_parts (.minted _ brand name batch asset bindingHash facts minted mint wrote) kept unsettled
            (type.trans mint.symm) (.inl mint) accepted
      · rename_i absent
        obtain ⟨⟨minted,facts⟩,wrote,accepted⟩ := bind_ok.mp accepted
        have new : NewTo minted job job.sealUidHash := by
          unfold NewTo
          rw [mint]
          exact (findEvent_events (Aside.mintPassport wrote).events job.serial .mint none).trans absent
        exact store_parts (.minted _ brand name batch asset bindingHash facts minted mint wrote) new accepted
    · rename_i attach
      obtain ⟨_,_,accepted⟩ := bind_ok.mp accepted
      split at accepted
      · rename_i hash uid sealed named
        obtain ⟨_,own,accepted⟩ := bind_ok.mp accepted
        split at accepted
        · rename_i settled found
          obtain ⟨rfl,rfl⟩ := Prod.mk.inj (pure_ok.mp accepted)
          obtain ⟨there,_,type⟩ := findEvent_some (Option.filter_eq_some_iff.mp found).1
          exact .known _ _ there (type.trans attach.symm) (.inr rfl)
        · rename_i unconfirmed
          split at accepted
          · rename_i uidHash kind _
            obtain ⟨_,_,accepted⟩ := bind_ok.mp accepted
            obtain ⟨attached,wrote,accepted⟩ := bind_ok.mp accepted
            have wrote := sql_ok.mp wrote
            have same := upsertSeal_events wrote
            have prepares : Prepared settings (db.upsertAttester job.actor job.ts) job attached (some hash)
                (.sealAttach (some hash) (some kind.val)) := .attached hash uid kind.val attached attach (require_ok.mp own) wrote
            split at accepted
            · rename_i existing found
              obtain ⟨there,_,type⟩ := findEvent_some found
              have kept : attached.getEvent existing.id = some existing := by
                unfold Database.getEvent
                rw [same]
                exact there
              have unsettled : existing.status ≠ .confirmed := by
                intro settled
                simp [found,settled,Option.filter] at unconfirmed
              exact settle_parts prepares kept unsettled (type.trans attach.symm) (.inr attach) accepted
            · rename_i absent
              have new : NewTo attached job (some hash) := by
                unfold NewTo
                rw [attach]
                exact ⟨rfl,(findEvent_events same job.serial .sealAttach (some hash)).trans absent⟩
              exact store_parts prepares new accepted
          · cases accepted
      · cases accepted
    · rename_i dead
      obtain ⟨_,_,accepted⟩ := bind_ok.mp accepted
      refine store_parts (.dead _ dead) ?_ accepted
      unfold NewTo
      rw [dead]
      refine (eventForTx_events (applySealDead_events _ _ _) _ _ _).trans ?_
      exact dead ▸ unused (by simp [dead]) (by simp [dead])
    · rename_i noAttach _ noMint
      obtain ⟨_,_,accepted⟩ := bind_ok.mp accepted
      have notMint : job.type ≠ .mint := by
        intro mint
        obtain ⟨brand,name,batch,asset,bindingHash,facts⟩ := knows.mint mint
        exact noMint brand name batch asset bindingHash mint facts
      have new (known : Database) (same : known.events = db.events) : NewTo known job job.sealUidHash := by
        have fresh := (eventForTx_events same job.txSig job.serial job.type).trans (unused notMint noAttach)
        unfold NewTo
        split
        · rename_i mint
          exact absurd mint notMint
        · rename_i attach
          exact absurd attach noAttach
        · exact fresh
      rcases branch accepted with outcome | plain
      · obtain ⟨type,accepted⟩ := outcome
        obtain ⟨recorded,wrote,accepted⟩ := bind_ok.mp accepted
        have wrote := sql_ok.mp wrote
        exact store_parts (.recorded recorded type wrote) (new recorded (Aside.recordOutcome wrote).events) accepted
      · exact store_parts (.plain ⟨notMint,noAttach⟩) (new _ rfl) plain.2

theorem Prepared.edits {settings : Settings} {db later : Database} {job : EventJob} {sealUidHash : Option Bytes32} {facts : Facts}
    (prepares : Prepared settings db job later sealUidHash facts) : Edits settings .request db later := by
  cases prepares with
  | minted label brand name batch asset bindingHash _ _ _ wrote => exact .aside (Aside.mintPassport wrote)
  | attached hash uid kind _ _ own wrote => exact .one (.attached hash uid job.serial kind job.ts later own wrote)
  | dead => exact applySealDead_edits settings _ db job.serial _
  | recorded _ _ wrote => exact .aside (Aside.recordOutcome wrote)
  | plain => exact .refl

theorem eventWrite_edits {settings : Settings} {db later : Database} {job : EventJob} {row : EventRow} (knows : KnowsEvent job)
    (accepted : eventWrite settings db job = .ok (later,row)) : Edits settings .request db later := by
  have start : Edits settings .request db (db.upsertAttester job.actor job.ts) := .aside (Aside.upsertAttester db job.actor job.ts)
  cases eventWrite_parts knows accepted with
  | known _ _ _ _ same =>
    rcases same with same | same
    · exact same ▸ .refl
    · exact same ▸ start
  | stored label passport sealUidHash facts prepared prepares new =>
    exact start.trans (prepares.edits.trans (Edits.one (.backed job label sealUidHash facts passport knows.kind new)))
  | settled existing _ sealUidHash facts prepared prepares found unsettled type kind =>
    exact start.trans (prepares.edits.trans (Edits.one (.settled existing facts job.txSig job.actor found unsettled (type ▸ kind))))

theorem confirmWrite_edits {settings : Settings} {db later : Database} {job : ConfirmJob} {now : I64} {row : EventRow}
    (knows : KnowsConfirm db job) (accepted : confirmWrite settings db job now = .ok (later,row)) :
    Edits settings (.confirm job.eventId) db later := by
  obtain ⟨current,found,outcome⟩ := confirmWrite_parts accepted
  cases outcome with
  | filled status bare => exact .one (.filled job current rfl knows found status bare)
  | kept => exact .refl
  | repaired status _ chosen => exact .one (.repaired job current knows found status chosen)
  | posted unsettled => exact .one (.posted job current now knows found unsettled)

theorem applyWork_edits {settings : Settings} {ts : Int} {db later : Database} {item : WorkItem} (knows : KnowsItem db item)
    (accepted : applyWork settings ts db item = .ok later) : Edits settings (.cycle ts) db later := by
  unfold applyWork at accepted
  split at accepted
  · cases accepted
    exact .refl
  · rename_i current matched
    obtain ⟨found,status⟩ := Option.filter_eq_some_iff.mp matched
    have status : current.status = item.event.status := by simpa using status
    have unsettled := knows.open status
    have body := knows.body found unsettled
    split at accepted
    · rename_i acct proof
      exact .one (.reconciled item acct ts current later knows found status proof accepted)
    · rcases branch accepted with failed | pending
      · cases failed.2
        exact .refl
      · obtain ⟨notFailed,accepted⟩ := pending
        have waiting : current.status = .pending := status.trans (knows.unsettled.resolve_right notFailed)
        rcases branch accepted with late | early
        · obtain ⟨late,done⟩ := late
          cases done
          exact .one (.timedOut item.event.id _ current found waiting body.symm ⟨ts,rfl,(knows.follows current found).ts ▸ late⟩)
        · rcases branch early.2 with ignored | quiet
          · cases ignored.2
            exact .one (.noted item.event.id _ current found unsettled body.symm)
          · cases quiet.2
            exact .refl

theorem work_edits {settings : Settings} {ts : Int} {work : List WorkItem} {db later : Database}
    (knows : ∀ item ∈ work, KnowsItem db item) (accepted : work.foldlM (applyWork settings ts) db = .ok later) :
    Edits settings (.cycle ts) db later := by
  induction work generalizing db with
  | nil => exact pure_ok.mp accepted ▸ .refl
  | cons item rest ih =>
    rw [List.foldlM_cons] at accepted
    obtain ⟨middle,first,accepted⟩ := bind_ok.mp accepted
    have step := applyWork_edits (knows item List.mem_cons_self) first
    have kept := edits_kept step
    exact step.trans (ih (fun other inside => (knows other (List.mem_cons_of_mem item inside)).kept kept) accepted)

-- An event in a list of stale ones is still the same pending row, unless the list failed it before.
theorem failStale_edits (settings : Settings) (ts : Int) (stale : List EventRow) {db : Database}
    (rows : ∀ event ∈ stale, db.getEvent event.id = some event ∧ event.status = .pending ∧
      ts-event.ts > settings.reconcileTimeout) (distinct : (stale.map (·.id)).Nodup) :
    Edits settings (.cycle ts) db (stale.foldl (failStale settings ts) db) := by
  induction stale generalizing db with
  | nil => exact .refl
  | cons event rest ih =>
    obtain ⟨found,pending,late⟩ := rows event List.mem_cons_self
    simp only [List.map_cons,List.nodup_cons,List.mem_map,not_exists,not_and] at distinct
    have step : Edit settings (.cycle ts) db (failStale settings ts db event) :=
      .timedOut event.id _ event found pending rfl ⟨ts,rfl,late⟩
    refine (Edits.one step).trans (ih ?_ distinct.2)
    intro other inside
    obtain ⟨found',pending',late'⟩ := rows other (List.mem_cons_of_mem event inside)
    refine ⟨?_,pending',late'⟩
    unfold failStale
    rw [getEvent_failPending,if_neg (distinct.1 other inside)]
    exact found'

theorem foldl_edits {settings : Settings} {cause : Cause} {α : Type} {step : Database → α → Database}
    (each : ∀ db value, Edits settings cause db (step db value)) (values : List α) (db : Database) :
    Edits settings cause db (values.foldl step db) := by
  induction values generalizing db with
  | nil => exact .refl
  | cons first rest ih => exact (each db first).trans (ih (step db first))

-- A cycle between its work and its orders.
def cycleRest (settings : Settings) (job : ReconcileJob) (worked : Database) : Database :=
  let ts := job.ts.val
  let failed := (worked.stalePendingEvents (ts-settings.reconcileTimeout)).foldl (failStale settings ts) worked
  refreshRegistry settings ts (job.seals.foldl (refreshSeal settings) (job.passports.foldl (refreshPassport settings) failed)) job.registry

theorem reconcileWrite_worked {settings : Settings} {db worked : Database} {job : ReconcileJob}
    (works : job.work.foldlM (applyWork settings job.ts.val) db = .ok worked) :
    reconcileWrite settings db job = refreshOrders settings job.ts.val (cycleRest settings job worked) job.orders := by
  unfold reconcileWrite
  dsimp only
  rw [works,ok_bind]
  rfl

theorem cycleRest_edits {settings : Settings} {worked later : Database} {job : ReconcileJob}
    (accepted : refreshOrders settings job.ts.val (cycleRest settings job worked) job.orders = .ok later) :
    Edits settings (.cycle job.ts.val) worked later := by
  refine (failStale_edits settings job.ts.val (worked.stalePendingEvents (job.ts.val-settings.reconcileTimeout)) ?_ ?_).trans ?_
  · intro event selected
    obtain ⟨present,chosen⟩ := List.mem_filter.mp selected
    simp only [Bool.and_eq_true,beq_iff_eq,decide_eq_true_eq] at chosen
    exact ⟨Database.getEvent_mem present,chosen.1.1,by omega⟩
  · exact (List.filter_sublist.map _).nodup worked.events.table.unique
  refine (foldl_edits (fun db entry => Edits.aside (Aside.refreshPassport settings db entry)) job.passports _).trans ?_
  refine (foldl_edits (fun _ entry => Edits.one (.refreshed entry)) job.seals _).trans ?_
  exact (Edits.aside (Aside.refreshRegistry settings job.ts.val _ job.registry)).trans
    (Edits.aside (Aside.refreshOrders accepted))

theorem reconcileWrite_edits {settings : Settings} {db later : Database} {job : ReconcileJob}
    (knows : ∀ item ∈ job.work, KnowsItem db item) (accepted : reconcileWrite settings db job = .ok later) :
    Edits settings (.cycle job.ts.val) db later := by
  cases works : job.work.foldlM (applyWork settings job.ts.val) db with
  | error error =>
    unfold reconcileWrite at accepted
    dsimp only at accepted
    rw [works,error_bind] at accepted
    cases accepted
  | ok worked =>
    rw [reconcileWrite_worked works] at accepted
    exact (work_edits knows works).trans (cycleRest_edits accepted)

end FlaconVault.Verifier
