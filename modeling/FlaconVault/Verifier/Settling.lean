import FlaconVault.Verifier.Credits
import FlaconVault.Verifier.Soundness
namespace FlaconVault.Verifier
open Guards

-- The status of an event over a run: confirmed is final, and failed has its cause.

inductive Moves (settings : Settings) (cause : Cause) (row later : EventRow) : Prop
  | settled (before : row.status = .confirmed) (after : later.status = .confirmed) (actor : later.actor = row.actor)
      (body : later.payload.body = row.payload.body) (txSig : ∀ signature, row.txSig = some signature → later.txSig = some signature)
  | confirmed (before : row.status ≠ .confirmed) (after : later.status = .confirmed)
  | failed (before : row.status = .pending) (after : later.status = .failed)
      (reason : (∃ txSig, cause = .failure row.id txSig) ∨ ∃ ts, cause = .cycle ts ∧ ts-row.ts > settings.reconcileTimeout)
  | waiting (before : row.status ≠ .confirmed) (after : later.status = row.status)

theorem Moves.refl (settings : Settings) (cause : Cause) (row : EventRow) : Moves settings cause row row := by
  by_cases confirmed : row.status = .confirmed
  · exact .settled confirmed confirmed rfl rfl fun _ same => same
  · exact .waiting confirmed rfl

theorem Moves.trans {settings : Settings} {cause : Cause} {row middle later : EventRow} (first : Moves settings cause row middle)
    (follows : Follows row middle) (second : Moves settings cause middle later) : Moves settings cause row later := by
  cases first with
  | settled before after actor body txSig =>
    cases second with
    | settled _ after' actor' body' txSig' =>
      exact .settled before after' (actor'.trans actor) (body'.trans body) fun signature same => txSig' signature (txSig signature same)
    | confirmed open_middle => exact absurd after open_middle
    | failed pending => exact absurd (after.symm.trans pending) (by simp)
    | waiting open_middle => exact absurd after open_middle
  | confirmed before after =>
    cases second with
    | settled _ after' => exact .confirmed before after'
    | confirmed open_middle => exact absurd after open_middle
    | failed pending => exact absurd (after.symm.trans pending) (by simp)
    | waiting open_middle => exact absurd after open_middle
  | failed before after reason =>
    cases second with
    | settled confirmed => exact absurd (after.symm.trans confirmed) (by simp)
    | confirmed _ after' => exact .confirmed (by simp [before]) after'
    | failed pending => exact absurd (after.symm.trans pending) (by simp)
    | waiting _ same => exact .failed before (same.trans after) reason
  | waiting before after =>
    cases second with
    | settled confirmed => exact absurd (after.symm.trans confirmed) before
    | confirmed _ after' => exact .confirmed before after'
    | failed pending after' reason => exact .failed (after.symm.trans pending) after' (follows.id ▸ follows.ts ▸ reason)
    | waiting _ same => exact .waiting before (same.trans after)

-- The row a change, a confirmation or an insert leaves under an older number.
theorem moves_of_change {settings : Settings} {cause : Cause} {db later : Database} {id other : ℕ} {change : EventRow → EventRow}
    {row row' : EventRow} (rows : later.getEvent other = if other = id then (db.getEvent other).map change else db.getEvent other)
    (found : db.getEvent other = some row) (found' : later.getEvent other = some row')
    (moves : other = id → Moves settings cause row (change row)) : Moves settings cause row row' := by
  rw [rows,found] at found'
  split at found'
  · rename_i here
    exact Option.some.inj found' ▸ moves here
  · exact Option.some.inj found' ▸ .refl settings cause row

theorem moves_of_confirm {settings : Settings} {cause : Cause} {db later : Database} {id other : ℕ} {final : EventRow}
    {gone : EventRow → Bool} {row row' : EventRow}
    (rows : later.getEvent other = if other = id then some final else (db.getEvent other).filter (!gone ·))
    (found : db.getEvent other = some row) (found' : later.getEvent other = some row')
    (moves : other = id → Moves settings cause row final) : Moves settings cause row row' := by
  rw [rows,found] at found'
  split at found'
  · rename_i here
    exact Option.some.inj found' ▸ moves here
  · exact (Option.some.inj (Option.filter_eq_some_iff.mp found').1) ▸ .refl settings cause row

theorem edit_moves {settings : Settings} {cause : Cause} {db later : Database} (shapes : Shapes db) (edit : Edit settings cause db later)
    {id : ℕ} {row row' : EventRow} (found : db.getEvent id = some row) (found' : later.getEvent id = some row') :
    Moves settings cause row row' := by
  have of_events (same : later.events = db.events) : Moves settings cause row row' := by
    unfold Database.getEvent at found found'
    rw [same,found] at found'
    exact Option.some.inj found' ▸ .refl settings cause row
  cases edit with
  | aside _ rest => exact of_events rest.events
  | attached uidHash uid serial kind attachedAt _ own accepted => exact of_events (upsertSeal_events accepted)
  | sealDead uidHash => exact of_events rfl
  | refreshed entry => exact of_events (refreshSeal_events settings db entry)
  | backed job label sealUidHash facts passport kind new =>
    rw [Database.getEvent_insert (newEvent job label sealUidHash facts passport) fun _ => rfl,
      if_neg (Database.getEvent_below found).ne,found] at found'
    exact Option.some.inj found' ▸ .refl settings cause row
  | settled existing facts txSig actor there unsettled kind =>
    rcases (shapes _ _ there).unsettled unsettled with signed | report
    · obtain ⟨_,scan,_⟩ := signed
      simp [scan] at kind
    · simp [report.1] at kind
  | filled job current by_id knows there status bare =>
    refine moves_of_change (Database.getEvent_update job.eventId id job.fill job.fill_id) found found' ?_
    intro here
    subst here
    have same : row = current := Option.some.inj (found.symm.trans there)
    subst same
    have actor : (job.fill row).actor = row.actor := by
      unfold ConfirmJob.fill
      dsimp only
      split <;> rfl
    exact .settled status ((fill_follows job status).settled status) actor (fill_body job row) fun _ signed => by simp [bare] at signed
  | repaired job current knows there status chosen => simp [(shapes _ _ there).not_chosen] at chosen
  | posted job current now knows there unsettled =>
    obtain ⟨final,becomes,rows⟩ := posted_rows settings there (knows.type current there) now
    refine moves_of_confirm (rows id) found found' ?_
    intro here
    subst here
    have same : row = current := Option.some.inj (found.symm.trans there)
    exact .confirmed (same ▸ unsettled) becomes.status
  | failed eventId txSig own =>
    refine moves_of_change (getEvent_failWrite db eventId id txSig) found found' ?_
    intro here
    have named : row.id = id := (Database.getEvent_some.mp found).2
    unfold failedRow
    split
    · rename_i pending
      exact .failed pending rfl (.inl ⟨txSig,by rw [own,named,here]⟩)
    · exact .refl settings cause row
  | reconciled item acct ts current _ knows there status proof accepted =>
    have kind : current.type = .scan := (knows.follows current there).type.trans knows.type
    obtain ⟨_,final,becomes,rows⟩ := reconciled_rows there kind (knows.body there (knows.open status)) accepted
    refine moves_of_confirm (rows id) found found' ?_
    intro here
    subst here
    have same : row = current := Option.some.inj (found.symm.trans there)
    exact .confirmed (same ▸ knows.open status) becomes.status
  | timedOut number payload current there pending body late =>
    refine moves_of_change (getEvent_failPending db number id payload) found found' ?_
    intro here
    subst here
    have same : row = current := Option.some.inj (found.symm.trans there)
    subst same
    exact .failed pending (by simp [timedOutRow,pending]) (.inr late)
  | noted number payload current there unsettled body =>
    refine moves_of_change (Database.getEvent_update number id (fun row => {row with payload := payload}) fun _ => rfl) found found' ?_
    intro here
    subst here
    have same : row = current := Option.some.inj (found.symm.trans there)
    exact .waiting (same ▸ unsettled) rfl

theorem edits_moves {settings : Settings} {cause : Cause} {db later : Database} (shapes : Shapes db)
    (edits : Edits settings cause db later) {id : ℕ} {row row' : EventRow} (found : db.getEvent id = some row)
    (found' : later.getEvent id = some row') : Moves settings cause row row' := by
  induction edits generalizing row' with
  | refl =>
    rw [found] at found'
    exact Option.some.inj found' ▸ .refl settings cause row
  | tail before edit ih =>
    have kept := edits_kept before
    obtain ⟨middle,there,_⟩ := (edit_kept edit).rows id row' ((Database.getEvent_below found).trans_le kept.next) found'
    obtain ⟨row₀,found₀,follows⟩ := kept.rows id middle (Database.getEvent_below found) there
    have same : row₀ = row := Option.some.inj (found₀.symm.trans found)
    exact (ih there).trans (same ▸ follows) (edit_moves (edits_shapes shapes before) edit there found')

theorem Grows.moves {db later : Database} (grows : Grows db later) {id : ℕ} {row row' : EventRow} (found : db.getEvent id = some row)
    (found' : later.getEvent id = some row') : row' = row := by
  cases grows with
  | same rest =>
    unfold Database.getEvent at found found'
    rw [rest.events,found] at found'
    exact (Option.some.inj found').symm
  | row known make named before after =>
    have found' : (known.insertEvent make named).getEvent id = some row' := by
      unfold Database.getEvent at found' ⊢
      rwa [after.events] at found'
    rw [Database.getEvent_insert,before.events,if_neg (Database.getEvent_below found).ne] at found'
    unfold Database.getEvent at found found'
    rw [before.events,found] at found'
    exact (Option.some.inj found').symm

theorem Grows.credited {db later : Database} (grows : Grows db later) (credited : Credited db) : Credited later := by
  have of_quiet {known after : Database} (held : Credited known) (quiet : Quiet known after) : Credited after :=
    held.of_same quiet.events quiet.applied (Database.scanCredit_attesters quiet.attesters)
  cases grows with
  | same rest => exact of_quiet credited rest
  | row known make named before after _ _ uncounted =>
    refine of_quiet ((of_quiet credited before).of_insert make named ?_) after
    rw [before.events]
    exact uncounted

theorem edits_credited {settings : Settings} {cause : Cause} {db later : Database} (shapes : Shapes db) (credited : Credited db)
    (edits : Edits settings cause db later) : Credited later := by
  induction edits with
  | refl => exact credited
  | tail before edit ih => exact edit_credited (edits_shapes shapes before) ih edit

-- The list of applied confirmations only grows.
theorem edit_applied {settings : Settings} {cause : Cause} {db later : Database} (edit : Edit settings cause db later) :
    db.applied <+: later.applied := by
  cases edit with
  | aside _ rest => exact rest.applied ▸ List.prefix_rfl
  | attached uidHash uid serial kind attachedAt _ own accepted =>
    obtain ⟨seals,same⟩ := upsertSeal_only accepted
    rw [same]
  | refreshed entry =>
    obtain ⟨seals,same⟩ := refreshSeal_only settings db entry
    rw [same]
  | posted job current now =>
    rw [effects_applied]
    exact List.prefix_append _ _
  | reconciled item acct ts current _ knows found status proof accepted =>
    obtain ⟨label,mismatch,same⟩ := confirmScan_parts found accepted
    obtain ⟨_,_,_,applied,_⟩ := Database.applyConfirmedScan_only (db.updateEvent item.event.id (item.confirm acct label ts)
      (item.confirm_id acct label ts)) (item.confirm acct label ts current) (some acct.attester) ts (some (acctValues acct mismatch))
    rw [same,applied]
    exact List.prefix_append _ _
  | _ => exact List.prefix_rfl

theorem edits_applied {settings : Settings} {cause : Cause} {db later : Database} (edits : Edits settings cause db later) :
    db.applied <+: later.applied := by
  induction edits with
  | refl => exact List.prefix_rfl
  | tail _ edit ih => exact ih.trans (edit_applied edit)

theorem Grows.applied {db later : Database} (grows : Grows db later) : later.applied = db.applied := by
  cases grows with
  | same rest => exact rest.applied
  | row known make named before after => exact after.applied.trans before.applied

-- A transaction of the claimed attester that failed: it signed, and a record_scan of it names the scan's seal and proof.
structure OwnFailure (settings : Settings) (row : EventRow) (attester : Pubkey) (res : TxResult) : Prop where
  failed : res.err.isSome
  signs : attester ∈ (parseTransaction res).signers
  carries : ∃ ix ∈ (parseTransaction res).instructions, ∃ sealUidHash counter, ix.program = settings.programId ∧
    ix.program.isSome ∧ ix.data.take 8 = ixDisc .recordScan ∧ row.sealUidHash = some sealUidHash ∧ row.payload.counter = some counter ∧
    ix.accountAt .recordScan .sealAccount = some (.sealOf sealUidHash) ∧
    ix.accountAt .recordScan .scan = some (.scan (.sealOf sealUidHash) (Fin.ofNat (2^32) counter))

theorem bindOrder_direct {settings : Settings} {exp : Expectation} {tx : ParsedTx} {reads : ChainReads} {name : IxName}
    {ix : Instruction} (direct : exp.escrow = false) : bindOrder settings exp tx reads name ix = .ok (some (none,none,[])) := by
  unfold bindOrder
  rw [if_pos direct]

theorem findInstruction_failed {settings : Settings} {exp : Expectation} {tx : ParsedTx} {reads : ChainReads}
    {signature : Signature} {actor : Pubkey} {instructions : List Instruction} (direct : exp.escrow = false)
    (refused : findInstruction settings exp tx reads signature actor instructions = .error txFailed) :
    tx.err.isSome ∧ ∃ ix ∈ instructions, ∃ name, candidate settings exp actor ix = some name := by
  induction instructions with
  | nil =>
    unfold findInstruction at refused
    exact absurd (Except.error.inj refused) (by decide)
  | cons ix rest ih =>
    unfold findInstruction at refused
    split at refused
    · obtain ⟨failed,other,inside,named⟩ := ih refused
      exact ⟨failed,other,List.mem_cons_of_mem ix inside,named⟩
    · rename_i name chosen
      rw [bindOrder_direct direct] at refused
      rcases branch refused with failed | passed
      · exact ⟨failed.1,ix,List.mem_cons_self,name,chosen⟩
      · cases passed.2

theorem verifyTransaction_failed {settings : Settings} {reads : ChainReads} {signature : Signature} {actor : Pubkey}
    {exp : Expectation} (direct : exp.escrow = false)
    (refused : verifyTransaction settings reads signature actor exp = .error txFailed) :
    ∃ res, reads.transaction = .ok res ∧ res.err.isSome ∧ actor ∈ (parseTransaction res).signers ∧
      ∃ ix ∈ (parseTransaction res).instructions, ∃ name, candidate settings exp actor ix = some name := by
  unfold verifyTransaction at refused
  cases answered : reads.transaction with
  | error refusal =>
    rw [answered] at refused
    have same : refusal.error = txFailed := Except.error.inj refused
    cases refusal <;> exact absurd same (by decide)
  | ok res =>
    rw [answered] at refused
    simp only [Except.mapError,ok_bind] at refused
    unfold require at refused
    by_cases named : (parseTransaction res).signatures = [] ∨ signature ∈ (parseTransaction res).signatures
    · rw [if_pos named,ok_bind] at refused
      by_cases signs : actor ∈ (parseTransaction res).signers
      · rw [if_pos signs,ok_bind] at refused
        obtain ⟨failed,ix,inside,name,chosen⟩ := findInstruction_failed direct refused
        exact ⟨res,rfl,failed,signs,ix,inside,name,chosen⟩
      · rw [if_neg signs] at refused
        exact absurd (Except.error.inj refused) (by decide)
    · rw [if_neg named] at refused
      exact absurd (Except.error.inj refused) (by decide)

theorem scan_failure {settings : Settings} {db : Database} {event : EventRow} {exp : Expectation} {reads : ChainReads}
    {signature : Signature} {actor : Pubkey} {sealUidHash : Bytes32} {counter : ℕ} (sealed : event.sealUidHash = some sealUidHash)
    (counted : event.payload.counter = some counter)
    (expected : expectation settings db .scan event.serial event.sealUidHash event.payload.counter = .ok exp)
    (refused : verifyTransaction settings reads signature actor exp = .error txFailed) :
    ∃ res, reads.transaction = .ok res ∧ OwnFailure settings event actor res := by
  rw [sealed,counted] at expected
  unfold expectation at expected
  obtain ⟨program,configured,expected⟩ := bind_ok.mp expected
  rw [orRefuse_ok] at configured
  cases pure_ok.mp expected
  obtain ⟨res,answered,failed,signs,ix,inside,name,chosen⟩ := verifyTransaction_failed rfl refused
  refine ⟨res,answered,failed,signs,ix,inside,sealUidHash,counter,?_⟩
  obtain ⟨named,placed,_⟩ := candidate_some chosen
  obtain ⟨runs,accepted,disc⟩ := named_some named
  have record : name = .recordScan := List.mem_singleton.mp accepted
  subst record
  obtain ⟨_,direct,_⟩ := positions_ok placed
  obtain ⟨onSeal,onScan⟩ := direct rfl
  exact ⟨by rw [runs,configured],by simp [runs],disc,sealed,counted,onSeal _ rfl,onScan _ rfl⟩

-- The life of an event in a run of the verifier: confirmed is final; every confirmed scan was applied exactly once and
-- counts once for its attester; and before its deadline only a failed transaction of its claimed attester fails a scan.
structure ConfirmedOnce (settings : Settings) (run : Run) : Prop where
  absorbing : ∀ m n id row later, m ≤ n → (run.db settings m).getEvent id = some row → row.status = .confirmed →
    (run.db settings n).getEvent id = some later → later.status = .confirmed ∧ later.actor = row.actor ∧
      later.payload.body = row.payload.body ∧ ∀ signature, row.txSig = some signature → later.txSig = some signature
  present : ∀ m n id row, m ≤ n → (run.db settings m).getEvent id = some row → row.confirmedScan = true →
    ∃ later, (run.db settings n).getEvent id = some later ∧ later.confirmedScan = true
  once : ∀ n, (run.db settings n).applied.Nodup ∧ (run.db settings n).applied <+: (run.db settings (n+1)).applied
  applied : ∀ n id, id ∈ (run.db settings n).applied ↔ ∃ row, (run.db settings n).getEvent id = some row ∧ row.confirmedScan = true
  credits : ∀ n key, (run.db settings n).scanCredit key = (run.db settings n).counted key
  failed : ∀ n id row later attester, (run.db settings n).getEvent id = some row → row.status = .pending → row.type = .scan →
    row.payload.claimed = some attester → (run.db settings (n+1)).getEvent id = some later → later.status = .failed →
    (∃ index now job, run.actions n = .finish index now ∧ (run.server settings n).jobs[index]? = some (.reconcile job) ∧
      job.ts.val-row.ts > settings.reconcileTimeout) ∨
    ∃ m < n, ∃ body reads res, run.actions m = .confirm body id reads ∧ reads.transaction = .ok res ∧
      OwnFailure settings row attester res

namespace Run
variable (settings : Settings) (run : Run)

theorem credited (n : ℕ) : Credited (run.db settings n) := by
  induction n with
  | zero =>
    have start : run.db settings 0 = .empty := rfl
    exact ⟨List.nodup_nil,fun id => by simp [Database.getEvent,start,Database.empty,Log.get,Log.empty],fun _ => rfl⟩
  | succ n ih =>
    rcases changes_grows (run.changes settings n) with finished | grows
    · obtain ⟨_,_,_,_,_,edits⟩ := finished
      exact edits_credited (run.shapes settings n) ih edits
    · exact grows.credited ih

theorem applied_grows (n : ℕ) : (run.db settings n).applied <+: (run.db settings (n+1)).applied := by
  rcases changes_grows (run.changes settings n) with finished | grows
  · obtain ⟨_,_,_,_,_,edits⟩ := finished
    exact edits_applied edits
  · exact grows.applied ▸ List.prefix_rfl

theorem step_moves {n id : ℕ} {row later : EventRow} (found : (run.db settings n).getEvent id = some row)
    (found' : (run.db settings (n+1)).getEvent id = some later) : ∃ cause, Moves settings cause row later ∧
      (later = row ∨ ∃ index now job, run.actions n = .finish index now ∧ (run.server settings n).jobs[index]? = some job ∧
        cause = job.cause) := by
  rcases changes_grows (run.changes settings n) with finished | grows
  · obtain ⟨index,now,job,action,there,edits⟩ := finished
    exact ⟨job.cause,edits_moves (run.shapes settings n) edits found found',.inr ⟨index,now,job,action,there,rfl⟩⟩
  · have same := grows.moves found found'
    exact ⟨.request,same ▸ .refl settings .request later,.inl same⟩

theorem settled_final {m n id : ℕ} {row later : EventRow} (ordered : m ≤ n) (found : (run.db settings m).getEvent id = some row)
    (settled : row.status = .confirmed) (found' : (run.db settings n).getEvent id = some later) :
    later.status = .confirmed ∧ later.actor = row.actor ∧ later.payload.body = row.payload.body ∧
      ∀ signature, row.txSig = some signature → later.txSig = some signature := by
  induction n, ordered using Nat.le_induction generalizing later with
  | base =>
    rw [found] at found'
    cases Option.some.inj found'
    exact ⟨settled,rfl,rfl,fun _ same => same⟩
  | succ n ordered ih =>
    have old := (Database.getEvent_below found).trans_le (run.kept settings ordered).next
    obtain ⟨middle,there,_⟩ := (run.kept settings (Nat.le_succ n)).rows id later old found'
    obtain ⟨confirmed,actor,body,signed⟩ := ih there
    obtain ⟨cause,moves,_⟩ := run.step_moves settings there found'
    cases moves with
    | settled _ after actor' body' signed' =>
      exact ⟨after,actor'.trans actor,body'.trans body,fun signature same => signed' signature (signed signature same)⟩
    | confirmed unsettled => exact absurd confirmed unsettled
    | failed pending => exact absurd (confirmed.symm.trans pending) (by simp)
    | waiting unsettled => exact absurd confirmed unsettled

-- The failure that a confirmation saw was its scan's own.
theorem own_failure {m : ℕ} {event row : EventRow} {attester actor : Pubkey} {exp : Expectation} {reads : ChainReads}
    {signature : Signature} (there : (run.db settings m).getEvent event.id = some event) (follows : Follows event row)
    (unsettled : row.status ≠ .confirmed) (claimed : row.payload.claimed = some attester) (own : event.expected = some actor)
    (expected : expectation settings (run.db settings m) .scan event.serial event.sealUidHash event.payload.counter = .ok exp)
    (refused : verifyTransaction settings reads signature actor exp = .error txFailed) :
    ∃ res, reads.transaction = .ok res ∧ OwnFailure settings row attester res := by
  obtain ⟨body,sealed,_⟩ := follows.unsettled unsettled
  have waiting : event.status ≠ .confirmed := fun settled => unsettled (follows.settled settled)
  rcases (run.shapes settings m _ _ there).unsettled waiting with signed | report
  · obtain ⟨scan,kind,signed,sealed',_,_,alone⟩ := signed
    obtain ⟨sealUidHash,hash⟩ := Option.isSome_iff_exists.mp sealed'
    have counted : event.payload.counter = some scan.bundle.counter := by
      unfold Payload.counter
      rw [Payload.body_of_signed signed]
    obtain ⟨res,answered,failure⟩ := scan_failure hash counted expected refused
    have same : actor = attester := by
      unfold EventRow.expected at own
      rw [alone,if_pos kind] at own
      have claims : event.payload.claimed = row.payload.claimed := by
        unfold Payload.claimed Payload.signedScan
        rw [body]
      exact Option.some.inj (own.symm.trans (claims.trans claimed))
    subst same
    have counts : row.payload.counter = event.payload.counter := by
      unfold Payload.counter
      rw [body]
    obtain ⟨ix,inside,sealUidHash',counter',runs,some_program,disc,hash',counted',rest⟩ := failure.carries
    exact ⟨res,answered,failure.failed,failure.signs,ix,inside,sealUidHash',counter',runs,some_program,disc,sealed.trans hash',
      counts.trans counted',rest⟩
  · obtain ⟨_,_,source,note,reportedBy,written⟩ := report
    have unclaimed : row.payload.claimed = none := by
      unfold Payload.claimed Payload.signedScan
      rw [body,written]
      rfl
    exact absurd (unclaimed.symm.trans claimed) (by simp)

end Run

theorem scan_confirmed_once (settings : Settings) (run : Run) : ConfirmedOnce settings run where
  absorbing m n id row later ordered found settled found' := run.settled_final settings ordered found settled found'
  present m n id row ordered found counted := by
    have grown : (run.db settings m).applied <+: (run.db settings n).applied := by
      induction n, ordered using Nat.le_induction with
      | base => exact List.prefix_rfl
      | succ n _ ih => exact ih.trans (run.applied_grows settings n)
    have before := ((run.credited settings m).applied id).mpr ⟨row,found,counted⟩
    exact ((run.credited settings n).applied id).mp (grown.subset before)
  once n := ⟨(run.credited settings n).once,run.applied_grows settings n⟩
  applied n id := (run.credited settings n).applied id
  credits n key := (run.credited settings n).credits key
  failed n id row later attester found pending scan claimed found' failed := by
    obtain ⟨cause,moves,origin⟩ := run.step_moves settings found found'
    cases moves with
    | settled before => exact absurd (pending.symm.trans before) (by simp)
    | confirmed _ after => exact absurd (failed.symm.trans after) (by simp)
    | waiting _ after => exact absurd (failed.symm.trans (after.trans pending)) (by simp)
    | failed _ _ reason =>
      have named : row.id = id := (Database.getEvent_some.mp found).2
      rcases origin with same | finished
      · exact absurd (failed.symm.trans (same ▸ pending)) (by simp)
      · obtain ⟨index,now,job,action,there,caused⟩ := finished
        subst caused
        cases job with
        | event job => simp [Job.cause] at reason
        | confirm job => simp [Job.cause] at reason
        | reconcile job =>
          left
          simp only [Job.cause,reduceCtorEq,exists_false,false_or,Cause.cycle.injEq] at reason
          obtain ⟨ts,same,late⟩ := reason
          exact ⟨index,now,job,action,there,same ▸ late⟩
        | fail eventId txSig =>
          right
          simp only [Job.cause,reduceCtorEq,false_and,exists_false,or_false,Cause.failure.injEq] at reason
          obtain ⟨_,same,_⟩ := reason
          obtain ⟨m,before,begun⟩ := run.origin (List.mem_of_getElem? there)
          generalize action_is : run.actions m = request at begun
          cases begun with
          | fail body asked reads _ _ read =>
            obtain ⟨event,stood,parts⟩ := confirmRead_parts read
            have asked_is : event.id = asked := (Database.getEvent_some.mp stood).2
            cases parts with
            | fail _ actor exp sent scan own expected refused =>
              have here : asked = id := asked_is.symm.trans (same.trans named)
              subst here
              have unsettled : row.status ≠ .confirmed := by simp [pending]
              obtain ⟨event',there',follows⟩ := (run.kept settings before.le).rows asked row (Database.getEvent_below stood) found
              have this : event' = event := Option.some.inj (there'.symm.trans stood)
              subst this
              obtain ⟨res,answered,failure⟩ := run.own_failure settings (asked_is.symm ▸ stood) follows unsettled claimed own expected refused
              exact ⟨m,before,body,reads,res,action_is,answered,failure⟩

end FlaconVault.Verifier
