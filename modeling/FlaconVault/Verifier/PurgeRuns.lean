import FlaconVault.Verifier.PurgeLaw
import FlaconVault.Verifier.Sightings
namespace FlaconVault.Verifier

theorem plan_covers {file : SeedFile} {world : SeedWorld} (reads : ClusterReads) {id : ℕ} (flag : world.seeded id = true)
    (unchained : (markOf world.marks id).fromChain = false) (there : (world.db.getEvent id).isSome = true) :
    id ∈ (world.plan file reads).delete ∨ id ∈ (world.plan file reads).keep := by
  obtain ⟨row,found⟩ := Option.isSome_iff_exists.mp there
  obtain ⟨inside,named⟩ := Database.getEvent_some.mp found
  have candidate : row ∈ world.seedCandidates file := by
    unfold SeedWorld.seedCandidates
    refine List.mem_filter.mpr ⟨List.mem_filter.mpr ⟨inside,?_⟩,?_⟩
    · rw [named,unchained]
      rfl
    · simp [named,flag]
  by_cases kept : world.keeps file reads row = true
  · exact .inr (List.mem_map.mpr ⟨row,List.mem_filter.mpr ⟨candidate,kept⟩,named⟩)
  · refine .inl (List.mem_map.mpr ⟨row,List.mem_filter.mpr ⟨candidate,?_⟩,named⟩)
    simpa using kept

-- A run cleans no wallet twice, and none unless it deletes rows.
theorem cleans_distinct {purges : Bool} {partners : Option (List Pubkey)} (attesters : List SeedAttester) (done : Cleaning) :
    ∃ cleaned, (attesters.foldl (SeedAttester.clean purges partners) done).cleaned = done.cleaned ++ cleaned ∧
      cleaned.Sublist (attesters.map (·.pubkey)) := by
  induction attesters generalizing done with
  | nil => exact ⟨[],by simp⟩
  | cons first rest ih =>
    obtain ⟨cleaned,told,sub⟩ := ih (SeedAttester.clean purges partners done first)
    have once : (SeedAttester.clean purges partners done first).cleaned = done.cleaned ∨
        (SeedAttester.clean purges partners done first).cleaned = done.cleaned ++ [first.pubkey] := by
      unfold SeedAttester.clean
      dsimp only
      split
      · exact .inl rfl
      · split
        · exact .inl rfl
        · split
          · exact .inr rfl
          · exact .inl rfl
    rcases once with same | grown
    · exact ⟨cleaned,told.trans (congrArg (· ++ cleaned) same),sub.cons first.pubkey⟩
    · refine ⟨first.pubkey :: cleaned,?_,sub.cons_cons first.pubkey⟩
      rw [List.foldl_cons,told,grown,List.append_assoc]
      rfl

theorem apply_cleaned (settings : Settings) (file : SeedFile) (world : SeedWorld) (plan : Plan) (ts : Int) :
    (world.apply settings file plan ts).2.cleaned.Nodup ∧
      ((world.apply settings file plan ts).2.cleaned ≠ [] → world.still plan ≠ []) := by
  unfold SeedWorld.apply
  dsimp only
  constructor
  · obtain ⟨cleaned,told,sub⟩ := @cleans_distinct (!(world.still plan).isEmpty) plan.partners file.attesters.rows
      ⟨world.deleteRows (world.still plan),[],[]⟩
    rw [told]
    exact sub.nodup file.attesters.unique
  · intro some_one nothing
    rw [nothing] at some_one
    exact some_one (SeedAttester.cleans_idle file.attesters.rows _)

def SeedFile.credit (file : SeedFile) (key : Pubkey) : ℕ × ℕ :=
  (file.attesters.get key).elim (0,0) fun attester => (attester.scanCount,attester.certifiedCount)

namespace SeedRun
variable (run : SeedRun)

-- The events of the seed.
def seeded (id : ℕ) : Bool := (markOf run.marks id).seed

-- The plan that a step carries out, and whose counters it takes back.
def plan (n : ℕ) : Option Plan :=
  match run.actions n with
  | .apply index _ => (run.world n).plans[index]?
  | _ => none

def cleaned (n : ℕ) : List Pubkey :=
  match run.actions n with
  | .apply _ ts => (run.plan n).elim [] fun plan => ((run.world n).apply run.settings run.file plan ts).2.cleaned
  | _ => []

def ended (n : ℕ) (key : Pubkey) : ℕ × ℕ :=
  ((run.world n).db.endedOrders ORDER_RELEASED key,(run.world n).db.endedOrders ORDER_DISPUTE key)

-- With rows to delete, one of them is an event of the seed that no earlier run has kept, and no wallet has both escrows
-- of the seed and orders that ended so.
def Fresh (n : ℕ) : Prop :=
  ∀ plan, run.plan n = some plan → (run.world n).still plan ≠ [] →
    (∃ id ∈ (run.world n).still plan, (run.world n).seeded id = true ∧ (run.world n).kept id = false) ∧
    ∀ attester ∈ run.file.attesters.rows, (attester.escrowsOk = 0 ∨ (run.ended n attester.pubkey).1 = 0) ∧
      (attester.escrowsDisputed = 0 ∨ (run.ended n attester.pubkey).2 = 0)

theorem seeded_old {id : ℕ} (flag : run.seeded id = true) :
    id < run.db.events.next ∧ (markOf run.marks id).fromChain = false := by
  unfold seeded at flag
  cases found : run.marks.get id with
  | none =>
    unfold markOf at flag
    rw [found] at flag
    cases flag
  | some mark =>
    obtain ⟨inside,named⟩ := Table.get_some.mp found
    obtain ⟨below,unchained⟩ := run.fresh mark inside
    refine ⟨named ▸ below,?_⟩
    unfold markOf
    rw [found]
    exact unchained

-- In every run: the events of the seed stay flagged, and every pending plan classifies those that are still there.
structure Sound (n : ℕ) : Prop where
  flags : ∀ id, (run.world n).seeded id = run.seeded id
  chain : ∀ id, run.seeded id = true → (markOf (run.world n).marks id).fromChain = false
  next : run.db.events.next ≤ (run.world n).db.events.next
  planned : ∀ plan ∈ (run.world n).plans, ∀ id, run.seeded id = true → ((run.world n).db.getEvent id).isSome = true →
    id ∈ plan.delete ∨ id ∈ plan.keep

variable {run : SeedRun} {n : ℕ}

theorem Sound.below (sound : run.Sound n) {id : ℕ} (flag : run.seeded id = true) : id < (run.world n).db.events.next :=
  (run.seeded_old flag).1.trans_le sound.next

theorem Sound.unseeded (sound : run.Sound n) {id : ℕ} (above : (run.world n).db.events.next ≤ id) : run.seeded id = false := by
  cases flag : run.seeded id with
  | false => rfl
  | true => exact absurd (sound.below flag) (not_lt.mpr above)

theorem world_succ (n : ℕ) : run.world (n+1) = SeedWorld.step run.settings run.file (run.world n) (run.actions n) := rfl

-- What a step is: a run that plans or finds no plan, one that carries a plan out, or something between the runs.
inductive Step (run : SeedRun) (n : ℕ) : Prop
  | idle (none_applied : run.plan n = none) (db : (run.world (n+1)).db = (run.world n).db) (marks : (run.world (n+1)).marks = (run.world n).marks)
      (plans : ∀ plan ∈ (run.world (n+1)).plans, plan ∈ (run.world n).plans ∨ ∃ reads, plan = (run.world n).plan run.file reads)
  | applied (plan : Plan) (chosen : run.plan n = some plan) (purge : SeedPurge run.file plan (run.world n) (run.world (n+1)))
      (known : plan ∈ (run.world n).plans)
  | between (none_applied : run.plan n = none) (raises : Raises run.seeded (run.world n).db (run.world (n+1)).db)
      (marks : (run.world (n+1)).marks = (run.world n).marks) (plans : (run.world (n+1)).plans = (run.world n).plans)

theorem step_cases (run : SeedRun) (n : ℕ) : run.Step n := by
  cases action : run.actions n with
  | plan reads =>
    refine .idle ?_ ?_ ?_ ?_
    · simp [plan,action]
    · rw [world_succ,action]
      rfl
    · rw [world_succ,action]
      rfl
    · intro plan inside
      rw [world_succ,action] at inside
      rcases List.mem_append.mp inside with old | new
      · exact .inl old
      · exact .inr ⟨reads,List.mem_singleton.mp new⟩
  | apply index ts =>
    cases found : (run.world n).plans[index]? with
    | none =>
      have still : run.world (n+1) = run.world n := by
        rw [world_succ,action]
        simp [SeedWorld.step,found]
      refine .idle ?_ ?_ ?_ ?_
      · simp [plan,action,found]
      · rw [still]
      · rw [still]
      · intro plan inside
        exact .inl (still ▸ inside)
    | some planned =>
      have later : run.world (n+1) = ((run.world n).apply run.settings run.file planned ts).1 := by
        rw [world_succ,action]
        simp [SeedWorld.step,found]
      refine .applied planned ?_ ?_ (List.mem_of_getElem? found)
      · simp [plan,action,found]
      · rw [later]
        exact apply_purged run.settings run.file (run.world n) planned ts
  | interleaved op =>
    refine .between ?_ ?_ ?_ ?_
    · simp [plan,action]
    · rw [world_succ,action]
      exact interleaved_raises (run.world n).db op
    · rw [world_succ,action]
      rfl
    · rw [world_succ,action]
      rfl

theorem sound (run : SeedRun) (n : ℕ) : run.Sound n := by
  induction n with
  | zero => exact ⟨fun _ => rfl,fun id flag => (run.seeded_old flag).2,le_rfl,fun plan none_yet => absurd none_yet List.not_mem_nil⟩
  | succ n ih =>
    cases run.step_cases n with
    | idle _ db marks plans =>
      refine ⟨?_,?_,?_,?_⟩
      · intro id
        unfold SeedWorld.seeded
        rw [marks]
        exact ih.flags id
      · intro id flag
        rw [marks]
        exact ih.chain id flag
      · rw [db]
        exact ih.next
      · intro plan inside id flag there
        rw [db] at there
        rcases plans plan inside with old | ⟨reads,new⟩
        · exact ih.planned plan old id flag there
        · rw [new]
          exact plan_covers reads ((ih.flags id).trans flag) (ih.chain id flag) there
    | applied plan chosen purge known =>
      refine ⟨?_,?_,ih.next.trans purge.next,?_⟩
      · intro id
        by_cases below : id < (run.world n).db.events.next
        · exact (purge.old id below).1.trans (ih.flags id)
        · have above := not_lt.mp below
          rw [ih.unseeded above]
          refine purge.unseeded ?_ id above
          intro other beyond
          exact (ih.flags other).trans (ih.unseeded beyond)
      · intro id flag
        exact (purge.old id (ih.below flag)).2.1.trans (ih.chain id flag)
      · intro other inside id flag there
        rw [purge.plans] at inside
        rcases purge.rows id there with before | above
        · exact ih.planned other inside id flag before.1
        · exact absurd (ih.below flag) (not_lt.mpr above)
    | between _ raises marks plans =>
      refine ⟨?_,?_,ih.next.trans raises.next,?_⟩
      · intro id
        unfold SeedWorld.seeded
        rw [marks]
        exact ih.flags id
      · intro id flag
        rw [marks]
        exact ih.chain id flag
      · intro plan inside id flag there
        rw [plans] at inside
        rcases raises.rows id there with before | above
        · exact ih.planned plan inside id flag before
        · exact absurd (ih.below flag) (not_lt.mpr above)

-- Before any run the counters cover the seed and the real scans; after one they cover the real scans, and the events of the
-- seed that are left are kept ones.
inductive Ledger (run : SeedRun) (n : ℕ) : Prop
  | whole (unapplied : ∀ m < n, run.plan m = none)
      (covers : ∀ key, run.file.credit key+(run.world n).db.realCredit run.seeded key ≤ (run.world n).db.scanCredit key)
  | swept (kept : ∀ id, run.seeded id = true → ((run.world n).db.getEvent id).isSome = true → (run.world n).kept id = true)
      (covers : ∀ key, (run.world n).db.realCredit run.seeded key ≤ (run.world n).db.scanCredit key)

theorem Ledger.covers (ledger : run.Ledger n) (key : Pubkey) :
    (run.world n).db.realCredit run.seeded key ≤ (run.world n).db.scanCredit key := by
  cases ledger with
  | whole _ covers => exact le_trans (le_add_of_nonneg_left (Prod.mk_le_mk.mpr ⟨Nat.zero_le _,Nat.zero_le _⟩)) (covers key)
  | swept _ covers => exact covers key

-- Where all that is left of the seed is kept, a run that meets the condition has nothing to delete.
theorem none_left {plan : Plan} (fresh : run.Fresh n) (chosen : run.plan n = some plan)
    (kept : ∀ id, run.seeded id = true → ((run.world n).db.getEvent id).isSome = true → (run.world n).kept id = true) :
    (run.world n).still plan = [] := by
  by_contra some_left
  obtain ⟨⟨id,inside,flag,unkept⟩,_⟩ := fresh plan chosen some_left
  have flag' : run.seeded id = true := ((run.sound n).flags id).symm.trans flag
  rw [kept id flag' (SeedWorld.still_iff.mp inside).2] at unkept
  cases unkept

theorem covers_applied {plan : Plan} (purge : SeedPurge run.file plan (run.world n) (run.world (n+1))) (key : Pubkey)
    (covers : (run.world n).db.realCredit run.seeded key ≤ (run.world n).db.scanCredit key)
    (whole : (run.world n).still plan ≠ [] →
      run.file.credit key+(run.world n).db.realCredit run.seeded key ≤ (run.world n).db.scanCredit key) :
    (run.world (n+1)).db.realCredit run.seeded key ≤ (run.world (n+1)).db.scanCredit key := by
  have fewer := purge.real run.seeded key
  cases purge.wallets key with
  | same scans escrows => exact scans ▸ fewer.trans covers
  | gone real ended =>
    rw [real]
    exact Prod.mk_le_mk.mpr ⟨Nat.zero_le _,Nat.zero_le _⟩
  | stripped attester seed purging scans escrows =>
    have before := whole purging
    unfold SeedFile.credit at before
    rw [seed] at before
    rw [scans]
    obtain ⟨first,second⟩ := Prod.le_def.mp before
    obtain ⟨first',second'⟩ := Prod.le_def.mp fewer
    simp only [Option.elim_some,Prod.fst_add,Prod.snd_add] at first second
    refine Prod.le_def.mpr ⟨?_,?_⟩
    · dsimp only
      omega
    · dsimp only
      omega

theorem ledger_step (run : SeedRun) (n : ℕ) (fresh : run.Fresh n) (ledger : run.Ledger n) : run.Ledger (n+1) := by
  have unapplied_next (none_applied : run.plan n = none) (before : ∀ m < n, run.plan m = none) : ∀ m < n+1, run.plan m = none := by
    intro m below
    rcases Nat.lt_succ_iff_lt_or_eq.mp below with earlier | here
    · exact before m earlier
    · exact here ▸ none_applied
  cases run.step_cases n with
  | idle none_applied db marks plans =>
    cases ledger with
    | whole unapplied covers => exact .whole (unapplied_next none_applied unapplied) (db ▸ covers)
    | swept kept covers =>
      refine .swept ?_ (db ▸ covers)
      intro id flag there
      unfold SeedWorld.kept
      rw [marks]
      exact kept id flag (db ▸ there)
  | applied plan chosen purge known =>
    have sound := run.sound n
    refine .swept ?_ ?_
    · intro id flag there
      have below := sound.below flag
      rcases purge.rows id there with ⟨before,undeleted⟩ | above
      · have listed := (sound.planned plan known id flag before).resolve_left undeleted
        exact (purge.old id below).2.2.mpr (.inr ⟨listed,before⟩)
      · exact absurd below (not_lt.mpr above)
    · intro key
      refine covers_applied purge key (ledger.covers key) ?_
      intro some_left
      cases ledger with
      | whole unapplied covers => exact covers key
      | swept kept covers => exact absurd (none_left fresh chosen kept) some_left
  | between none_applied raises marks plans =>
    have lifted (key : Pubkey) (owed : ℕ × ℕ)
        (covers : owed+(run.world n).db.realCredit run.seeded key ≤ (run.world n).db.scanCredit key) :
        owed+(run.world (n+1)).db.realCredit run.seeded key ≤ (run.world (n+1)).db.scanCredit key := by
      obtain ⟨first,second⟩ := Prod.le_def.mp (raises.credits key)
      obtain ⟨first',second'⟩ := Prod.le_def.mp covers
      simp only [Prod.fst_add,Prod.snd_add] at first second first' second'
      exact Prod.le_def.mpr ⟨by rw [Prod.fst_add]; omega,by rw [Prod.snd_add]; omega⟩
    cases ledger with
    | whole unapplied covers =>
      exact .whole (unapplied_next none_applied unapplied) fun key => lifted key _ (covers key)
    | swept kept covers =>
      refine .swept ?_ ?_
      · intro id flag there
        unfold SeedWorld.kept
        rw [marks]
        rcases raises.rows id there with before | above
        · exact kept id flag before
        · exact absurd ((run.sound n).below flag) (not_lt.mpr above)
      · intro key
        have none_owed := lifted key 0 (by rw [zero_add]; exact covers key)
        rwa [zero_add] at none_owed

-- Nothing is real at first: every event of the database comes from the seed.
theorem ledger (run : SeedRun) (n : ℕ) (fresh : ∀ m < n, run.Fresh m) : run.Ledger n := by
  induction n with
  | zero =>
    refine .whole (fun m below => absurd below (Nat.not_lt_zero m)) ?_
    intro key
    have unreal : run.db.realCredit run.seeded key = (0,0) := by
      have flagged : ∀ row ∈ run.db.events.rows, row.realFor run.seeded key = false := by
        intro row inside
        simp [EventRow.realFor,seeded,run.flagged row inside]
      unfold Database.realCredit
      refine Prod.ext (List.countP_eq_zero.mpr ?_) (List.countP_eq_zero.mpr ?_)
      · intro row inside
        simp [flagged row inside]
      · intro row inside
        simp [EventRow.realCertified,flagged row inside]
    have start : (run.world 0).db = run.db := rfl
    rw [start,unreal]
    unfold SeedFile.credit
    cases found : run.file.attesters.get key with
    | none => exact Prod.mk_le_mk.mpr ⟨Nat.zero_le _,Nat.zero_le _⟩
    | some attester =>
      obtain ⟨inside,named⟩ := Table.get_some.mp found
      rw [← named,run.credited attester inside]
      exact le_rfl
  | succ n ih => exact run.ledger_step n (fresh n n.lt_succ_self) (ih fun m below => fresh m (below.trans n.lt_succ_self))

theorem cleaned_some (run : SeedRun) (n : ℕ) (some_one : run.cleaned n ≠ []) :
    ∃ plan, run.plan n = some plan ∧ (run.world n).still plan ≠ [] := by
  unfold cleaned at some_one
  cases action : run.actions n with
  | apply index ts =>
    rw [action] at some_one
    cases chosen : run.plan n with
    | none =>
      rw [chosen] at some_one
      exact absurd rfl some_one
    | some plan =>
      rw [chosen] at some_one
      exact ⟨plan,rfl,(apply_cleaned run.settings run.file (run.world n) plan ts).2 some_one⟩
  | plan reads =>
    rw [action] at some_one
    exact absurd rfl some_one
  | interleaved op =>
    rw [action] at some_one
    exact absurd rfl some_one

theorem cleaned_nodup (run : SeedRun) (n : ℕ) : (run.cleaned n).Nodup := by
  unfold cleaned
  split
  · cases run.plan n with
    | none => exact List.nodup_nil
    | some plan => exact (apply_cleaned run.settings run.file (run.world n) plan _).1
  · exact List.nodup_nil

end SeedRun

-- Where every run that has rows to delete is the first: no wallet is cleaned twice, and none is left with less than its
-- real scans; its escrows are no fewer than before.
structure SubtractsOnce (run : SeedRun) : Prop where
  once : ∀ n, (∀ m < n, run.Fresh m) → ((List.range n).flatMap run.cleaned).Nodup
  scans : ∀ n, (∀ m < n, run.Fresh m) → ∀ key, (run.world n).db.realCredit run.seeded key ≤ (run.world n).db.scanCredit key
  escrows : ∀ n, run.Fresh n → run.plan n ≠ none → ∀ key, run.ended n key ≤ (run.world n).db.escrowCredit key →
    run.ended (n+1) key ≤ (run.world (n+1)).db.escrowCredit key

theorem subtracts_once (run : SeedRun) : SubtractsOnce run where
  once n := by
    intro fresh
    induction n with
    | zero => exact List.nodup_nil
    | succ n ih =>
      have before := ih fun m below => fresh m (below.trans n.lt_succ_self)
      rw [List.range_succ,List.flatMap_append,List.flatMap_singleton]
      refine List.nodup_append'.mpr ⟨before,run.cleaned_nodup n,?_⟩
      intro key earlier now
      obtain ⟨m,below,inside⟩ := List.mem_flatMap.mp earlier
      obtain ⟨_,applied,_⟩ := run.cleaned_some m (List.ne_nil_of_mem inside)
      obtain ⟨plan,chosen,some_left⟩ := run.cleaned_some n (List.ne_nil_of_mem now)
      cases run.ledger n fun m below => fresh m (below.trans n.lt_succ_self) with
      | whole unapplied covers =>
        have unapplied := unapplied m (List.mem_range.mp below)
        rw [applied] at unapplied
        cases unapplied
      | swept kept covers => exact some_left (SeedRun.none_left (fresh n n.lt_succ_self) chosen kept)
  scans n fresh key := (run.ledger n fresh).covers key
  escrows n fresh applied key covers := by
    cases run.step_cases n with
    | idle none_applied => exact absurd none_applied applied
    | between none_applied => exact absurd none_applied applied
    | applied plan chosen purge known =>
      have ended : run.ended (n+1) key = run.ended n key := by
        unfold SeedRun.ended Database.endedOrders
        rw [purge.orders]
      cases purge.wallets key with
      | same scans escrows => rwa [ended,escrows]
      | gone real none_ended =>
        unfold SeedRun.ended
        rw [none_ended,none_ended]
        exact Prod.mk_le_mk.mpr ⟨Nat.zero_le _,Nat.zero_le _⟩
      | stripped attester seed purging scans escrows =>
        obtain ⟨inside,named⟩ := Table.get_some.mp seed
        obtain ⟨_,clear⟩ := fresh plan chosen purging
        obtain ⟨first,second⟩ := clear attester inside
        rw [named] at first second
        obtain ⟨ok,disputed⟩ := Prod.le_def.mp covers
        rw [ended,escrows]
        refine Prod.le_def.mpr ⟨?_,?_⟩
        · dsimp only
          omega
        · dsimp only
          omega

-- A seeded MINT whose transaction the cluster knows in the first run and has forgotten in the second: its partner has
-- scanned in between.
namespace Forgotten

def partner : Pubkey := .foreign 70
def event (type : EventType) (txSig : Option Signature) (id : ℕ) : EventRow :=
  ⟨id,"FV-1",type,50,some partner,none,txSig,.confirmed,none,⟨.facts .sealDead,none⟩,none,none,none,none⟩

def file : SeedFile := ⟨["FV-1"],[],Table.empty.put ⟨partner,none,3,0,0,0,0,0⟩,fun _ _ => zero32⟩

def db : Database :=
  let rows := (Database.empty.insertEvent (event .mint (some "t")) (fun _ => rfl)).insertEvent (event .ship none) (fun _ => rfl)
  {rows with attesters := Table.empty.put ⟨partner,50,3,0,0,0,0,0,none,false⟩}

def marks : Table SeedMark.eventId := (Table.empty.put ⟨1,true,false,false,true⟩).put ⟨2,true,false,false,true⟩

theorem flagged : ∀ row ∈ db.events.rows, (markOf marks row.id).seed = true := by decide
theorem fresh : ∀ mark ∈ marks.rows, mark.eventId < db.events.next ∧ mark.fromChain = false := by decide
theorem credited : ∀ attester ∈ file.attesters.rows, db.scanCredit attester.pubkey = (attester.scanCount,attester.certifiedCount) := by
  decide

def reads (known : Signature → Bool) : ClusterReads := ⟨known,fun _ => none,none,fun _ => none⟩

-- The pending scan of the partner.
def scanned : EventRow := ((Sighted.run.db Settings.sample 7).getEvent 4).getD (event .scan none 0)

def run : SeedRun where
  file := file
  db := db
  marks := marks
  flagged := flagged
  fresh := fresh
  credited := credited
  settings := .sample
  actions
    | 0 => .plan (reads (· == "t"))
    | 1 => .apply 0 100
    | 2 => .interleaved (.logged scanned)
    | 3 => .interleaved (.confirmed 3 partner (some "s") 100 none)
    | 4 => .plan (reads fun _ => false)
    | 5 => .apply 1 200
    | _ => .interleaved .synced

theorem subtracted_twice : ¬∀ (run : SeedRun) (n : ℕ), ((List.range n).flatMap run.cleaned).Nodup ∧
    ∀ key, (run.world n).db.realCredit run.seeded key ≤ (run.world n).db.scanCredit key := by
  intro claimed
  obtain ⟨once,covers⟩ := claimed run 6
  have twice : ¬((List.range 6).flatMap run.cleaned).Nodup := by decide +kernel
  exact twice once

-- One real scan, and a counter of zero.
example : ((run.world 6).db.realCredit run.seeded partner).1 = 1 ∧ (run.world 6).db.scanCredit partner = (0,0) := by
  decide +kernel

end Forgotten
end FlaconVault.Verifier
