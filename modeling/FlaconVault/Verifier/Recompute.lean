import FlaconVault.Verifier.GradeOrder
import FlaconVault.Verifier.Shapes
namespace FlaconVault.Verifier
open Guards Newest

-- purge-seed starts the grade of a passport over: it folds the confirmed scans in the order in which they were signed.
def EventRow.SignedBefore (row other : EventRow) : Prop := row.ts < other.ts ∨ row.ts = other.ts ∧ row.id ≤ other.id

instance signedBefore_decidable : DecidableRel EventRow.SignedBefore := by
  intro row other
  unfold EventRow.SignedBefore
  infer_instance

namespace Database

def sealDead (db : Database) (serial : String) : Bool :=
  db.events.rows.any fun row => row.serial == serial && row.type == .sealDead && row.status == .confirmed

def signedRows (db : Database) (serial : String) : List EventRow :=
  (db.events.rows.filter fun row => row.serial == serial && row.confirmedScan).insertionSort EventRow.SignedBefore

def signedGrades (db : Database) (serial : String) : List ℕ :=
  (db.signedRows serial).filterMap fun row => row.payload.signedScan.map (·.grade)

def freshStanding (db : Database) (serial : String) : ℕ × Bool := if db.sealDead serial then (Grade.VOID,true) else (Grade.A,false)

-- Without a Passport account the fold is all there is.
def recomputePassport (db : Database) (serial : String) (chain : Option PassportFacts) : Database × (ℕ × Bool) :=
  let folded := (db.signedGrades serial).foldl (fun old grade => passportAfterScan old.1 old.2 grade true) (db.freshStanding serial)
  let merged := match chain with
    | some acct =>
      if acct.scanCount.val > 0 ∨ acct.void then
        passportFromChain folded.1 folded.2 acct.grade.val acct.void (decide (acct.scanCount.val ≥ db.onchainScanCount serial))
      else folded
    | none => folded
  (db.setGrade serial merged,merged)

end Database

-- The rule of record_scan over a list of grades: VOID and C stay, otherwise the last grade counts.
def lastGrade (start : ℕ × Bool) (grades : List ℕ) : ℕ × Bool := sticky start grades.reverse (grades.getLast?.getD start.1)

theorem last_held (start : ℕ × Bool) (grades : List ℕ) :
    grades.getLast?.getD start.1 = start.1 ∨ grades.getLast?.getD start.1 ∈ grades.reverse := by
  cases found : grades.getLast? with
  | none => exact .inl rfl
  | some grade => exact .inr (List.mem_reverse.mpr (List.mem_of_getLast? found))

theorem fold_lastGrade {start : ℕ × Bool} (sound : start = (Grade.VOID,true) ∨ start = (Grade.A,false)) (grades : List ℕ) :
    grades.foldl (fun old grade => passportAfterScan old.1 old.2 grade true) start = lastGrade start grades := by
  induction grades using List.reverseRecOn with
  | nil => rcases sound with rfl | rfl <;> decide
  | append_singleton earlier last ih =>
    rw [List.foldl_append,ih]
    have next := sticky_next (last_held start earlier) last true
    unfold lastGrade
    simpa using next.symm

namespace ScanView

-- Signed later, and of the same seal.
def SignedAfter (other view : ScanView) : Prop := view.ts < other.ts ∨ view.ts = other.ts ∧ view.id < other.id
def OnSealOf (other view : ScanView) : Prop := view.sealUidHash.isSome ∧ other.sealUidHash = view.sealUidHash

instance onSealOf_decidable (other view : ScanView) : Decidable (other.OnSealOf view) := by
  unfold OnSealOf
  infer_instance

instance signedAfter_decidable (other view : ScanView) : Decidable (other.SignedAfter view) := by
  unfold SignedAfter
  infer_instance

theorem newer_iff {other view : ScanView} :
    other.newer view ↔ if other.OnSealOf view then view.counter < other.counter else other.SignedAfter view := by
  by_cases own : other.OnSealOf view
  · have own' : view.sealUidHash.isSome ∧ other.sealUidHash = view.sealUidHash := own
    rw [newer,if_pos own,if_pos own']
  · have own' : ¬(view.sealUidHash.isSome ∧ other.sealUidHash = view.sealUidHash) := own
    rw [newer,if_neg own,if_neg own',SignedAfter]

end ScanView

-- The order of the chain: the counters of every seal rise.
def Rising (order : List ScanView) : Prop := order.Pairwise fun first second => first.OnSealOf second → first.counter < second.counter

-- A confirmation in time: no scan of another seal confirmed before was signed later.
def InTime (before : List ScanView) (view : ScanView) : Prop := ∀ other ∈ before, ¬other.OnSealOf view → ¬other.SignedAfter view

-- The last confirmation in time, and the scan signed last.
def LastInTime (order : List ScanView) (view : ScanView) : Prop :=
  ∃ before after, order = before ++ view :: after ∧ InTime before view ∧
    ∀ passed next rest, after = passed ++ next :: rest → ¬InTime (before ++ view :: passed) next

def SignedLast (order : List ScanView) (view : ScanView) : Prop := view ∈ order ∧ ∀ other ∈ order, ¬other.SignedAfter view

-- Starting over gives the same grade exactly when VOID or C decides, or when these two carry one grade.
def RecomputeDecided (dead : Bool) (order : List ScanView) : Prop :=
  dead = true ∨ (∃ view ∈ order, view.grade = Grade.VOID ∨ view.grade = Grade.C) ∨
    ∀ view other, LastInTime order view → SignedLast order other → view.grade = other.grade

theorem inTime_iff {before : List ScanView} {view : ScanView} (rising : ∀ other ∈ before, other.OnSealOf view → other.counter < view.counter) :
    InTime before view ↔ ¬∃ other ∈ before, other.newer view := by
  unfold InTime
  push Not
  refine forall_congr' fun other => forall_congr' fun there => ?_
  rw [ScanView.newer_iff]
  by_cases own : other.OnSealOf view
  · have below := rising other there own
    rw [if_pos own]
    exact iff_of_true (fun foreign => absurd own foreign) (by omega)
  · rw [if_neg own]
    exact ⟨fun later => later own,fun later _ => later⟩

theorem lastInTime_next {order : List ScanView} {last view : ScanView} : LastInTime (order ++ [last]) view ↔
    InTime order last ∧ view = last ∨ ¬InTime order last ∧ LastInTime order view := by
  constructor
  · intro told
    obtain ⟨before,after,split,intime,late⟩ := told
    rcases List.eq_nil_or_concat after with nothing | ⟨init,final,some_after⟩
    · rw [nothing] at split
      obtain ⟨rfl,same⟩ := List.append_inj' split rfl
      cases same
      exact .inl ⟨intime,rfl⟩
    · rw [some_after,List.concat_eq_append,← List.cons_append,← List.append_assoc] at split
      obtain ⟨rfl,same⟩ := List.append_inj' split rfl
      cases same
      refine .inr ⟨late init last [] (by rw [some_after,List.concat_eq_append]),before,init,rfl,intime,?_⟩
      intro passed next rest inside
      exact late passed next (rest ++ [last]) (by rw [some_after,List.concat_eq_append,inside]; simp)
  · intro told
    rcases told with ⟨intime,rfl⟩ | ⟨delayed,before,after,rfl,intime,late⟩
    · exact ⟨order,[],rfl,intime,fun passed next rest inside => by simp at inside⟩
    · refine ⟨before,after ++ [last],by simp,intime,?_⟩
      intro passed next rest inside
      rcases List.eq_nil_or_concat rest with nothing | ⟨init,final,some_rest⟩
      · rw [nothing] at inside
        obtain ⟨rfl,same⟩ := List.append_inj' inside rfl
        cases same
        exact delayed
      · rw [some_rest,List.concat_eq_append,← List.cons_append,← List.append_assoc] at inside
        obtain ⟨inside,_⟩ := List.append_inj' inside rfl
        exact late passed next init inside

-- The last confirmation in time is the one that holds the newest place.
theorem holder_lastInTime {order : List ScanView} (rising : Rising order) {view : ScanView} :
    holder ScanView.newer order.reverse = some view ↔ LastInTime order view := by
  induction order using List.reverseRecOn generalizing view with
  | nil =>
    refine iff_of_false (by simp [holder]) ?_
    intro told
    obtain ⟨before,after,split,_⟩ := told
    simp at split
  | append_singleton order last ih =>
    obtain ⟨below,_,above⟩ := List.pairwise_append.mp rising
    have decided : InTime order last ↔ ¬∃ other ∈ order, other.newer last :=
      inTime_iff fun other there own => above other there last (by simp) own
    rw [lastInTime_next,List.reverse_append,List.reverse_singleton,List.singleton_append,holder]
    by_cases intime : InTime order last
    · have free : ¬∃ other ∈ order.reverse, other.newer last := by simpa using decided.mp intime
      rw [if_neg free]
      simp [intime,eq_comm]
    · have late : ∃ other ∈ order.reverse, other.newer last := by
        have overtaken := mt decided.mpr intime
        simpa using overtaken
      rw [if_pos late,ih below]
      simp [intime]

-- The rows in signing order, as views.
def Database.signedViews (db : Database) (serial : String) : List ScanView := (db.signedRows serial).filterMap (·.view)

theorem signedGrades_views (db : Database) (serial : String) : db.signedGrades serial = (db.signedViews serial).map (·.grade) := by
  unfold Database.signedGrades Database.signedViews
  rw [List.map_filterMap]
  refine List.filterMap_congr ?_
  intro row _
  simp [EventRow.view,Function.comp_def]

theorem signedViews_perm (db : Database) (serial : String) :
    (db.signedViews serial).Perm (db.scans.filter (·.confirmedFor serial)) := by
  have sorted : (db.signedRows serial).Perm (db.events.rows.filter fun row => row.serial == serial && row.confirmedScan) :=
    List.perm_insertionSort _ _
  refine (sorted.filterMap (·.view)).trans (.of_eq ?_)
  unfold Database.scans
  generalize db.events.rows = rows
  induction rows with
  | nil => rfl
  | cons row rest ih =>
    cases shown : row.view with
    | none =>
      have unsigned : row.confirmedScan = false := by
        have bare : row.payload.signedScan = none := by simpa [EventRow.view] using shown
        simp [EventRow.confirmedScan,bare]
      simp [shown,unsigned,ih]
    | some view =>
      have same := view_confirmed shown serial
      cases chosen : row.serial == serial && row.confirmedScan with
      | true => simp only [List.filter_cons,chosen,List.filterMap_cons,shown,same,if_true,ih]
      | false => simp only [List.filter_cons,chosen,List.filterMap_cons,shown,same,Bool.false_eq_true,if_false,ih]

theorem signedViews_sorted (db : Database) (serial : String) :
    (db.signedViews serial).Pairwise fun first second => ¬first.SignedAfter second := by
  have total : Std.Total EventRow.SignedBefore := by
    constructor
    intro a b
    unfold EventRow.SignedBefore
    omega
  have through : IsTrans EventRow EventRow.SignedBefore := by
    constructor
    intro a b c
    unfold EventRow.SignedBefore
    omega
  have sorted : (db.signedRows serial).Pairwise EventRow.SignedBefore := List.pairwise_insertionSort _ _
  unfold Database.signedViews
  rw [List.pairwise_filterMap]
  refine sorted.imp ?_
  intro row row' before view shown view' shown'
  obtain ⟨_,_,rfl⟩ := view_some.mp shown
  obtain ⟨_,_,rfl⟩ := view_some.mp shown'
  unfold EventRow.SignedBefore at before
  unfold ScanView.SignedAfter
  dsimp only
  omega

-- What a confirmation does to the rows: its own row stays a signed scan, and only sightings go.
theorem Confirms.rows {settings : Settings} {db later : Database} {id : ℕ} {current : EventRow} (confirms : Confirms settings db id later)
    (found : db.getEvent id = some current) (kind : current.type = .scan) (signed : current.payload.signedScan.isSome) :
    ∃ final, final.type = .scan ∧ final.payload.signedScan.isSome ∧
      ∀ other, later.getEvent other = if other = id then some final else (db.getEvent other).filter (!replaced current ·) := by
  cases confirms with
  | posted job now _ row this scan unsettled accepted =>
    subst this
    obtain ⟨current',found',outcome⟩ := confirmWrite_parts accepted
    rw [found] at found'
    cases found'
    have open_row := unsettled current found
    cases outcome with
    | filled status => exact absurd status open_row
    | kept status => exact absurd status open_row
    | repaired status => exact absurd status open_row
    | posted =>
      obtain ⟨final,becomes,rows⟩ := posted_rows settings found (kind.trans scan.symm) now
      refine ⟨final,becomes.follows.type.trans kind,?_,rows⟩
      rw [becomes.signed kind,Option.isSome_map]
      exact signed
  | reconciled item acct ts _ this proof unsettled accepted =>
    subst this
    obtain ⟨_,status,same⟩ := unsettled current found
    obtain ⟨scan,told⟩ := Option.isSome_iff_exists.mp signed
    have body : current.payload.body = item.event.payload.body :=
      (Payload.body_of_signed told).trans (Payload.body_of_signed (same ▸ told)).symm
    unfold applyWork at accepted
    simp only [found,Option.filter,status,beq_self_eq_true,if_true,proof] at accepted
    obtain ⟨_,final,becomes,rows⟩ := reconciled_rows found kind body accepted
    refine ⟨final,becomes.follows.type.trans kind,?_,rows⟩
    rw [becomes.signed,Option.isSome_map,← same]
    exact signed

theorem sealDead_iff {db : Database} {serial : String} : db.sealDead serial = true ↔
    ∃ id row, db.getEvent id = some row ∧ row.serial = serial ∧ row.type = .sealDead ∧ row.status = .confirmed := by
  unfold Database.sealDead
  simp only [List.any_eq_true,Bool.and_eq_true,beq_iff_eq,and_assoc]
  constructor
  · intro told
    obtain ⟨row,present,rest⟩ := told
    exact ⟨row.id,row,Database.getEvent_mem present,rest⟩
  · intro told
    obtain ⟨id,row,found,rest⟩ := told
    exact ⟨row,(Database.getEvent_some.mp found).1,rest⟩

theorem Confirms.sealDead {settings : Settings} {db later : Database} {id : ℕ} {current : EventRow} (confirms : Confirms settings db id later)
    (found : db.getEvent id = some current) (kind : current.type = .scan) (signed : current.payload.signedScan.isSome) (serial : String) :
    later.sealDead serial = db.sealDead serial := by
  obtain ⟨final,kind',_,rows⟩ := confirms.rows found kind signed
  have other_kind {row : EventRow} (dead : row.type = .sealDead) : replaced current row = false := by
    unfold replaced Database.superseded
    cases current.payload.signedScan <;> cases current.sealUidHash <;> simp [dead]
  rw [Bool.eq_iff_iff,sealDead_iff,sealDead_iff]
  refine exists_congr fun other => exists_congr fun row => and_congr_left fun rest => ?_
  rw [rows]
  by_cases here : other = id
  · rw [if_pos here,here,found]
    refine iff_of_false ?_ ?_
    · intro same
      cases same
      exact absurd (kind'.symm.trans rest.2.1) (by simp)
    · intro same
      cases same
      exact absurd (kind.symm.trans rest.2.1) (by simp)
  · rw [if_neg here,Option.filter_eq_some_iff]
    exact and_iff_left (by simp [other_kind rest.2.1])

-- A scan's row in a database.
def Database.HoldsScan (db : Database) (id : ℕ) : Prop :=
  ∃ row, db.getEvent id = some row ∧ row.type = .scan ∧ row.payload.signedScan.isSome

theorem Confirms.holds {settings : Settings} {db later : Database} {id other : ℕ} (confirms : Confirms settings db id later)
    (here : db.HoldsScan id) (there : db.HoldsScan other) : later.HoldsScan other := by
  obtain ⟨current,found,kind,signed⟩ := here
  obtain ⟨row,found',kind',signed'⟩ := there
  obtain ⟨final,final_kind,final_signed,rows⟩ := confirms.rows found kind signed
  by_cases same : other = id
  · exact ⟨final,by rw [rows,if_pos same],final_kind,final_signed⟩
  · refine ⟨row,?_,kind',signed'⟩
    rw [rows,if_neg same,found']
    simp [Option.filter,replaced_signed current signed']

theorem ConfirmsAll.sealDead {settings : Settings} {db last : Database} {ids : List ℕ} (run : ConfirmsAll settings db ids last)
    (known : ∀ id ∈ ids, db.HoldsScan id) (serial : String) : last.sealDead serial = db.sealDead serial := by
  induction run with
  | none => rfl
  | next db between last id ids first _ ih =>
    have here := known id List.mem_cons_self
    obtain ⟨current,found,kind,signed⟩ := here
    have rest : ∀ other ∈ ids, between.HoldsScan other := fun other there =>
      first.holds ⟨current,found,kind,signed⟩ (known other (List.mem_cons_of_mem _ there))
    exact (ih rest).trans (first.sealDead found kind signed serial)

theorem freshStanding_cases (db : Database) (serial : String) :
    db.freshStanding serial = (Grade.VOID,true) ∨ db.freshStanding serial = (Grade.A,false) := by
  unfold Database.freshStanding
  split
  · exact .inl rfl
  · exact .inr rfl

-- After the confirmations both ways to grade the passport: one by one, and from the stored rows.
structure Graded (db last : Database) (serial : String) (order : List ScanView) : Prop where
  standing : last.standing serial = some (settle (db.freshStanding serial) order.reverse)
  recomputed : (last.recomputePassport serial none).2 = lastGrade (db.freshStanding serial) (last.signedGrades serial)
  stored : (last.recomputePassport serial none).1.standing serial = some (last.recomputePassport serial none).2
  views : (last.signedViews serial).Perm (order.map ScanView.confirm)

theorem graded {settings : Settings} {db last : Database} {serial : String} {order : List ScanView} (pending : Pending db serial order)
    (minted : db.standing serial = some (db.freshStanding serial)) (run : ConfirmsAll settings db (order.map (·.id)) last) :
    Graded db last serial order := by
  obtain ⟨marked,stands⟩ := order_ends pending minted (List.Perm.refl order) run
  have holds : ∀ id ∈ order.map (·.id), db.HoldsScan id := by
    intro id inside
    obtain ⟨view,there,rfl⟩ := List.mem_map.mp inside
    obtain ⟨present,_,type⟩ := pending.known view there
    obtain ⟨row,stored,shown⟩ := Database.mem_scans.mp present
    obtain ⟨scan,signed,rfl⟩ := view_some.mp shown
    exact ⟨row,Database.getEvent_mem stored,type,by simp [signed]⟩
  have dead := run.sealDead holds serial
  have fresh : last.freshStanding serial = db.freshStanding serial := by
    unfold Database.freshStanding
    rw [dead]
  refine ⟨stands,?_,?_,?_⟩
  · unfold Database.recomputePassport
    dsimp only
    rw [fresh,fold_lastGrade (freshStanding_cases db serial)]
  · unfold Database.recomputePassport
    dsimp only
    rw [Database.standing_setGrade,if_pos rfl,stands]
    rfl
  · exact (signedViews_perm last serial).trans (pending.confirmed_perm (List.reverse_perm order) marked)

-- The last of the stored grades is the grade of the scan signed last.
theorem lastGrade_signed {db : Database} {serial : String} {order : List ScanView} (views : (db.signedViews serial).Perm (order.map ScanView.confirm))
    (ids : (order.map (·.id)).Nodup) : (db.signedGrades serial).getLast? = none ∧ order = [] ∨
      ∃ view, SignedLast order view ∧ (∀ other, SignedLast order other → other = view) ∧ (db.signedGrades serial).getLast? = some view.grade := by
  rw [signedGrades_views]
  have sorted := signedViews_sorted db serial
  generalize db.signedViews serial = listed at views sorted
  rcases List.eq_nil_or_concat listed with nothing | ⟨init,last,some_listed⟩
  · rw [nothing] at views ⊢
    refine .inl ⟨rfl,?_⟩
    simpa using views.symm.eq_nil
  · rw [some_listed,List.concat_eq_append] at views sorted ⊢
    obtain ⟨view,there,shown⟩ := List.mem_map.mp (views.mem_iff.mp (by simp : last ∈ init ++ [last]))
    subst shown
    obtain ⟨_,_,before⟩ := List.pairwise_append.mp sorted
    have latest : ∀ other ∈ order, ¬other.SignedAfter view := by
      intro other inside after
      have listed : other.confirm ∈ init ++ [view.confirm] := views.mem_iff.mpr (List.mem_map_of_mem inside)
      rcases List.mem_append.mp listed with earlier | here
      · exact before _ earlier view.confirm (by simp) after
      · have same : other.confirm = view.confirm := List.mem_singleton.mp here
        have time : other.confirm.ts = view.confirm.ts := congrArg ScanView.ts same
        have number : other.confirm.id = view.confirm.id := congrArg ScanView.id same
        change other.ts = view.ts at time
        change other.id = view.id at number
        unfold ScanView.SignedAfter at after
        omega
    refine .inr ⟨view,⟨there,latest⟩,?_,by simp⟩
    intro other signed
    refine List.inj_on_of_nodup_map ids signed.1 there ?_
    have low := latest other signed.1
    have high := signed.2 view there
    unfold ScanView.SignedAfter at low high
    omega

-- Does starting over keep the passport as it is?
def RecomputeAgrees (last : Database) (serial : String) : Prop :=
  last.standing serial = some (last.recomputePassport serial none).2 ∧
    (last.recomputePassport serial none).1.standing serial = last.standing serial

theorem Graded.agrees_iff {db last : Database} {serial : String} {order : List ScanView} (both : Graded db last serial order) :
    RecomputeAgrees last serial ↔
      settle (db.freshStanding serial) order.reverse = lastGrade (db.freshStanding serial) (last.signedGrades serial) := by
  unfold RecomputeAgrees
  rw [both.stored,both.standing,both.recomputed,Option.some.injEq]
  exact ⟨fun same => same.1,fun same => ⟨same,by rw [same]⟩⟩

theorem sticky_same_iff {start : ℕ × Bool} {grades grades' : List ℕ} {newest newest' : ℕ} (members : ∀ grade, grade ∈ grades ↔ grade ∈ grades') :
    sticky start grades newest = sticky start grades' newest' ↔
      (start.2 = true ∨ start.1 = Grade.VOID ∨ start.1 = Grade.C) ∨ (Grade.VOID ∈ grades ∨ Grade.C ∈ grades) ∨ newest = newest' := by
  unfold sticky
  simp only [← members]
  by_cases void : start.2 = true ∨ start.1 = Grade.VOID ∨ Grade.VOID ∈ grades
  · rw [if_pos void,if_pos void]
    exact iff_of_true rfl (by tauto)
  · rw [if_neg void,if_neg void]
    by_cases lowered : start.1 = Grade.C ∨ Grade.C ∈ grades
    · rw [if_pos lowered,if_pos lowered]
      exact iff_of_true rfl (by tauto)
    · rw [if_neg lowered,if_neg lowered]
      simp only [Prod.mk.injEq,and_true]
      tauto

theorem settle_fresh {start : ℕ × Bool} (fresh : start = (Grade.VOID,true) ∨ start = (Grade.A,false)) (arrived : List ScanView) :
    settle start arrived = sticky start (arrived.map (·.grade)) (((holder ScanView.newer arrived).map (·.grade)).getD start.1) := by
  rw [← settled_sticky]
  cases arrived with
  | nil => rcases fresh with rfl | rfl <;> decide
  | cons last earlier => exact settle_settled start last earlier

theorem freshStanding_sticky (db : Database) (serial : String) :
    ((db.freshStanding serial).2 = true ∨ (db.freshStanding serial).1 = Grade.VOID ∨ (db.freshStanding serial).1 = Grade.C) ↔
      db.sealDead serial = true := by
  unfold Database.freshStanding
  cases db.sealDead serial <;> simp +decide

-- The two newest grades agree exactly when the last confirmation in time and the scan signed last do.
theorem newest_same_iff {db : Database} {serial : String} {order : List ScanView} (rising : Rising order) (ids : (order.map (·.id)).Nodup)
    (views : (db.signedViews serial).Perm (order.map ScanView.confirm)) (grade : ℕ) :
    ((holder ScanView.newer order.reverse).map (·.grade)).getD grade = (db.signedGrades serial).getLast?.getD grade ↔
      ∀ view other, LastInTime order view → SignedLast order other → view.grade = other.grade := by
  rcases lastGrade_signed views ids with ⟨nothing,empty⟩ | ⟨signed,latest,only,last⟩
  · rw [nothing,empty]
    refine iff_of_true rfl ?_
    intro view other _ signed
    cases signed.1
  · have some_order : order.reverse ≠ [] := by
      intro empty
      rw [List.reverse_eq_nil_iff.mp empty] at latest
      cases latest.1
    obtain ⟨view,held⟩ : ∃ view, holder ScanView.newer order.reverse = some view := holder_some some_order
    rw [held,last]
    constructor
    · intro same view' other intime signed'
      have this_one := (holder_lastInTime rising).mpr intime
      rw [held] at this_one
      cases this_one
      rw [only other signed']
      exact same
    · intro same
      exact same view signed ((holder_lastInTime rising).mp held) latest

theorem Graded.decided_iff {db last : Database} {serial : String} {order : List ScanView} (both : Graded db last serial order)
    (ids : (order.map (·.id)).Nodup) (rising : Rising order) :
    RecomputeAgrees last serial ↔ RecomputeDecided (db.sealDead serial) order := by
  have grades := signedGrades_views last serial
  have members (grade : ℕ) : grade ∈ order.reverse.map (·.grade) ↔ grade ∈ (last.signedGrades serial).reverse := by
    have listed := ((both.views.map (·.grade)).mem_iff (a := grade))
    rw [← grades] at listed
    rw [List.mem_reverse,listed]
    simp [Function.comp_def]
  rw [both.agrees_iff,settle_fresh (freshStanding_cases db serial),lastGrade,sticky_same_iff members,freshStanding_sticky,
    newest_same_iff rising ids both.views]
  unfold RecomputeDecided
  refine or_congr_right (or_congr_left ?_)
  simp only [List.mem_map,List.mem_reverse]
  rw [← exists_or]
  exact exists_congr fun view => and_or_left.symm

-- Where the scans of each seal are signed in the order of their counters, starting over always agrees.
theorem in_order_decided {order : List ScanView} (dead : Bool) (rising : Rising order) (ids : (order.map (·.id)).Nodup)
    (timely : ∀ view ∈ order, ∀ other ∈ order, view.OnSealOf other → view.counter < other.counter → other.SignedAfter view) :
    RecomputeDecided dead order := by
  refine .inr (.inr ?_)
  intro view other intime signed
  obtain ⟨before,after,split,free,late⟩ := intime
  subst split
  have here : view ∈ before ++ view :: after := by simp
  suffices same : view = other by rw [same]
  rcases List.mem_append.mp signed.1 with earlier | there
  · by_cases own : other.OnSealOf view
    · have below := (List.pairwise_append.mp rising).2.2 other earlier view (by simp) own
      exact absurd (timely other signed.1 view here own below) (signed.2 view here)
    · refine List.inj_on_of_nodup_map ids here signed.1 ?_
      have high := signed.2 view here
      have low := free other earlier own
      unfold ScanView.SignedAfter at high low
      omega
  · rcases List.mem_cons.mp there with same | later
    · exact same.symm
    · obtain ⟨passed,rest,split⟩ := List.append_of_mem later
      have delayed := late passed other rest split
      unfold InTime at delayed
      push Not at delayed
      obtain ⟨blocker,inside,_,overtakes⟩ := delayed
      have known : blocker ∈ before ++ view :: after := by
        rw [split]
        simp only [List.mem_append,List.mem_cons] at inside ⊢
        tauto
      exact absurd overtakes (signed.2 blocker known)

theorem recompute_agrees (settings : Settings) (db last : Database) (serial : String) (order : List ScanView)
    (pending : Pending db serial order) (minted : db.standing serial = some (db.freshStanding serial)) (rising : Rising order)
    (run : ConfirmsAll settings db (order.map (·.id)) last) :
    RecomputeAgrees last serial ↔ RecomputeDecided (db.sealDead serial) order :=
  (graded pending minted run).decided_iff pending.ids_distinct rising

-- Two taps of one seal: the one with counter 5 was adopted and signed after the one with counter 6.
namespace LateTap
open TwoSeals

def events : EventLog where
  table := ⟨[scan 1 firstSeal 6 30 Grade.D 90,scan 2 firstSeal 5 95 Grade.A 100],by decide⟩
  next := 3
  sorted := by decide
  below := by decide

def db : Database := {Database.empty with passports := TwoSeals.db.passports
                                          events := events}

def first : ScanView := ⟨2,serial,.scan,100,some firstSeal,5,Grade.A,.pending,false⟩
def second : ScanView := ⟨1,serial,.scan,90,some firstSeal,6,Grade.D,.pending,false⟩

theorem shown : db.scans = [second,first] := by decide

theorem pending : Pending db serial [first,second] := by
  refine ⟨?_,by decide,?_⟩
  · rw [shown]
    decide
  · rw [shown]
    decide

theorem rising : Rising [first,second] := by
  unfold Rising
  decide

theorem minted : db.standing serial = some (db.freshStanding serial) := by decide

-- One by one the passport ends with D, the grade of counter 6; started over it gets A.
theorem late_tap_disagrees : Pending db serial [first,second] ∧ Rising [first,second] ∧
    db.standing serial = some (Grade.A,false) ∧
    ∃ last, ConfirmsAll Settings.sample db ([first,second].map (·.id)) last ∧ ¬RecomputeAgrees last serial := by
  obtain ⟨last,run⟩ := pending.run_exists Settings.sample (List.Perm.refl [first,second])
  refine ⟨pending,rising,by decide,last,run,?_⟩
  rw [(graded pending minted run).decided_iff pending.ids_distinct rising]
  intro decided
  rcases decided with dead | low | same
  · exact absurd dead (by decide)
  · exact absurd low (by decide)
  · have intime : LastInTime [first,second] second := by
      refine ⟨[first],[],rfl,?_,by simp⟩
      unfold InTime
      decide
    have signed : SignedLast [first,second] first := by
      unfold SignedLast
      decide
    exact absurd (same second first intime signed) (by decide)

theorem late_tap_decided : ∃ last, ConfirmsAll Settings.sample db ([first,second].map (·.id)) last ∧
    (RecomputeAgrees last serial ↔ RecomputeDecided (db.sealDead serial) [first,second]) := by
  obtain ⟨last,run⟩ := pending.run_exists Settings.sample (List.Perm.refl [first,second])
  exact ⟨last,run,recompute_agrees Settings.sample db last serial [first,second] pending minted rising run⟩

end LateTap
end FlaconVault.Verifier
