import FlaconVault.Lib.Newest
import FlaconVault.Verifier.Confirming
namespace FlaconVault.Verifier
open Guards Newest

-- Where the passport stands after some confirmations, listed from the last one back to the first.
def settle (start : ℕ × Bool) : List ScanView → ℕ × Bool
  | [] => start
  | view :: earlier =>
    let before := settle start earlier
    passportAfterScan before.1 before.2 view.grade (!(earlier.any fun other => decide (other.newer view)))

-- The views after the confirmation of some scans.
def ScanView.markAll (done : List ScanView) (view : ScanView) : ScanView := if view ∈ done then view.confirm else view

theorem markAll_id (done : List ScanView) (view : ScanView) : (view.markAll done).id = view.id := by
  unfold ScanView.markAll
  split <;> rfl

-- The signed scans of one passport that are about to be confirmed; nothing of it is confirmed before.
structure Pending (db : Database) (serial : String) (items : List ScanView) : Prop where
  known : ∀ view ∈ items, view ∈ db.scans ∧ view.serial = serial ∧ view.type = .scan
  distinct : items.Nodup
  fresh : ∀ view ∈ db.scans, view.confirmedFor serial = false

theorem same_view {db : Database} {view other : ScanView} (here : view ∈ db.scans) (there : other ∈ db.scans)
    (same : view.id = other.id) : view = other := List.inj_on_of_nodup_map db.scans_distinct here there same

namespace Pending
variable {db : Database} {serial : String} {items : List ScanView}

-- Confirming one more scan of the list.
theorem marked_next {done : List ScanView} {view : ScanView} (known : view ∈ db.scans)
    (later : view ∉ done) : (db.scans.map (·.markAll done)).map (·.mark view.id) = db.scans.map (·.markAll (view :: done)) := by
  rw [List.map_map]
  refine List.map_congr_left ?_
  intro other present
  simp only [Function.comp_apply]
  by_cases here : other.id = view.id
  · have this_one := same_view present known here
    subst this_one
    simp [ScanView.markAll,ScanView.mark,later]
  · have different : other ≠ view := fun same => here (same ▸ rfl)
    rw [ScanView.mark_other (by rw [markAll_id]; exact here)]
    simp [ScanView.markAll,different]

-- Once some scans are confirmed, exactly these can overtake another one.
theorem overtaken_done {items done : List ScanView} (pending : Pending db serial items) {now : Database} {view : ScanView}
    (marked : now.scans = db.scans.map (·.markAll done)) (inside : ∀ other ∈ done, other ∈ items) (known : view ∈ items)
    (later : view ∉ done) : now.overtaken view = done.any fun other => decide (other.newer view) := by
  obtain ⟨present,named,_⟩ := pending.known view known
  rw [Bool.eq_iff_iff]
  unfold Database.overtaken
  rw [marked,List.any_map]
  simp only [List.any_eq_true,Function.comp_apply,Bool.and_eq_true,decide_eq_true_eq]
  constructor
  · intro ⟨other,there,⟨confirmed,_⟩,newer⟩
    by_cases already : other ∈ done
    · refine ⟨other,already,?_⟩
      simpa [ScanView.markAll,already] using newer
    · rw [ScanView.markAll,if_neg already,named,pending.fresh other there] at confirmed
      cases confirmed
  · intro ⟨other,already,newer⟩
    obtain ⟨there,named',type⟩ := pending.known other (inside other already)
    have different : other.id ≠ view.id := by
      intro same
      exact later (same_view there present same ▸ already)
    refine ⟨other,there,⟨?_,by simpa [markAll_id] using different⟩,by simpa [ScanView.markAll,already] using newer⟩
    simp [ScanView.markAll,already,ScanView.confirmedFor,ScanView.confirm,named,named',type]

-- The scans of the database that are to be confirmed, and what is confirmed once they are.
theorem inside_perm {items : List ScanView} (pending : Pending db serial items) :
    (db.scans.filter fun view => decide (view ∈ items)).Perm items := by
  have all_distinct : db.scans.Nodup := List.Nodup.of_map _ db.scans_distinct
  refine (List.perm_ext_iff_of_nodup (all_distinct.filter _) pending.distinct).mpr ?_
  intro view
  simp only [List.mem_filter,decide_eq_true_eq]
  exact ⟨And.right,fun inside => ⟨(pending.known view inside).1,inside⟩⟩

theorem marked_confirmed {items done : List ScanView} (pending : Pending db serial items) (complete : done.Perm items) {view : ScanView}
    (present : view ∈ db.scans) : (view.markAll done).confirmedFor serial = decide (view ∈ items) := by
  by_cases inside : view ∈ items
  · obtain ⟨_,named,type⟩ := pending.known view inside
    simp [ScanView.markAll,complete.mem_iff.mpr inside,inside,ScanView.confirm,ScanView.confirmedFor,named,type]
  · have outside : view ∉ done := fun there => inside (complete.mem_iff.mp there)
    simp [ScanView.markAll,outside,inside,pending.fresh view present]

theorem confirmed_perm {items done : List ScanView} (pending : Pending db serial items) (complete : done.Perm items) {last : Database}
    (marked : last.scans = db.scans.map (·.markAll done)) :
    (last.scans.filter (·.confirmedFor serial)).Perm (items.map ScanView.confirm) := by
  rw [marked,List.filter_map]
  have chosen : db.scans.filter ((fun view => view.confirmedFor serial) ∘ fun view => view.markAll done) =
      db.scans.filter fun view => decide (view ∈ items) :=
    List.filter_congr fun view present => pending.marked_confirmed complete present
  have turned : (db.scans.filter fun view => decide (view ∈ items)).map (fun view => view.markAll done) =
      (db.scans.filter fun view => decide (view ∈ items)).map ScanView.confirm := by
    refine List.map_congr_left ?_
    intro view inside
    have there : view ∈ done := complete.mem_iff.mpr (of_decide_eq_true (List.mem_filter.mp inside).2)
    exact if_pos there
  rw [chosen,turned]
  exact pending.inside_perm.map _

end Pending

-- Any run of confirmations ends where `settle` says.
theorem confirmsAll_standing {settings : Settings} {db : Database} {serial : String} {items : List ScanView}
    (pending : Pending db serial items) (start : ℕ × Bool) : ∀ (order done : List ScanView) (now last : Database),
    (∀ view ∈ done, view ∈ items) → (∀ view ∈ order, view ∈ items) → (order.reverse ++ done).Nodup →
    now.scans = db.scans.map (·.markAll done) → now.standing serial = some (settle start done) →
    ConfirmsAll settings now (order.map (·.id)) last →
    last.scans = db.scans.map (·.markAll (order.reverse ++ done)) ∧
      last.standing serial = some (settle start (order.reverse ++ done)) := by
  intro order
  induction order with
  | nil =>
    intro done now last _ _ _ marked stands run
    cases run
    exact ⟨marked,stands⟩
  | cons view rest ih =>
    intro done now last inside to_come apart marked stands run
    have known := to_come view List.mem_cons_self
    obtain ⟨present,named,_⟩ := pending.known view known
    have later : view ∉ done := by
      intro already
      simp only [List.reverse_cons,List.append_assoc,List.singleton_append] at apart
      exact (List.nodup_cons.mp (List.nodup_append'.mp apart).2.1).1 already
    cases run with
    | next _ between _ _ _ first rest =>
      have still : view ∈ now.scans := by
        rw [marked]
        exact List.mem_map.mpr ⟨view,present,if_neg later⟩
      have effect := confirms_confirmed still first
      have := ih (view :: done) between last (List.forall_mem_cons.mpr ⟨known,inside⟩)
        (fun other there => to_come other (List.mem_cons_of_mem _ there)) (by simpa using apart)
        (by rw [effect.scans,marked,Pending.marked_next present later])
        (by rw [effect.standing,if_pos named.symm,stands,pending.overtaken_done marked inside known later]; rfl) rest
      simpa using this

-- VOID and C stay, whatever the order; otherwise the grade is that of the scan that holds the newest place.
def settled (start : ℕ × Bool) (arrived : List ScanView) : ℕ × Bool :=
  if start.2 = true ∨ start.1 = Grade.VOID ∨ ∃ view ∈ arrived, view.grade = Grade.VOID then (Grade.VOID,true)
  else if start.1 = Grade.C ∨ ∃ view ∈ arrived, view.grade = Grade.C then (Grade.C,false)
  else (((holder ScanView.newer arrived).map (·.grade)).getD start.1,false)

-- The rule for a scan, given the grades so far: VOID and C stay, and the newest grade is the start grade or one of them.
def sticky (start : ℕ × Bool) (grades : List ℕ) (newest : ℕ) : ℕ × Bool :=
  if start.2 = true ∨ start.1 = Grade.VOID ∨ Grade.VOID ∈ grades then (Grade.VOID,true)
  else if start.1 = Grade.C ∨ Grade.C ∈ grades then (Grade.C,false)
  else (newest,false)

theorem sticky_next {start : ℕ × Bool} {grades : List ℕ} {newest : ℕ} (held : newest = start.1 ∨ newest ∈ grades) (grade : ℕ)
    (latest : Bool) : sticky start (grade :: grades) (if latest then grade else newest) =
      passportAfterScan (sticky start grades newest).1 (sticky start grades newest).2 grade latest := by
  have apart : Grade.C ≠ Grade.VOID := by decide
  have ordinary {bad : ℕ} (begun : start.1 ≠ bad) (clean : bad ∉ grades) : newest ≠ bad := by
    rcases held with here | there
    · exact here ▸ begun
    · exact fun same => clean (same ▸ there)
  unfold sticky
  simp only [List.mem_cons]
  by_cases void : start.2 = true ∨ start.1 = Grade.VOID ∨ Grade.VOID ∈ grades
  · rw [if_pos void,if_pos (by tauto)]
    simp [passportAfterScan]
  · rw [if_neg void]
    push Not at void
    obtain ⟨unvoided,begun,clean⟩ := void
    by_cases opened : grade = Grade.VOID
    · rw [if_pos (.inr (.inr (.inl opened.symm)))]
      simp [passportAfterScan,opened]
    · have unopened : Grade.VOID ≠ grade := fun same => opened same.symm
      rw [if_neg (by tauto)]
      by_cases lowered : start.1 = Grade.C ∨ Grade.C ∈ grades
      · rw [if_pos lowered,if_pos (by tauto)]
        simp [passportAfterScan,apart,opened]
      · rw [if_neg lowered]
        push Not at lowered
        have unvoid := ordinary begun clean
        have uncut := ordinary lowered.1 lowered.2
        by_cases triggered : grade = Grade.C
        · rw [if_pos (.inr (.inl triggered.symm))]
          simp [passportAfterScan,unvoid,triggered,apart]
        · have untriggered : Grade.C ≠ grade := fun same => triggered same.symm
          rw [if_neg (by tauto)]
          simp [passportAfterScan,unvoid,uncut,opened,triggered]

theorem settled_sticky (start : ℕ × Bool) (arrived : List ScanView) :
    settled start arrived =
      sticky start (arrived.map (·.grade)) (((holder ScanView.newer arrived).map (·.grade)).getD start.1) := by
  unfold settled sticky
  simp only [List.mem_map]

-- The grade of the newest place is the start grade or that of some scan.
theorem newest_held (start : ℕ × Bool) (arrived : List ScanView) :
    ((holder ScanView.newer arrived).map (·.grade)).getD start.1 = start.1 ∨
      ((holder ScanView.newer arrived).map (·.grade)).getD start.1 ∈ arrived.map (·.grade) := by
  cases held : holder ScanView.newer arrived with
  | none => exact .inl rfl
  | some view => exact .inr (List.mem_map_of_mem (holder_mem held))

theorem settled_next (start : ℕ × Bool) (last : ScanView) (earlier : List ScanView) :
    settled start (last :: earlier) = passportAfterScan (settled start earlier).1 (settled start earlier).2 last.grade
      (!(earlier.any fun other => decide (other.newer last))) := by
  rw [settled_sticky,settled_sticky,← sticky_next (newest_held start earlier),List.map_cons]
  congr 1
  have place : holder ScanView.newer (last :: earlier) =
      if ∃ other ∈ earlier, other.newer last then holder ScanView.newer earlier else some last := rfl
  rw [place]
  by_cases late : ∃ other ∈ earlier, other.newer last
  · have found : (earlier.any fun other => decide (other.newer last)) = true := by simpa using late
    rw [if_pos late,found]
    rfl
  · have missing : (earlier.any fun other => decide (other.newer last)) = false := by simpa using late
    rw [if_neg late,missing]
    rfl

theorem settle_settled (start : ℕ × Bool) (last : ScanView) (earlier : List ScanView) :
    settle start (last :: earlier) = settled start (last :: earlier) := by
  induction earlier generalizing last with
  | nil =>
    rw [settled_next]
    have apart : Grade.C ≠ Grade.VOID := by decide
    simp only [settle,settled,passportAfterScan,List.not_mem_nil,false_and,exists_false,or_false,holder,Option.map_none,
      Option.getD_none,List.any_nil,Bool.not_false,if_true]
    by_cases void : start.2 = true ∨ start.1 = Grade.VOID
    · rw [if_pos (by tauto),if_pos void,if_pos (.inl rfl)]
    · rw [if_neg void]
      by_cases lowered : start.1 = Grade.C <;> simp_all
  | cons middle rest ih =>
    rw [settled_next,← ih middle]
    rfl

-- A scan that is not confirmed can be confirmed at any time.
theorem exists_confirms (settings : Settings) {db : Database} {view : ScanView} (known : view ∈ db.scans)
    (unsettled : view.status ≠ .confirmed) : ∃ db', Confirms settings db view.id db' := by
  obtain ⟨current,present,shown⟩ := Database.mem_scans.mp known
  have found : db.getEvent view.id = some current := Log.get_some.mpr ⟨present,(view_id shown).symm⟩
  have pending : current.status ≠ .confirmed := by
    obtain ⟨_,_,told⟩ := view_some.mp shown
    rwa [told] at unsettled
  let vt : VerifiedTx := ⟨"",.default,none,.recordScan,[],[],[],none,none,[]⟩
  let job : ConfirmJob := ⟨view.id,.scan,"",.default,current.payload,vt,false⟩
  let now : I64 := ⟨0,by decide⟩
  have effect := @posted_effects settings db job current view rfl rfl found shown now
  have marked : view.confirm ∈ db.scans.map (·.mark view.id) := List.mem_map.mpr ⟨view,known,if_pos rfl⟩
  rw [← effect.scans] at marked
  obtain ⟨row,stored,shown'⟩ := Database.mem_scans.mp marked
  have last := Log.get_some.mpr ⟨stored,(view_id shown').symm⟩
  refine ⟨_,.posted job now _ row rfl rfl ?_ (confirmWrite_posted found pending last)⟩
  intro event same
  exact Option.some.inj (found.symm.trans same) ▸ pending

theorem exists_confirmsAll (settings : Settings) : ∀ (order : List ScanView) (now : Database),
    (∀ view ∈ order, view ∈ now.scans ∧ view.status ≠ .confirmed) → (order.map (·.id)).Nodup →
    ∃ last, ConfirmsAll settings now (order.map (·.id)) last := by
  intro order
  induction order with
  | nil =>
    intro now _ _
    exact ⟨now,.none now⟩
  | cons view rest ih =>
    intro now pending distinct
    obtain ⟨known,unsettled⟩ := pending view List.mem_cons_self
    obtain ⟨between,first⟩ := exists_confirms settings known unsettled
    obtain ⟨apart,later⟩ := List.nodup_cons.mp distinct
    have effect := confirms_confirmed known first
    have still : ∀ other ∈ rest, other ∈ between.scans ∧ other.status ≠ .confirmed := by
      intro other there
      obtain ⟨known',unsettled'⟩ := pending other (List.mem_cons_of_mem _ there)
      have different : other.id ≠ view.id := fun same => apart (List.mem_map.mpr ⟨other,there,same⟩)
      rw [effect.scans]
      exact ⟨List.mem_map.mpr ⟨other,known',ScanView.mark_other different⟩,unsettled'⟩
    obtain ⟨last,run⟩ := ih between still later
    exact ⟨last,.next now between last view.id _ first run⟩

-- The counters of one seal tell its scans apart.
def DistinctCounters (items : List ScanView) : Prop :=
  ∀ view ∈ items, ∀ other ∈ items, view.sealUidHash.isSome → view.sealUidHash = other.sealUidHash → view.counter = other.counter →
    view = other

theorem decides {db : Database} {serial : String} {items : List ScanView} (pending : Pending db serial items)
    (counters : DistinctCounters items) : Decides ScanView.newer items := by
  intro view here other there different
  unfold ScanView.newer
  by_cases same_seal : view.sealUidHash = other.sealUidHash
  · by_cases sealed : view.sealUidHash.isSome
    · have apart : view.counter ≠ other.counter := fun same => different (counters view here other there sealed same_seal same)
      simp only [same_seal] at sealed ⊢
      simp only [sealed,true_and,if_true]
      omega
    · have sealed' : ¬other.sealUidHash.isSome := same_seal ▸ sealed
      have apart : view.id ≠ other.id := fun same => different (same_view (pending.known view here).1 (pending.known other there).1 same)
      simp only [sealed,sealed',false_and,Bool.false_eq_true,if_false]
      omega
  · have apart : view.id ≠ other.id := fun same => different (same_view (pending.known view here).1 (pending.known other there).1 same)
    have same_seal' : other.sealUidHash ≠ view.sealUidHash := fun same => same_seal same.symm
    simp only [same_seal,same_seal',and_false,if_false]
    omega

theorem Pending.ids_distinct {db : Database} {serial : String} {items : List ScanView} (pending : Pending db serial items) :
    (items.map (·.id)).Nodup := by
  refine List.Nodup.map_on ?_ pending.distinct
  intro view here other there same
  exact same_view (pending.known view here).1 (pending.known other there).1 same

-- What the database shows after confirming scans in some order.
theorem order_ends {settings : Settings} {db last : Database} {serial : String} {items order : List ScanView} {start : ℕ × Bool}
    (pending : Pending db serial items) (minted : db.standing serial = some start) (permuted : order.Perm items)
    (run : ConfirmsAll settings db (order.map (·.id)) last) :
    last.scans = db.scans.map (·.markAll order.reverse) ∧ last.standing serial = some (settle start order.reverse) := by
  have unmarked : db.scans = db.scans.map (·.markAll []) := by
    refine ((List.map_congr_left ?_).trans (List.map_id' _)).symm
    intro view _
    exact if_neg List.not_mem_nil
  have distinct : (order.reverse ++ []).Nodup := by
    simpa using permuted.nodup_iff.mpr pending.distinct
  have ends := confirmsAll_standing pending start order [] db last (fun _ absent => absurd absent List.not_mem_nil)
    (fun view present => permuted.mem_iff.mp present) distinct unmarked minted run
  simpa using ends

-- Whether the order of confirmations matters to a passport and its signed scans.
def OrderFree (settings : Settings) (db : Database) (serial : String) (items : List ScanView) : Prop :=
  ∀ first second : List ScanView, first.Perm items → second.Perm items → ∀ one other,
    ConfirmsAll settings db (first.map (·.id)) one → ConfirmsAll settings db (second.map (·.id)) other →
    one.standing serial = other.standing serial

-- Pending scans can be confirmed in every order.
theorem Pending.run_exists {db : Database} {serial : String} {items order : List ScanView} (pending : Pending db serial items)
    (settings : Settings) (permuted : order.Perm items) : ∃ last, ConfirmsAll settings db (order.map (·.id)) last := by
  refine exists_confirmsAll settings order db ?_ ((permuted.map _).nodup_iff.mpr pending.ids_distinct)
  intro view present
  obtain ⟨known,named,type⟩ := pending.known view (permuted.mem_iff.mp present)
  refine ⟨known,?_⟩
  intro confirmed
  have := pending.fresh view known
  simp [ScanView.confirmedFor,named,type,confirmed] at this

theorem orderFree_settle {settings : Settings} {db : Database} {serial : String} {items : List ScanView} {start : ℕ × Bool}
    (pending : Pending db serial items) (minted : db.standing serial = some start) :
    OrderFree settings db serial items ↔
      ∀ first second : List ScanView, first.Perm items → second.Perm items → settle start first = settle start second := by
  constructor
  · intro free first second permuted permuted'
    have permuted := (List.reverse_perm first).trans permuted
    have permuted' := (List.reverse_perm second).trans permuted'
    obtain ⟨one,run⟩ := pending.run_exists settings permuted
    obtain ⟨other,run'⟩ := pending.run_exists settings permuted'
    have same := free _ _ permuted permuted' one other run run'
    rw [(order_ends pending minted permuted run).2,(order_ends pending minted permuted' run').2] at same
    simpa using same
  · intro same first second permuted permuted' one other run run'
    rw [(order_ends pending minted permuted run).2,(order_ends pending minted permuted' run').2]
    rw [same _ _ ((List.reverse_perm first).trans permuted) ((List.reverse_perm second).trans permuted')]

-- The orders end alike exactly when VOID or C decides, or when all scans that can hold the newest place carry one grade.
def OrderDecided (start : ℕ × Bool) (items : List ScanView) : Prop :=
  (start.2 = true ∨ start.1 = Grade.VOID ∨ start.1 = Grade.C) ∨
    (∃ view ∈ items, view.grade = Grade.VOID ∨ view.grade = Grade.C) ∨
    ∀ view other, Top ScanView.newer items view → Top ScanView.newer items other → view.grade = other.grade

theorem settled_decided {start : ℕ × Bool} {items arrived : List ScanView} (permuted : arrived.Perm items)
    (free : ¬(start.2 = true ∨ start.1 = Grade.VOID ∨ start.1 = Grade.C))
    (ordinary : ¬∃ view ∈ items, view.grade = Grade.VOID ∨ view.grade = Grade.C) :
    settled start arrived = (((holder ScanView.newer arrived).map (·.grade)).getD start.1,false) := by
  push Not at free ordinary
  unfold settled
  rw [if_neg,if_neg]
  · push Not
    exact ⟨free.2.2,fun view present => (ordinary view (permuted.mem_iff.mp present)).2⟩
  · push Not
    exact ⟨free.1,free.2.1,fun view present => (ordinary view (permuted.mem_iff.mp present)).1⟩

theorem settled_perm {start : ℕ × Bool} {first second : List ScanView} (permuted : first.Perm second)
    (decided : (start.2 = true ∨ start.1 = Grade.VOID ∨ start.1 = Grade.C) ∨
      ∃ view ∈ second, view.grade = Grade.VOID ∨ view.grade = Grade.C) : settled start first = settled start second := by
  have members : ∀ grade, (∃ view ∈ first, view.grade = grade) ↔ ∃ view ∈ second, view.grade = grade := by
    intro grade
    exact exists_congr fun view => and_congr_left fun _ => permuted.mem_iff
  unfold settled
  simp only [members]
  split
  · rfl
  · rename_i unvoided
    push Not at unvoided
    rw [if_pos,if_pos]
    all_goals
      rcases decided with (void | void | lowered) | ⟨view,present,void | lowered⟩
      · exact absurd void unvoided.1
      · exact absurd void unvoided.2.1
      · exact .inl lowered
      · exact absurd void (unvoided.2.2 view present)
      · exact .inr ⟨view,present,lowered⟩

theorem settle_order_free {start : ℕ × Bool} {items : List ScanView} (distinct : items.Nodup)
    (decides : Decides ScanView.newer items) :
    (∀ first second : List ScanView, first.Perm items → second.Perm items → settle start first = settle start second) ↔
      OrderDecided start items := by
  have closed : (∀ first second : List ScanView, first.Perm items → second.Perm items → settle start first = settle start second) ↔
      ∀ first second : List ScanView, first.Perm items → second.Perm items → settled start first = settled start second := by
    refine forall_congr' fun first => forall_congr' fun second => forall_congr' fun permuted => forall_congr' fun permuted' => ?_
    cases first with
    | nil =>
      have empty : second = [] := (permuted.trans permuted'.symm).symm.eq_nil
      simp [empty]
    | cons last earlier =>
      cases second with
      | nil =>
        have := (permuted.trans permuted'.symm).length_eq
        simp at this
      | cons last' earlier' => rw [settle_settled,settle_settled]
  rw [closed]
  unfold OrderDecided
  by_cases begun : start.2 = true ∨ start.1 = Grade.VOID ∨ start.1 = Grade.C
  · refine iff_of_true ?_ (.inl begun)
    intro first second permuted permuted'
    exact settled_perm (permuted.trans permuted'.symm) (.inl begun)
  · by_cases graded : ∃ view ∈ items, view.grade = Grade.VOID ∨ view.grade = Grade.C
    · refine iff_of_true ?_ (.inr (.inl graded))
      intro first second permuted permuted'
      obtain ⟨view,present,low⟩ := graded
      exact settled_perm (permuted.trans permuted'.symm) (.inr ⟨view,permuted'.mem_iff.mpr present,low⟩)
    · rw [or_iff_right begun,or_iff_right graded,← order_free_iff distinct decides (·.grade)]
      refine forall_congr' fun first => forall_congr' fun second => forall_congr' fun permuted => forall_congr' fun permuted' => ?_
      rw [settled_decided permuted begun graded,settled_decided permuted' begun graded]
      rcases List.eq_nil_or_concat items with none_there | ⟨_,_,some_there⟩
      · rw [none_there] at permuted permuted'
        rw [permuted.eq_nil,permuted'.eq_nil]
        simp
      · have filled : ∀ arrived : List ScanView, arrived.Perm items → arrived ≠ [] := by
          intro arrived same empty
          have := same.length_eq
          simp [empty,some_there] at this
        obtain ⟨view,held⟩ : ∃ view, holder ScanView.newer first = some view := holder_some (filled first permuted)
        obtain ⟨other,held'⟩ : ∃ other, holder ScanView.newer second = some other := holder_some (filled second permuted')
        simp [held,held']

theorem confirmation_order_free (settings : Settings) (db : Database) (serial : String) (items : List ScanView) (start : ℕ × Bool)
    (minted : db.standing serial = some start) (pending : Pending db serial items) (counters : DistinctCounters items) :
    OrderFree settings db serial items ↔ OrderDecided start items := by
  rw [orderFree_settle pending minted]
  exact settle_order_free pending.distinct (decides pending counters)

-- Three scans on two seals. The tap with counter 5 of the first seal was made before the one with counter 6 and
-- adopted after it, so that the scans overtake each other in a circle.
namespace TwoSeals

def serial : String := "FV-1"

def firstSeal : Bytes32 := ⟨List.replicate 32 1,by decide⟩
def secondSeal : Bytes32 := ⟨List.replicate 32 2,by decide⟩

def bundle (sealUidHash : Bytes32) (counter fill : ℕ) (ts : Int) : Bundle :=
  ⟨serial,zero32,sealUidHash,counter,0,Tamper.UNKNOWN,⟨0,0,0⟩,[0,0,0,0,0,0],fill,"",⟨none,none⟩,[],zero32,ts,.androidWeb,⟨0,0,none⟩,
    ⟨0,.valid,ts,[]⟩,ts⟩

def scan (id : ℕ) (sealUidHash : Bytes32) (counter fill grade : ℕ) (ts : Int) : EventRow :=
  ⟨id,serial,.scan,ts,none,none,none,.pending,some sealUidHash,
    ⟨.signedScan ⟨bundle sealUidHash counter fill ts,grade,false,[],zero32,none,none,none,none,none⟩,none⟩,some grade,none,none,none⟩

def passport : PassportRow := ⟨serial,zero32,"brand","name",none,none,none,none,Grade.A,false,1⟩

def events : EventLog where
  table := ⟨[scan 1 firstSeal 6 70 Grade.B 90,scan 2 secondSeal 1 30 Grade.D 95,scan 3 firstSeal 5 95 Grade.A 100],by decide⟩
  next := 4
  sorted := by decide
  below := by decide

def db : Database := {Database.empty with passports := ⟨[passport],by decide⟩
                                          events := events}

def views : List ScanView := db.scans

theorem shown : views = [⟨1,serial,.scan,90,some firstSeal,6,Grade.B,.pending,false⟩,
    ⟨2,serial,.scan,95,some secondSeal,1,Grade.D,.pending,false⟩,⟨3,serial,.scan,100,some firstSeal,5,Grade.A,.pending,false⟩] := by
  decide

theorem pending : Pending db serial views := by
  refine ⟨?_,?_,?_⟩
  · intro view present
    refine ⟨present,?_⟩
    rw [shown] at present
    simp only [List.mem_cons,List.not_mem_nil,or_false] at present
    rcases present with rfl | rfl | rfl <;> decide
  · decide
  · decide

theorem counters : DistinctCounters views := by
  unfold DistinctCounters
  decide

-- The order of the confirmations decides between the grades A and B.
theorem order_matters : ¬OrderFree Settings.sample db serial views := by
  rw [orderFree_settle pending (show db.standing serial = some (Grade.A,false) by decide)]
  intro same
  rw [shown] at same
  refine absurd (same [⟨1,serial,.scan,90,some firstSeal,6,Grade.B,.pending,false⟩,
    ⟨3,serial,.scan,100,some firstSeal,5,Grade.A,.pending,false⟩,⟨2,serial,.scan,95,some secondSeal,1,Grade.D,.pending,false⟩]
    [⟨2,serial,.scan,95,some secondSeal,1,Grade.D,.pending,false⟩,⟨1,serial,.scan,90,some firstSeal,6,Grade.B,.pending,false⟩,
    ⟨3,serial,.scan,100,some firstSeal,5,Grade.A,.pending,false⟩] (by decide) (by decide)) (by decide)

theorem order_free_here : OrderFree Settings.sample db serial views ↔ OrderDecided (Grade.A,false) views :=
  confirmation_order_free Settings.sample db serial views (Grade.A,false) (by decide) pending counters

end TwoSeals

end FlaconVault.Verifier
