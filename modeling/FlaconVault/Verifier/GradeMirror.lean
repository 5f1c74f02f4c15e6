import FlaconVault.Escrow.Payments
import FlaconVault.Verifier.GradeOrder
namespace FlaconVault.Verifier
open Guards Newest

-- What a passport account says about its grade.
def chainStanding (s : Ledger) (passportKey : Pubkey) : Option (Grade × Bool × U32) :=
  (s.flacon.passports passportKey).map fun passport => (passport.grade,passport.void,passport.scanCount)

-- The on-chain history of a passport from one ledger on: scans of one seal that `record_scan` accepted, each with the
-- tamper code UNKNOWN, and anything else that leaves the account's grade and count alone.
inductive Anchored (passportKey sealKey : Pubkey) (start : Ledger) : List Flacon.RecordScanArgs → Ledger → Prop
  | none : Anchored passportKey sealKey start [] start
  | scan (scans : List Flacon.RecordScanArgs) (s after : Ledger) (a : Flacon.RecordScan) (args : Flacon.RecordScanArgs) (now : I64)
      (before : Anchored passportKey sealKey start scans s) (passportHere : a.passport = passportKey) (sealHere : a.sealKey = sealKey)
      (unknown : args.tamper = Flacon.TAMPER_UNKNOWN) (accepted : Flacon.handleRecordScan s a args now = .ok after) :
      Anchored passportKey sealKey start (scans ++ [args]) after
  | other (scans : List Flacon.RecordScanArgs) (s after : Ledger) (before : Anchored passportKey sealKey start scans s)
      (kept : chainStanding after passportKey = chainStanding s passportKey) : Anchored passportKey sealKey start scans after

-- The program's own rule over a sequence of scans.
def programFold (scans : List Flacon.RecordScanArgs) : Grade × Bool :=
  scans.foldl (fun old args => Flacon.passportAfterScan old.1 old.2 args.tamper args.heat args.hum args.fill) (.a,false)

theorem programFold_next (scans : List Flacon.RecordScanArgs) (args : Flacon.RecordScanArgs) :
    programFold (scans ++ [args]) =
      Flacon.passportAfterScan (programFold scans).1 (programFold scans).2 args.tamper args.heat args.hum args.fill := by
  simp [programFold,List.foldl_append]

theorem anchored_standing {passportKey sealKey : Pubkey} {start s : Ledger} {scans : List Flacon.RecordScanArgs}
    (minted : chainStanding start passportKey = some (.a,false,0)) (history : Anchored passportKey sealKey start scans s) :
    ∃ count : U32, count.val = scans.length ∧
      chainStanding s passportKey = some ((programFold scans).1,(programFold scans).2,count) := by
  induction history with
  | none => exact ⟨0,rfl,minted⟩
  | scan scans s after a args now _ passportHere _ _ accepted ih =>
    obtain ⟨count,counted,stands⟩ := ih
    obtain ⟨_,passport,found,next,scan,adds,rfl⟩ := Flacon.record_parts.mp accepted
    have known := scan.passportFound
    rw [passportHere] at known
    simp only [chainStanding,known,Option.map_some,Option.some.injEq,Prod.mk.injEq] at stands
    obtain ⟨grade,void,tally⟩ := stands
    refine ⟨next,?_,?_⟩
    · rw [checkedAdd_some.mp adds,tally,counted,List.length_append,List.length_singleton]
    · simp [chainStanding,Flacon.afterScan,passportHere,programFold_next,grade,void]
  | other scans s after _ kept ih => exact kept ▸ ih

theorem anchored_unknown {passportKey sealKey : Pubkey} {start s : Ledger} {scans : List Flacon.RecordScanArgs}
    (history : Anchored passportKey sealKey start scans s) : ∀ args ∈ scans, args.tamper = Flacon.TAMPER_UNKNOWN := by
  induction history with
  | none => exact fun _ absent => absurd absent List.not_mem_nil
  | scan scans _ _ _ args _ _ _ _ unknown _ ih =>
    intro other present
    rcases List.mem_append.mp present with before | last
    · exact ih other before
    · exact List.mem_singleton.mp last ▸ unknown
  | other _ _ _ _ _ ih => exact ih

-- The signed scan of the verifier and the accepted scan of the program are the same scan.
structure Matches (uidHash : Bytes32) (view : ScanView) (args : Flacon.RecordScanArgs) : Prop where
  onSeal : view.sealUidHash = some uidHash
  counter : view.counter = args.counter.val
  graded : view.grade = (computeGrade .valid Tamper.UNKNOWN args.heat.val args.hum.val args.fill.val false).1

abbrev History := List (ScanView × Flacon.RecordScanArgs)

namespace History

def views (history : History) : List ScanView := history.map (·.1)
def scans (history : History) : List Flacon.RecordScanArgs := history.map (·.2)

-- Rising counters: each scan is newer than all before it.
def Rising (history : History) : Prop := history.Pairwise fun first second => first.2.counter < second.2.counter

theorem Rising.apart {history : History} (rising : history.Rising) {entry other : ScanView × Flacon.RecordScanArgs}
    (here : entry ∈ history) (there : other ∈ history) (different : entry ≠ other) : entry.2.counter ≠ other.2.counter := by
  let Apart (first second : ScanView × Flacon.RecordScanArgs) : Prop := first.2.counter ≠ second.2.counter
  have symmetric : Std.Symm Apart := ⟨fun _ _ => Ne.symm⟩
  have all_apart : List.Pairwise Apart history := List.Pairwise.imp (fun above => ne_of_lt above) rising
  exact all_apart.forall here there different

end History

theorem newer_on_seal {uidHash : Bytes32} {view other : ScanView} {args args' : Flacon.RecordScanArgs}
    (same : Matches uidHash view args) (same' : Matches uidHash other args') : other.newer view ↔ args.counter < args'.counter := by
  unfold ScanView.newer
  rw [if_pos (by simp [same.onSeal,same'.onSeal]),same.counter,same'.counter]
  exact Fin.lt_def.symm

-- In the order of the chain, every scan is the newest one when it is confirmed.
theorem settle_mirrors {uidHash : Bytes32} (history : History) (same : ∀ entry ∈ history, Matches uidHash entry.1 entry.2)
    (unknown : ∀ entry ∈ history, entry.2.tamper = Flacon.TAMPER_UNKNOWN) (rising : history.Rising) :
    settle (Grade.A,false) history.views.reverse = (gradeCode (programFold history.scans).1,(programFold history.scans).2) := by
  induction history using List.reverseRecOn with
  | nil => rfl
  | append_singleton earlier last ih =>
    obtain ⟨before,_,above⟩ := List.pairwise_append.mp rising
    have ih := ih (fun entry present => same entry (List.mem_append_left _ present))
      (fun entry present => unknown entry (List.mem_append_left _ present)) before
    have this_one := same last (by simp)
    have newest : (History.views earlier).reverse.any (fun other => decide (other.newer last.1)) = false := by
      rw [List.any_eq_false]
      intro other present
      obtain ⟨entry,there,rfl⟩ := List.mem_map.mp (List.mem_reverse.mp present)
      rw [decide_eq_true_eq,newer_on_seal this_one (same entry (List.mem_append_left _ there))]
      exact not_lt_of_gt (above entry there last (by simp))
    have step := passportAfterScan_mirrors (programFold (History.scans earlier)).1 (programFold (History.scans earlier)).2 last.2.heat last.2.hum last.2.fill
    simp only [History.views,History.scans,List.map_append,List.map_cons,List.map_nil,List.reverse_append,List.reverse_singleton,
      List.singleton_append] at ih newest step ⊢
    unfold settle
    dsimp only
    rw [newest,ih,this_one.graded]
    simpa [programFold_next,unknown last (by simp)] using step

-- On one seal the newest place has one holder.
theorem one_seal_decided {uidHash : Bytes32} (history : History) (same : ∀ entry ∈ history, Matches uidHash entry.1 entry.2)
    (start : ℕ × Bool) : OrderDecided start history.views := by
  refine .inr (.inr ?_)
  have rises : ∀ {view other : ScanView}, view ∈ history.views → Overtaken ScanView.newer history.views view other →
      view = other ∨ view.counter < other.counter := by
    intro view other known chain
    induction chain using Relation.ReflTransGen.head_induction_on with
    | refl => exact .inl rfl
    | @head first second link rest ih =>
      obtain ⟨entry,there,rfl⟩ := List.mem_map.mp known
      obtain ⟨entry',there',next⟩ := List.mem_map.mp link.2
      subst next
      have above := (newer_on_seal (same entry there) (same entry' there')).mp link.1
      have above : entry.1.counter < entry'.1.counter := by
        rw [(same entry there).counter,(same entry' there').counter]
        exact above
      rcases ih link.2 with here | beyond
      · exact .inr (here ▸ above)
      · exact .inr (above.trans beyond)
  intro view other top top'
  rcases rises top'.1 (top.2 other top'.1) with here | above
  · rw [here]
  · rcases rises top.1 (top'.2 view top.1) with here | beyond
    · rw [here]
    · omega

-- How many scans count as recorded on chain shows in the views.
theorem onchainScanCount_views (db : Database) (serial : String) :
    db.onchainScanCount serial = db.scans.countP fun view => view.confirmedFor serial && view.anchored := by
  unfold Database.onchainScanCount Database.scans
  generalize db.events.rows = rows
  induction rows with
  | nil => rfl
  | cons row rest ih =>
    cases shown : row.view with
    | none =>
      have unsigned : row.payload.signedScan = none := by simpa [EventRow.view] using shown
      have uncounted : (row.serial == serial && row.confirmedScan && row.onChain) = false := by
        simp [EventRow.confirmedScan,unsigned]
      rw [List.countP_cons,uncounted,List.filterMap_cons,shown,ih]
      rfl
    | some view =>
      have anchored : view.anchored = row.onChain := by
        obtain ⟨_,_,told⟩ := view_some.mp shown
        rw [told]
      rw [List.countP_cons,List.filterMap_cons,shown,List.countP_cons,ih,view_confirmed shown,anchored]

theorem anchored_count {db last : Database} {serial : String} {items done : List ScanView} (pending : Pending db serial items)
    (complete : done.Perm items) (marked : last.scans = db.scans.map (·.markAll done)) :
    last.onchainScanCount serial = items.length := by
  have confirmed := pending.confirmed_perm complete marked
  have anchored : ∀ view ∈ last.scans.filter (·.confirmedFor serial), view.anchored = true := by
    intro view inside
    obtain ⟨original,_,rfl⟩ := List.mem_map.mp (confirmed.mem_iff.mp inside)
    rfl
  have counted : last.scans.countP (fun view => view.confirmedFor serial && view.anchored) =
      (last.scans.filter (·.confirmedFor serial)).countP ScanView.anchored := by
    rw [List.countP_filter]
    simp only [Bool.and_comm]
  rw [onchainScanCount_views,counted,List.countP_eq_length.mpr anchored,confirmed.length_eq,List.length_map]

-- Scans with tamper code UNKNOWN never void a passport, and C stays.
theorem fold_unknown (scans : List Flacon.RecordScanArgs) (unknown : ∀ args ∈ scans, args.tamper = Flacon.TAMPER_UNKNOWN) :
    (programFold scans).2 = false ∧ (programFold scans).1 ≠ .void := by
  induction scans using List.reverseRecOn with
  | nil => exact ⟨rfl,by decide⟩
  | append_singleton earlier last ih =>
    obtain ⟨unvoided,ordinary⟩ := ih fun args present => unknown args (List.mem_append_left _ present)
    have closed : Flacon.isOpened last.tamper = false := by
      rw [unknown last (by simp)]
      decide
    simp only [programFold_next,Flacon.passportAfterScan,unvoided,closed,Bool.or_false,Bool.false_or,beq_iff_eq,ordinary,if_false]
    split
    · exact ⟨rfl,by decide⟩
    · refine ⟨rfl,?_⟩
      unfold Flacon.gradeFromFill
      split
      · decide
      · split <;> decide

theorem fold_c (before after : List Flacon.RecordScanArgs)
    (unknown : ∀ args ∈ before ++ after, args.tamper = Flacon.TAMPER_UNKNOWN) (lowered : (programFold before).1 = .c) :
    (programFold (before ++ after)).1 = .c := by
  induction after using List.reverseRecOn with
  | nil => simpa using lowered
  | append_singleton earlier last ih =>
    rw [← List.append_assoc] at unknown ⊢
    have ih := ih fun args present => unknown args (List.mem_append_left _ present)
    have unvoided := (fold_unknown (before ++ earlier) fun args present => unknown args (List.mem_append_left _ present)).1
    have closed : Flacon.isOpened last.tamper = false := by
      rw [unknown last (by simp)]
      decide
    rw [programFold_next]
    simp [Flacon.passportAfterScan,ih,unvoided,closed]

-- A Passport account as it stood at some point of the history.
structure PastAccount (passportKey sealKey : Pubkey) (start : Ledger) (scans : List Flacon.RecordScanArgs) (acct : PassportFacts) :
    Prop where
  seen : ∃ before point grade void count, before <+: scans ∧ Anchored passportKey sealKey start before point ∧
    chainStanding point passportKey = some (grade,void,count) ∧ acct.grade.val = gradeCode grade ∧ acct.void = void ∧
    acct.scanCount = count

-- Merging an account of the past into a database that has confirmed all scans changes nothing.
theorem past_account_merges {passportKey sealKey : Pubkey} {start : Ledger} {scans : List Flacon.RecordScanArgs} {acct : PassportFacts}
    (minted : chainStanding start passportKey = some (.a,false,0)) (unknown : ∀ args ∈ scans, args.tamper = Flacon.TAMPER_UNKNOWN)
    (past : PastAccount passportKey sealKey start scans acct) :
    passportFromChain (gradeCode (programFold scans).1) (programFold scans).2 acct.grade.val acct.void
      (decide (acct.scanCount.val ≥ scans.length)) = (gradeCode (programFold scans).1,(programFold scans).2) := by
  obtain ⟨before,point,grade,void,count,⟨later,split⟩,history,stands,graded,voided,counted⟩ := past.seen
  obtain ⟨count',total,stands'⟩ := anchored_standing minted history
  rw [stands,Option.some.injEq,Prod.mk.injEq,Prod.mk.injEq] at stands'
  obtain ⟨rfl,rfl,rfl⟩ := stands'
  subst split
  obtain ⟨unvoided,ordinary⟩ := fold_unknown (before ++ later) unknown
  obtain ⟨unvoided',ordinary'⟩ := fold_unknown before fun args present => unknown args (List.mem_append_left _ present)
  rw [graded,voided,counted,total]
  simp only [passportFromChain,unvoided,unvoided',gradeCode_void,ordinary,ordinary',gradeCode_c,Bool.false_eq_true,or_self,if_false]
  by_cases lowered : (programFold (before ++ later)).1 = .c
  · rw [if_pos (.inl lowered),lowered]
    rfl
  · have uncut : (programFold before).1 ≠ .c := fun cut => lowered (fold_c before later unknown cut)
    rw [if_neg (by simp [lowered,uncut])]
    split
    · rename_i current
      have complete : later = [] := by
        have := of_decide_eq_true current
        simpa using this
      rw [complete,List.append_nil]
    · rfl

-- What a refresh needs of the database, and keeps.
structure Mirrored (db : Database) (serial : String) (scans : List Flacon.RecordScanArgs) : Prop where
  stands : db.standing serial = some (gradeCode (programFold scans).1,(programFold scans).2)
  counted : db.onchainScanCount serial = scans.length

theorem refreshPassport_mirrored {settings : Settings} {db : Database} {serial : String} {scans : List Flacon.RecordScanArgs}
    {passportKey sealKey : Pubkey} {start : Ledger} {entry : PassportRow × Option (List Byte)}
    (minted : chainStanding start passportKey = some (.a,false,0)) (unknown : ∀ args ∈ scans, args.tamper = Flacon.TAMPER_UNKNOWN)
    (mirrored : Mirrored db serial scans)
    (past : entry.1.serial = serial → ∀ acct, decodePassport settings entry.2 = .ok acct →
      PastAccount passportKey sealKey start scans acct) : Mirrored (refreshPassport settings db entry) serial scans := by
  unfold refreshPassport
  split
  · exact mirrored
  · split
    · rename_i acct row decoded found
      split
      · exact mirrored
      · refine ⟨?_,mirrored.counted⟩
        rw [Database.standing_setGrade]
        by_cases here : serial = entry.1.serial
        · have stood := mirrored.stands
          rw [if_pos here,stood]
          rw [here] at stood
          simp only [Database.standing,found,Option.map_some,Option.some.injEq,Prod.mk.injEq] at stood
          rw [stood.1,stood.2,← here,mirrored.counted,Option.map_some]
          exact congrArg some (past_account_merges minted unknown (past here.symm acct decoded))
        · rw [if_neg here]
          exact mirrored.stands
    · exact mirrored

theorem refreshPassports_mirrored {settings : Settings} {serial : String} {scans : List Flacon.RecordScanArgs}
    {passportKey sealKey : Pubkey} {start : Ledger} (minted : chainStanding start passportKey = some (.a,false,0))
    (unknown : ∀ args ∈ scans, args.tamper = Flacon.TAMPER_UNKNOWN) : ∀ (entries : List (PassportRow × Option (List Byte)))
    (db : Database), Mirrored db serial scans →
    (∀ entry ∈ entries, entry.1.serial = serial → ∀ acct, decodePassport settings entry.2 = .ok acct →
      PastAccount passportKey sealKey start scans acct) →
    Mirrored (entries.foldl (refreshPassport settings) db) serial scans := by
  intro entries
  induction entries with
  | nil =>
    intro db mirrored _
    exact mirrored
  | cons entry rest ih =>
    intro db mirrored past
    refine ih _ (refreshPassport_mirrored minted unknown mirrored (past entry List.mem_cons_self)) ?_
    intro other present
    exact past other (List.mem_cons_of_mem _ present)

-- The database's grade mirrors the chain: whatever the order of the confirmations, it is the fold of the program's rule,
-- and no refresh from an account of the past changes it.
theorem grade_mirrors_chain (settings : Settings) (db last : Database) (serial : String) (uidHash : Bytes32) (history : History)
    (order : List ScanView) (passportKey sealKey : Pubkey) (start point : Ledger)
    (minted : db.standing serial = some (Grade.A,false)) (mintedOnChain : chainStanding start passportKey = some (.a,false,0))
    (pending : Pending db serial history.views) (same : ∀ entry ∈ history, Matches uidHash entry.1 entry.2) (rising : history.Rising)
    (recorded : Anchored passportKey sealKey start history.scans point) (permuted : order.Perm history.views)
    (confirmed : ConfirmsAll settings db (order.map (·.id)) last) :
    last.standing serial = some (gradeCode (programFold history.scans).1,(programFold history.scans).2) ∧
    ∀ entries : List (PassportRow × Option (List Byte)),
      (∀ entry ∈ entries, entry.1.serial = serial → ∀ acct, decodePassport settings entry.2 = .ok acct →
        PastAccount passportKey sealKey start history.scans acct) →
      (entries.foldl (refreshPassport settings) last).standing serial = last.standing serial := by
  have unknown := anchored_unknown recorded
  have unknown' : ∀ entry ∈ history, entry.2.tamper = Flacon.TAMPER_UNKNOWN := by
    intro entry present
    exact unknown entry.2 (List.mem_map_of_mem present)
  obtain ⟨marked,stands⟩ := order_ends pending minted permuted confirmed
  have in_order : settle (Grade.A,false) order.reverse = settle (Grade.A,false) history.views.reverse := by
    have counters : Decides ScanView.newer history.views := by
      refine decides pending ?_
      intro view here other there _ _ equal
      obtain ⟨entry,present,rfl⟩ := List.mem_map.mp here
      obtain ⟨entry',present',rfl⟩ := List.mem_map.mp there
      by_contra different
      have apart : entry.2.counter ≠ entry'.2.counter := rising.apart present present' fun same_entry => different (same_entry ▸ rfl)
      exact apart (Fin.ext ((same entry present).counter.symm.trans (equal.trans (same entry' present').counter)))
    exact (settle_order_free pending.distinct counters).mpr (one_seal_decided history same _) _ _
      ((List.reverse_perm _).trans permuted) (List.reverse_perm _)
  rw [in_order,settle_mirrors history same unknown' rising] at stands
  refine ⟨stands,?_⟩
  intro entries past
  have counted : last.onchainScanCount serial = history.scans.length := by
    rw [anchored_count pending ((List.reverse_perm _).trans permuted) marked]
    simp [History.views,History.scans]
  rw [(refreshPassports_mirrored mintedOnChain unknown entries last ⟨stands,counted⟩ past).stands,stands]

-- The two scans of the sale, signed by the verifier and confirmed the other way round.
namespace OneSeal
open Escrow TwoSeals

def rows : EventLog where
  table := ⟨[scan 1 (Sale.hash 8) 1 92 Grade.A 90,scan 2 (Sale.hash 8) 2 92 Grade.A 95],by decide⟩
  next := 3
  sorted := by decide
  below := by decide

def db : Database := {Database.empty with passports := TwoSeals.db.passports
                                          events := rows}

def history : History := [(⟨1,serial,.scan,90,some (Sale.hash 8),1,Grade.A,.pending,false⟩,Sale.scanArgs 1),
  (⟨2,serial,.scan,95,some (Sale.hash 8),2,Grade.A,.pending,false⟩,Sale.scanArgs 2)]

theorem waiting : Pending db serial history.views := by
  refine ⟨?_,?_,?_⟩
  · decide
  · decide
  · decide

theorem matching : ∀ entry ∈ history, Matches (Sale.hash 8) entry.1 entry.2 := by
  intro entry present
  simp only [history,List.mem_cons,List.not_mem_nil,or_false] at present
  rcases present with rfl | rfl
  · exact ⟨by decide,by decide,by decide⟩
  · exact ⟨by decide,by decide,by decide⟩

theorem rising : history.Rising := by
  unfold History.Rising
  decide

-- A scan of the sale that went through.
theorem scanned (n : ℕ) (counter : U32) (attester : Pubkey)
    (called : Sale.run.schedule n = ⟨Sale.scan counter attester,.zero⟩)
    (accepted : (process (Sale.run.schedule n) (Sale.run.ledger n)).toOption.isSome)
    {scans : List Flacon.RecordScanArgs} {start : Ledger} (before : Anchored Sale.passport Sale.sealKey start scans (Sale.run.ledger n)) :
    Anchored Sale.passport Sale.sealKey start (scans ++ [Sale.scanArgs counter]) (Sale.run.ledger (n+1)) := by
  obtain ⟨after,outcome⟩ := exists_ok accepted
  rw [Run.ledger_succ,execute_of_accepted outcome]
  rw [called] at outcome
  exact .scan scans _ after _ (Sale.scanArgs counter) .zero before rfl rfl rfl outcome

theorem recorded : Anchored Sale.passport Sale.sealKey (Sale.run.ledger 6) history.scans (Sale.run.ledger 16) := by
  have listed : Anchored Sale.passport Sale.sealKey (Sale.run.ledger 6) [] (Sale.run.ledger 12) :=
    .other [] _ _ .none (by decide +kernel)
  have first := scanned 12 1 Sale.seller rfl (by decide +kernel) listed
  have shipped : Anchored Sale.passport Sale.sealKey (Sale.run.ledger 6) [Sale.scanArgs 1] (Sale.run.ledger 15) :=
    .other _ _ _ first (by decide +kernel)
  exact scanned 15 2 Sale.buyer rfl (by decide +kernel) shipped

end OneSeal

theorem sale_grade_mirrors_chain : ∃ last, ConfirmsAll Settings.sample OneSeal.db [2,1] last ∧
    last.standing TwoSeals.serial =
      some (gradeCode (programFold OneSeal.history.scans).1,(programFold OneSeal.history.scans).2) ∧
    ∀ entries : List (PassportRow × Option (List Byte)),
      (∀ entry ∈ entries, entry.1.serial = TwoSeals.serial → ∀ acct, decodePassport Settings.sample entry.2 = .ok acct →
        PastAccount Escrow.Sale.passport Escrow.Sale.sealKey (Escrow.Sale.run.ledger 6) OneSeal.history.scans acct) →
      (entries.foldl (refreshPassport Settings.sample) last).standing TwoSeals.serial = last.standing TwoSeals.serial := by
  obtain ⟨last,confirmed⟩ := OneSeal.waiting.run_exists Settings.sample (List.reverse_perm _)
  exact ⟨last,confirmed,grade_mirrors_chain Settings.sample OneSeal.db last TwoSeals.serial (Escrow.Sale.hash 8) OneSeal.history
    OneSeal.history.views.reverse Escrow.Sale.passport Escrow.Sale.sealKey (Escrow.Sale.run.ledger 6) (Escrow.Sale.run.ledger 16)
    (by decide) (by decide +kernel) OneSeal.waiting OneSeal.matching OneSeal.rising OneSeal.recorded (List.reverse_perm _) confirmed⟩

end FlaconVault.Verifier
