import FlaconVault.Verifier.PurgeSeed
namespace FlaconVault.Verifier

-- The confirmed scans of a wallet that the seed did not bring, and those of them that count as certified.
namespace EventRow
variable (seeded : ℕ → Bool)

def realFor (key : Pubkey) (row : EventRow) : Bool := !seeded row.id && row.creditedTo key

def realCertified (key : Pubkey) (row : EventRow) : Bool :=
  row.realFor seeded key && row.payload.signedScan.any fun scan => decide (scan.tier.getD 0 ≥ Tier.CERTIFIED)

variable {seeded : ℕ → Bool} {key : Pubkey} {row : EventRow}

theorem realFor_open (closed : row.confirmedScan = false) : row.realFor seeded key = false := by
  simp [realFor,creditedTo,closed]

theorem realCertified_open (closed : row.confirmedScan = false) : row.realCertified seeded key = false := by
  simp [realCertified,realFor_open closed]

end EventRow

def Database.realCredit (db : Database) (seeded : ℕ → Bool) (key : Pubkey) : ℕ × ℕ :=
  (db.events.rows.countP (EventRow.realFor seeded key),db.events.rows.countP (EventRow.realCertified seeded key))

theorem Database.realCredit_insert {db : Database} {make : ℕ → EventRow} (named : ∀ number, (make number).id = number)
    (uncounted : (make db.events.next).confirmedScan = false) (seeded : ℕ → Bool) (key : Pubkey) :
    (db.insertEvent make named).realCredit seeded key = db.realCredit seeded key := by
  unfold realCredit
  rw [count_insert,count_insert,EventRow.realFor_open uncounted,EventRow.realCertified_open uncounted]
  rfl

-- What happens between the runs: the counters of a wallet rise by no less than its real scans.
structure Raises (seeded : ℕ → Bool) (db later : Database) : Prop where
  credits : ∀ key, later.realCredit seeded key+db.scanCredit key ≤ db.realCredit seeded key+later.scanCredit key
  rows : ∀ id, (later.getEvent id).isSome = true → (db.getEvent id).isSome = true ∨ db.events.next ≤ id
  next : db.events.next ≤ later.events.next

namespace Raises
variable {seeded : ℕ → Bool} {db later : Database}

theorem of_aside (aside : Aside db later) : Raises seeded db later where
  credits key := by
    unfold Database.realCredit
    rw [aside.events,aside.credits]
  rows id there := by
    unfold Database.getEvent at there ⊢
    exact .inl (aside.events ▸ there)
  next := (congrArg Log.next aside.events).ge

theorem refl (db : Database) : Raises seeded db db := of_aside (.refl db)

theorem of_settle {outcome : Except SqlError Database} (aside : ∀ later, outcome = .ok later → Aside db later) :
    Raises seeded db (Interleaved.settle db outcome) := by
  cases same : outcome with
  | ok later => exact of_aside (aside later same)
  | error error => exact refl db

theorem of_insert (make : ℕ → EventRow) (named : ∀ number, (make number).id = number)
    (uncounted : (make db.events.next).confirmedScan = false) : Raises seeded db (db.insertEvent make named) where
  credits key := by
    rw [Database.realCredit_insert named uncounted]
    exact le_rfl
  rows id there := by
    rw [Database.getEvent_insert] at there
    split at there
    · rename_i here
      exact .inr here.ge
    · exact .inl there
  next := Nat.le_succ _

theorem of_change {id : ℕ} {change : EventRow → EventRow} {keeps : ∀ row, (change row).id = row.id}
    (same : ∀ key row, db.getEvent id = some row → (change row).realFor seeded key = row.realFor seeded key ∧
      (change row).realCertified seeded key = row.realCertified seeded key) : Raises seeded db (db.updateEvent id change keeps) where
  credits key := by
    unfold Database.realCredit
    have next : (db.updateEvent id change keeps).events.next = db.events.next := rfl
    have rows (other : ℕ) : (db.updateEvent id change keeps).getEvent other =
        if other = id then (db.getEvent other).map change else db.getEvent other := Database.getEvent_update id other change keeps
    rw [Database.count_change (EventRow.realFor seeded key) next rows fun row found => (same key row found).1,
      Database.count_change (EventRow.realCertified seeded key) next rows fun row found => (same key row found).2]
    exact le_rfl
  rows other there := by
    rw [Database.getEvent_update] at there
    split at there
    · rw [Option.isSome_map] at there
      exact .inl there
    · exact .inl there
  next := le_rfl

theorem superseded_unconfirmed {event row : EventRow} {scan : ScanPayload} (gone : Database.superseded event scan row = true) :
    row.confirmedScan = false := by
  unfold Database.superseded at gone
  split at gone
  · simp only [Bool.and_eq_true,Option.isNone_iff_eq_none] at gone
    simp [EventRow.confirmedScan,gone.2]
  · cases gone

-- What the row of a confirmed scan adds to the real scans is no more than what it adds to the counters.
theorem attested_adds {event : EventRow} {scan : ScanPayload} {attester : Pubkey} {attestation : Attestation} {label : Option String}
    (actor : event.actor = some attester) (key : Pubkey) :
    let final := Database.attestedRow event scan attestation label
    ((final.realFor seeded key).toNat,(final.realCertified seeded key).toNat) ≤
      if key = attester then (1,if attestation.tier.getD 0 ≥ Tier.CERTIFIED then 1 else 0) else (0,0) := by
  intro final
  have shown : final.payload.signedScan = some (scan.attested attestation) := rfl
  by_cases here : key = attester
  · rw [if_pos here]
    refine Prod.mk_le_mk.mpr ⟨Bool.toNat_le _,?_⟩
    unfold EventRow.realCertified
    rw [shown,Option.any_some]
    by_cases certified : attestation.tier.getD 0 ≥ Tier.CERTIFIED
    · rw [if_pos certified]
      exact Bool.toNat_le _
    · have below : ((scan.attested attestation).tier.getD 0 ≥ Tier.CERTIFIED) ↔ False := iff_false_intro certified
      simp [below]
  · have other : (final.actor == some key) = false := by
      have owner : final.actor = some attester := actor
      rw [owner]
      simp [Ne.symm here]
    rw [if_neg here]
    simp [EventRow.realCertified,EventRow.realFor,EventRow.creditedTo,other]

-- A scan that is confirmed counts for its attester, in the counters and, if it is a real one, among the real scans.
theorem of_confirm (id : ℕ) (attester : Pubkey) (txSig : Option Signature) (ts : Int) (chain : Option ChainValues) :
    Raises seeded db (db.confirmScanRow id attester txSig ts chain) := by
  unfold Database.confirmScanRow
  cases chosen : (db.getEvent id).filter fun row => row.payload.signedScan.isSome && !row.confirmedScan && row.type == .scan with
  | none => exact refl db
  | some row =>
    dsimp only
    obtain ⟨found,holds⟩ := Option.filter_eq_some_iff.mp chosen
    simp only [Bool.and_eq_true,Bool.not_eq_true'] at holds
    obtain ⟨⟨signed,closed⟩,_⟩ := holds
    obtain ⟨scan,signed⟩ := Option.isSome_iff_exists.mp signed
    have named : row.id = id := (Database.getEvent_some.mp found).2
    generalize event_is : row.confirmedBy attester txSig = event
    have event_id : event.id = id := event_is ▸ named
    have event_signed : event.payload.signedScan = some scan := event_is ▸ signed
    have actor : event.actor = some attester := event_is ▸ rfl
    have plain (other : ℕ) : ((db.updateEvent id (EventRow.confirmedBy attester txSig) fun _ => rfl).upsertAttester attester ts).getEvent other =
        if other = id then some event else db.getEvent other := by
      refine (Database.getEvent_update id other _ _).trans ?_
      by_cases here : other = id
      · rw [if_pos here,if_pos here,here,found,← event_is]
        rfl
      · rw [if_neg here,if_neg here]
    generalize base_is : (db.updateEvent id (EventRow.confirmedBy attester txSig) fun _ => rfl).upsertAttester attester ts = base at plain ⊢
    have present : base.getEvent event.id = some event := by rw [plain,if_pos event_id]
    obtain ⟨label,after⟩ := Database.getEvent_applyConfirmedScan present event_signed (some attester) ts chain
    have rows (other : ℕ) : (base.applyConfirmedScan event (some attester) ts chain).getEvent other =
        if other = id then some (Database.attestedRow event scan (confirmedAttestation scan (some attester) chain) label)
        else (db.getEvent other).filter (!Database.superseded event scan ·) := by
      rw [after,plain,event_id]
      by_cases here : other = id
      · rw [if_pos here,if_pos here]
      · rw [if_neg here,if_neg here,if_neg here]
    have next : (base.applyConfirmedScan event (some attester) ts chain).events.next = db.events.next := by
      rw [Database.applyConfirmedScan_next,← base_is]
      rfl
    refine ⟨?_,?_,next.ge⟩
    · intro key
      have real := Database.count_confirm (EventRow.realFor seeded key) next found rows fun _ gone => EventRow.realFor_open (superseded_unconfirmed gone)
      have certified := Database.count_confirm (EventRow.realCertified seeded key) next found rows fun _ gone =>
        EventRow.realCertified_open (superseded_unconfirmed gone)
      rw [EventRow.realFor_open closed,Bool.toNat_false,Nat.add_zero] at real
      rw [EventRow.realCertified_open closed,Bool.toNat_false,Nat.add_zero] at certified
      have adds := @attested_adds seeded event scan attester (confirmedAttestation scan (some attester) chain) label actor key
      have before : base.scanCredit key = db.scanCredit key := by
        rw [← base_is,Database.scanCredit_upsert]
        rfl
      rw [Database.scanCredit_applyConfirmedScan event_signed,before]
      unfold Database.realCredit
      rw [real,certified]
      dsimp only at adds
      by_cases here : key = attester
      · rw [if_pos here] at adds ⊢
        obtain ⟨first,second⟩ := Prod.mk_le_mk.mp adds
        refine Prod.mk_le_mk.mpr ⟨?_,?_⟩
        · dsimp only
          omega
        · dsimp only
          omega
      · rw [if_neg here] at adds ⊢
        obtain ⟨first,second⟩ := Prod.mk_le_mk.mp adds
        refine Prod.mk_le_mk.mpr ⟨?_,?_⟩
        · dsimp only
          omega
        · dsimp only
          omega
    · intro other there
      rw [rows] at there
      split at there
      · rename_i here
        exact .inl (here ▸ Option.isSome_of_eq_some found)
      · obtain ⟨kept,there⟩ := Option.isSome_iff_exists.mp there
        exact .inl (Option.isSome_of_eq_some (Option.filter_eq_some_iff.mp there).1)

theorem of_partners (db : Database) (partners : List Pubkey) (ts : Int) : Aside db (db.syncRegistryPartners partners ts) := by
  unfold Database.syncRegistryPartners
  have known : Aside db (partners.foldl (fun db pubkey => db.upsertAttester pubkey ts) db) :=
    Aside.foldl (fun db pubkey => Aside.upsertAttester db pubkey ts) partners db
  exact known.trans (Aside.updateAttesters _ _ _ _ fun _ => ⟨rfl,rfl⟩)

end Raises

-- Every step between the runs.
theorem interleaved_raises {seeded : ℕ → Bool} (db : Database) (op : Interleaved) : Raises seeded db (op.step db) := by
  cases op with
  | logged row =>
    simp only [Interleaved.step]
    split
    · exact .refl db
    · rename_i open_row
      exact .of_insert _ _ (by simpa [EventRow.confirmedScan] using open_row)
  | rewritten id row =>
    simp only [Interleaved.step]
    split
    · rename_i open_rows
      simp only [Bool.and_eq_true,Bool.not_eq_true'] at open_rows
      refine .of_change ?_
      intro key old found
      rw [found,Option.any_some,Bool.not_eq_true'] at open_rows
      have after : ({row with id := old.id} : EventRow).confirmedScan = false := open_rows.2
      exact ⟨(EventRow.realFor_open after).trans (EventRow.realFor_open open_rows.1).symm,
        (EventRow.realCertified_open after).trans (EventRow.realCertified_open open_rows.1).symm⟩
    · exact .refl db
  | filled id txSig => exact .of_change fun key row _ => ⟨rfl,rfl⟩
  | confirmed id attester txSig ts chain => exact .of_confirm id attester txSig ts chain
  | seen pubkey ts => exact .of_aside (Aside.upsertAttester db pubkey ts)
  | registered partners ts => exact .of_aside (Raises.of_partners db partners ts)
  | listed row =>
    refine .of_settle ?_
    intro later accepted
    have rest := Aside.syncEscrowCounters accepted
    exact ⟨rest.seals,rest.events,rest.nonces,rest.taps,rest.applied,rest.credits⟩
  | outcome orderPda state blockTime ts order passport seller buyer price =>
    exact .of_settle fun later accepted => Aside.recordEscrowOutcome accepted
  | synced => exact .of_settle fun later accepted => Aside.syncEscrowCounters accepted

namespace Database

-- The escrow counters of a wallet, and its orders that have ended so.
def escrowCredit (db : Database) (key : Pubkey) : ℕ × ℕ := (db.getAttester key).elim (0,0) fun row => (row.escrowsOk,row.escrowsDisputed)

def endedOrders (db : Database) (state : ℕ) (key : Pubkey) : ℕ :=
  db.escrowOrders.rows.countP fun row => row.state == state && (row.seller == key || row.buyer == some key)

theorem endedOrders_none {db : Database} {key : Pubkey} (unlisted : SeedAttester.inOrders db key = false) (state : ℕ) :
    db.endedOrders state key = 0 := by
  unfold SeedAttester.inOrders at unlisted
  unfold endedOrders
  rw [List.countP_eq_zero]
  intro row inside
  have apart := List.any_eq_false.mp unlisted row inside
  simp only [Bool.and_eq_true,not_and]
  exact fun _ => apart

theorem realCredit_none {db : Database} {key : Pubkey} (idle : ∀ row ∈ db.events.rows, row.actor ≠ some key) (seeded : ℕ → Bool) :
    db.realCredit seeded key = (0,0) := by
  have closed : ∀ row ∈ db.events.rows, row.realFor seeded key = false := by
    intro row inside
    simp [EventRow.realFor,EventRow.creditedTo,idle row inside]
  unfold realCredit
  refine Prod.ext ?_ ?_
  · refine List.countP_eq_zero.mpr ?_
    intro row inside
    simp [closed row inside]
  · refine List.countP_eq_zero.mpr ?_
    intro row inside
    simp [EventRow.realCertified,closed row inside]

theorem realCredit_delete (db : Database) (gone : EventRow → Bool) (seeded : ℕ → Bool) (key : Pubkey) :
    ({db with events := db.events.delete gone} : Database).realCredit seeded key ≤ db.realCredit seeded key :=
  Prod.mk_le_mk.mpr ⟨List.filter_sublist.countP_le,List.filter_sublist.countP_le⟩

end Database

-- What the loop over the attesters of the seed does to one wallet.
inductive Cleaned (file : SeedFile) (purges : Bool) (db later : Database) (key : Pubkey) : Prop
  | same (alike : later.getAttester key = db.getAttester key)
  | gone (absent : later.getAttester key = none) (idle : ∀ row ∈ db.events.rows, row.actor ≠ some key)
      (unlisted : SeedAttester.inOrders db key = false)
  | stripped (attester : SeedAttester) (isPartner : Bool) (row : AttesterRow) (seed : file.attesters.get key = some attester)
      (found : db.getAttester key = some row) (after : later.getAttester key = some (attester.strip isPartner row))
      (purging : purges = true)

theorem Database.getAttester_update (db : Database) (pubkey : Pubkey) (change : AttesterRow → AttesterRow)
    (keeps : ∀ row, (change row).pubkey = row.pubkey) (key : Pubkey) : (db.updateAttester pubkey change keeps).getAttester key =
      (db.getAttester key).map fun row => if row.pubkey = pubkey then change row else row := by
  unfold Database.getAttester Database.updateAttester
  have updated : (db.attesters.update (·.pubkey = pubkey) change keeps).get key =
      (db.attesters.get key).map fun row => if decide (row.pubkey = pubkey) = true then change row else row := Table.get_update
  simpa only [decide_eq_true_eq] using updated

theorem Database.getAttester_delete (db : Database) (pubkey key : Pubkey) :
    ({db with attesters := db.attesters.delete (·.pubkey == pubkey)} : Database).getAttester key =
      (db.getAttester key).filter (!·.pubkey == pubkey) := Table.get_delete

namespace SeedAttester
variable {purges : Bool} {partners : Option (List Pubkey)} {done : Cleaning} {attester : SeedAttester}

theorem clean_only : (clean purges partners done attester).db.events = done.db.events ∧
    (clean purges partners done attester).db.escrowOrders = done.db.escrowOrders ∧
    (clean purges partners done attester).db.passports = done.db.passports := by
  unfold clean
  dsimp only
  split
  · exact ⟨rfl,rfl,rfl⟩
  · split
    · exact ⟨rfl,rfl,rfl⟩
    · split
      · exact ⟨rfl,rfl,rfl⟩
      · exact ⟨rfl,rfl,rfl⟩

theorem clean_other {key : Pubkey} (other : key ≠ attester.pubkey) :
    (clean purges partners done attester).db.getAttester key = done.db.getAttester key := by
  unfold clean
  dsimp only
  split
  · rfl
  · split
    · rw [Database.getAttester_delete]
      cases found : done.db.getAttester key with
      | none => rfl
      | some row =>
        have named : row.pubkey = key := (Table.get_some.mp found).2
        simp [Option.filter,named,other]
    · split
      · refine (Database.getAttester_update done.db attester.pubkey (attester.strip (partners.any (·.contains attester.pubkey)))
          (fun _ => rfl) key).trans ?_
        cases found : done.db.getAttester key with
        | none => rfl
        | some row =>
          have named : row.pubkey = key := (Table.get_some.mp found).2
          simp [named,other]
      · rfl

theorem clean_own (file : SeedFile) (seed : file.attesters.get attester.pubkey = some attester) :
    Cleaned file purges done.db (clean purges partners done attester).db attester.pubkey := by
  unfold clean
  dsimp only
  split
  · exact .same rfl
  · rename_i there
    split
    · rename_i leaves
      simp only [Bool.and_eq_true,Bool.not_eq_true'] at leaves
      refine .gone ?_ ?_ leaves.2
      · rw [Database.getAttester_delete]
        cases found : done.db.getAttester attester.pubkey with
        | none => rfl
        | some row =>
          have named : row.pubkey = attester.pubkey := (Table.get_some.mp found).2
          simp [Option.filter,named]
      · intro row inside acts
        have idle := List.any_eq_false.mp leaves.1.1 row inside
        simp [acts] at idle
    · split
      · rename_i purging
        rw [Option.isNone_iff_eq_none] at there
        obtain ⟨row,found⟩ := Option.ne_none_iff_exists'.mp there
        have named : row.pubkey = attester.pubkey := (Table.get_some.mp found).2
        refine .stripped attester (partners.any (·.contains attester.pubkey)) row seed found ?_ purging
        refine (Database.getAttester_update done.db attester.pubkey (attester.strip (partners.any (·.contains attester.pubkey)))
          (fun _ => rfl) attester.pubkey).trans ?_
        rw [found,Option.map_some,if_pos named]
      · exact .same rfl

theorem cleans_only (attesters : List SeedAttester) (done : Cleaning) :
    (attesters.foldl (clean purges partners) done).db.events = done.db.events ∧
      (attesters.foldl (clean purges partners) done).db.escrowOrders = done.db.escrowOrders ∧
      (attesters.foldl (clean purges partners) done).db.passports = done.db.passports := by
  induction attesters generalizing done with
  | nil => exact ⟨rfl,rfl,rfl⟩
  | cons first rest ih =>
    obtain ⟨events,orders,passports⟩ := ih (clean purges partners done first)
    obtain ⟨events',orders',passports'⟩ := @clean_only purges partners done first
    exact ⟨events.trans events',orders.trans orders',passports.trans passports'⟩

theorem cleans_other (attesters : List SeedAttester) (done : Cleaning) {key : Pubkey} (other : key ∉ attesters.map (·.pubkey)) :
    (attesters.foldl (clean purges partners) done).db.getAttester key = done.db.getAttester key := by
  induction attesters generalizing done with
  | nil => rfl
  | cons first rest ih =>
    rw [List.map_cons,List.mem_cons,not_or] at other
    exact (ih (clean purges partners done first) other.2).trans (clean_other other.1)

-- Each wallet has its turn once, with the rows and orders the loop started with.
theorem cleans_cleaned (file : SeedFile) (attesters : List SeedAttester) (done : Cleaning) (apart : (attesters.map (·.pubkey)).Nodup)
    (seed : ∀ attester ∈ attesters, file.attesters.get attester.pubkey = some attester) (key : Pubkey) :
    Cleaned file purges done.db (attesters.foldl (clean purges partners) done).db key := by
  induction attesters generalizing done with
  | nil => exact .same rfl
  | cons first rest ih =>
    rw [List.map_cons,List.nodup_cons] at apart
    obtain ⟨events,orders,_⟩ := @clean_only purges partners done first
    by_cases here : key = first.pubkey
    · subst here
      have later := @cleans_other purges partners rest (clean purges partners done first) first.pubkey apart.1
      rw [List.foldl_cons]
      cases @clean_own purges partners done first file (seed first List.mem_cons_self) with
      | same alike => exact .same (later.trans alike)
      | gone absent idle unlisted => exact .gone (later.trans absent) idle unlisted
      | stripped attester isPartner row named found after purging =>
        exact .stripped attester isPartner row named found (later.trans after) purging
    · have before := @clean_other purges partners done first key here
      cases ih (clean purges partners done first) apart.2 fun attester inside => seed attester (List.mem_cons_of_mem _ inside) with
      | same alike => exact .same (alike.trans before)
      | gone absent idle unlisted =>
        refine .gone absent (events ▸ idle) ?_
        unfold inOrders at unlisted ⊢
        rwa [orders] at unlisted
      | stripped attester isPartner row named found after purging =>
        exact .stripped attester isPartner row named (before.symm.trans found) after purging

-- Without rows to delete nobody is cleaned.
theorem cleans_idle (attesters : List SeedAttester) (done : Cleaning) :
    (attesters.foldl (clean false partners) done).cleaned = done.cleaned := by
  induction attesters generalizing done with
  | nil => rfl
  | cons first rest ih =>
    refine (ih (clean false partners done first)).trans ?_
    unfold clean
    dsimp only
    split
    · rfl
    · split
      · rfl
      · rfl

end SeedAttester

theorem SeedFile.tidyPassport_only (file : SeedFile) (chainPassports : String → Option PassportFacts) (touched : List String) (db : Database)
    (serial : String) : (file.tidyPassport chainPassports touched db serial).events = db.events ∧
      (file.tidyPassport chainPassports touched db serial).attesters = db.attesters ∧
      (file.tidyPassport chainPassports touched db serial).escrowOrders = db.escrowOrders := by
  unfold tidyPassport
  split
  · exact ⟨rfl,rfl,rfl⟩
  · dsimp only
    split
    · exact ⟨rfl,rfl,rfl⟩
    · split
      · split
        · exact ⟨rfl,rfl,rfl⟩
        · exact ⟨rfl,rfl,rfl⟩
      · exact ⟨rfl,rfl,rfl⟩

theorem SeedFile.tidyPassports_only (file : SeedFile) (chainPassports : String → Option PassportFacts) (touched serials : List String)
    (db : Database) : (serials.foldl (file.tidyPassport chainPassports touched) db).events = db.events ∧
      (serials.foldl (file.tidyPassport chainPassports touched) db).attesters = db.attesters ∧
      (serials.foldl (file.tidyPassport chainPassports touched) db).escrowOrders = db.escrowOrders := by
  induction serials generalizing db with
  | nil => exact ⟨rfl,rfl,rfl⟩
  | cons first rest ih =>
    obtain ⟨events,attesters,orders⟩ := ih (file.tidyPassport chainPassports touched db first)
    obtain ⟨events',attesters',orders'⟩ := file.tidyPassport_only chainPassports touched db first
    exact ⟨events.trans events',attesters.trans attesters',orders.trans orders'⟩

theorem Database.escrowCredit_upsert (db : Database) (pubkey : Pubkey) (ts : Int) (key : Pubkey) :
    (db.upsertAttester pubkey ts).escrowCredit key = db.escrowCredit key := by
  have known : (db.upsertAttester pubkey ts).getAttester key =
      if key = pubkey then some ((db.getAttester key).getD (.fresh pubkey ts)) else db.getAttester key := Table.get_ensure
  unfold escrowCredit
  rw [known]
  split
  · cases db.getAttester key with
    | none => rfl
    | some row => rfl
  · rfl

theorem Database.escrowCredit_attesters {db later : Database} (same : later.attesters = db.attesters) (key : Pubkey) :
    later.escrowCredit key = db.escrowCredit key := by
  unfold escrowCredit getAttester
  rw [same]

theorem markOf_put (marks : Table SeedMark.eventId) (mark : SeedMark) (id : ℕ) :
    markOf (marks.put mark) id = if id = mark.eventId then mark else markOf marks id := by
  unfold markOf
  rw [Table.get_put]
  split
  · rfl
  · rfl

-- What the rebuilt MINTs do: new rows that credit nobody.
structure Extends (world later : SeedWorld) : Prop where
  plans : later.plans = world.plans
  orders : later.db.escrowOrders = world.db.escrowOrders
  scans : ∀ key, later.db.scanCredit key = world.db.scanCredit key
  escrows : ∀ key, later.db.escrowCredit key = world.db.escrowCredit key
  real : ∀ seeded key, later.db.realCredit seeded key = world.db.realCredit seeded key
  rows : ∀ id, (later.db.getEvent id).isSome = true → (world.db.getEvent id).isSome = true ∨ world.db.events.next ≤ id
  next : world.db.events.next ≤ later.db.events.next
  old : ∀ id < world.db.events.next, markOf later.marks id = markOf world.marks id
  unseeded : (∀ other, world.db.events.next ≤ other → world.seeded other = false) →
    ∀ id, world.db.events.next ≤ id → later.seeded id = false

namespace Extends

theorem refl (world : SeedWorld) : Extends world world where
  plans := rfl
  orders := rfl
  scans _ := rfl
  escrows _ := rfl
  real _ _ := rfl
  rows _ there := .inl there
  next := le_rfl
  old _ _ := rfl
  unseeded plain := plain

theorem trans {world middle later : SeedWorld} (first : Extends world middle) (second : Extends middle later) : Extends world later where
  plans := second.plans.trans first.plans
  orders := second.orders.trans first.orders
  scans key := (second.scans key).trans (first.scans key)
  escrows key := (second.escrows key).trans (first.escrows key)
  real seeded key := (second.real seeded key).trans (first.real seeded key)
  rows id there := by
    rcases second.rows id there with before | above
    · exact first.rows id before
    · exact .inr (first.next.trans above)
  next := first.next.trans second.next
  old id below := (second.old id (below.trans_le first.next)).trans (first.old id below)
  unseeded plain id above := by
    have middle_plain := first.unseeded plain
    by_cases old : id < middle.db.events.next
    · have same : later.seeded id = middle.seeded id := congrArg SeedMark.seed (second.old id old)
      exact same.trans (middle_plain id above)
    · refine second.unseeded ?_ id (not_lt.mp old)
      intro other beyond
      exact middle_plain other (first.next.trans beyond)

theorem rebuilt (settings : Settings) (ts : Int) (world : SeedWorld) (item : String × PassportFacts × Option Signature) :
    Extends world (SeedWorld.rebuildMint settings ts world item) := by
  unfold SeedWorld.rebuildMint
  dsimp only
  split
  · exact refl world
  · rename_i passport chosen
    generalize (if item.2.1.createdAt.val = 0 then ts else item.2.1.createdAt.val) = created
    refine ⟨rfl,rfl,?_,?_,?_,?_,Nat.le_succ _,?_,?_⟩
    · intro key
      refine Eq.trans ?_ (Database.scanCredit_upsert world.db item.2.1.issuer key created)
      exact @Database.scanCredit_attesters (world.db.upsertAttester item.2.1.issuer created) _ rfl key
    · intro key
      refine Eq.trans ?_ (Database.escrowCredit_upsert world.db item.2.1.issuer created key)
      exact @Database.escrowCredit_attesters (world.db.upsertAttester item.2.1.issuer created) _ rfl key
    · intro seeded key
      exact Database.realCredit_insert _ rfl seeded key
    · intro id there
      by_cases here : id = world.db.events.next
      · exact .inr here.ge
      · rw [Database.getEvent_insert] at there
        exact .inl ((congrArg Option.isSome (if_neg here)).symm.trans there)
    · intro id below
      rw [markOf_put,if_neg below.ne]
    · intro plain id above
      unfold SeedWorld.seeded
      rw [markOf_put]
      split
      · rfl
      · exact plain id above

theorem rebuilds (settings : Settings) (ts : Int) (items : List (String × PassportFacts × Option Signature)) (world : SeedWorld) :
    Extends world (items.foldl (SeedWorld.rebuildMint settings ts) world) := by
  induction items generalizing world with
  | nil => exact refl world
  | cons first rest ih => exact (rebuilt settings ts world first).trans (ih _)

end Extends

theorem SeedWorld.markOf_kept (world : SeedWorld) (marks : Table SeedMark.eventId) (ids : List ℕ) (id : ℕ) :
    markOf (ids.foldl world.markKept marks) id =
      if id ∈ ids ∧ (world.db.getEvent id).isSome = true then (markOf marks id).asKept id else markOf marks id := by
  induction ids generalizing marks with
  | nil => simp
  | cons first rest ih =>
    have once : markOf (world.markKept marks first) id =
        if id = first ∧ (world.db.getEvent id).isSome = true then (markOf marks id).asKept id else markOf marks id := by
      unfold markKept
      by_cases here : id = first
      · subst here
        by_cases there : (world.db.getEvent id).isSome = true
        · rw [if_pos there,if_pos ⟨rfl,there⟩,markOf_put]
          exact if_pos rfl
        · rw [if_neg there,if_neg (there ·.2)]
      · rw [if_neg fun both : id = first ∧ (world.db.getEvent id).isSome = true => here both.1]
        by_cases there : (world.db.getEvent first).isSome = true
        · rw [if_pos there,markOf_put]
          exact if_neg here
        · rw [if_neg there]
    rw [List.foldl_cons,ih,once]
    by_cases there : (world.db.getEvent id).isSome = true
    · by_cases here : id = first
      · have twice : ((markOf marks id).asKept id).asKept id = (markOf marks id).asKept id := rfl
        simp [← here,there,twice]
      · simp [here]
    · simp [there]

-- What one run does to a wallet: nothing, or it goes with no row and no order left, or the seed's counters come off.
inductive Settled (file : SeedFile) (plan : Plan) (world later : SeedWorld) (key : Pubkey) : Prop
  | same (scans : later.db.scanCredit key = world.db.scanCredit key) (escrows : later.db.escrowCredit key = world.db.escrowCredit key)
  | gone (real : ∀ seeded, later.db.realCredit seeded key = (0,0)) (ended : ∀ state, later.db.endedOrders state key = 0)
  | stripped (attester : SeedAttester) (seed : file.attesters.get key = some attester) (purging : world.still plan ≠ [])
      (scans : later.db.scanCredit key =
        ((world.db.scanCredit key).1-attester.scanCount,(world.db.scanCredit key).2-attester.certifiedCount))
      (escrows : later.db.escrowCredit key =
        ((world.db.escrowCredit key).1-attester.escrowsOk,(world.db.escrowCredit key).2-attester.escrowsDisputed))

structure SeedPurge (file : SeedFile) (plan : Plan) (world later : SeedWorld) : Prop where
  plans : later.plans = world.plans
  orders : later.db.escrowOrders = world.db.escrowOrders
  real : ∀ seeded key, later.db.realCredit seeded key ≤ world.db.realCredit seeded key
  wallets : ∀ key, Settled file plan world later key
  rows : ∀ id, (later.db.getEvent id).isSome = true →
    (world.db.getEvent id).isSome = true ∧ id ∉ plan.delete ∨ world.db.events.next ≤ id
  next : world.db.events.next ≤ later.db.events.next
  old : ∀ id < world.db.events.next, later.seeded id = world.seeded id ∧
    (markOf later.marks id).fromChain = (markOf world.marks id).fromChain ∧
    (later.kept id = true ↔ world.kept id = true ∨ id ∈ plan.keep ∧ (world.db.getEvent id).isSome = true)
  unseeded : (∀ other, world.db.events.next ≤ other → world.seeded other = false) →
    ∀ id, world.db.events.next ≤ id → later.seeded id = false

theorem SeedWorld.still_iff {world : SeedWorld} {plan : Plan} {id : ℕ} :
    id ∈ world.still plan ↔ id ∈ plan.delete ∧ (world.db.getEvent id).isSome = true := List.mem_filter

theorem SeedWorld.deleteRows_next {world : SeedWorld} {ids : List ℕ} {later : Database} (events : later.events = (world.deleteRows ids).events) :
    later.events.next = world.db.events.next := by
  rw [events]
  rfl

-- After the loop over the attesters nothing touches the rows that were there or the counters.
theorem SeedPurge.of_cleaned {file : SeedFile} {plan : Plan} {world middle later : SeedWorld} {ids : List ℕ}
    (gone : world.still plan = ids) (cleaned : ∀ key, Cleaned file (!ids.isEmpty) (world.deleteRows ids) middle.db key)
    (events : middle.db.events = (world.deleteRows ids).events) (orders : middle.db.escrowOrders = world.db.escrowOrders)
    (plans : middle.plans = world.plans) (marks : middle.marks = plan.keep.foldl world.markKept world.marks)
    (extends_middle : Extends middle later) : SeedPurge file plan world later where
  plans := extends_middle.plans.trans plans
  orders := extends_middle.orders.trans orders
  real seeded key := by
    have alike : middle.db.realCredit seeded key = (world.deleteRows ids).realCredit seeded key := by
      unfold Database.realCredit
      rw [events]
    rw [extends_middle.real,alike]
    exact Database.realCredit_delete world.db _ seeded key
  wallets key := by
    cases cleaned key with
    | same alike =>
      have scans : middle.db.scanCredit key = world.db.scanCredit key := by
        unfold Database.scanCredit
        rw [alike]
        rfl
      have escrows : middle.db.escrowCredit key = world.db.escrowCredit key := by
        unfold Database.escrowCredit
        rw [alike]
        rfl
      exact .same ((extends_middle.scans key).trans scans) ((extends_middle.escrows key).trans escrows)
    | gone absent idle unlisted =>
      refine .gone ?_ ?_
      · intro seeded
        have alike : middle.db.realCredit seeded key = (world.deleteRows ids).realCredit seeded key := by
          unfold Database.realCredit
          rw [events]
        rw [extends_middle.real,alike,Database.realCredit_none idle]
      · intro state
        refine Database.endedOrders_none ?_ state
        unfold SeedAttester.inOrders at unlisted ⊢
        rw [extends_middle.orders,orders]
        exact unlisted
    | stripped attester isPartner row seed found after purging =>
      have there : world.db.getAttester key = some row := found
      refine .stripped attester seed ?_ ?_ ?_
      · intro nothing
        rw [← gone,nothing] at purging
        cases purging
      · rw [extends_middle.scans]
        unfold Database.scanCredit
        rw [after,there]
        rfl
      · rw [extends_middle.escrows]
        unfold Database.escrowCredit
        rw [after,there]
        rfl
  rows id there := by
    have same_next := SeedWorld.deleteRows_next events
    rcases extends_middle.rows id there with before | above
    · left
      have same : middle.db.getEvent id = (world.deleteRows ids).getEvent id := by
        unfold Database.getEvent
        rw [events]
      rw [same] at before
      obtain ⟨row,found⟩ := Option.isSome_iff_exists.mp before
      have deleted : (world.deleteRows ids).getEvent id = (world.db.getEvent id).filter fun row => !ids.contains row.id :=
        Database.getEvent_delete _ id
      obtain ⟨present,kept⟩ := Option.filter_eq_some_iff.mp (deleted ▸ found)
      have there_before := Option.isSome_of_eq_some present
      refine ⟨there_before,?_⟩
      intro planned
      have listed : id ∈ ids := gone ▸ SeedWorld.still_iff.mpr ⟨planned,there_before⟩
      rw [(Database.getEvent_some.mp present).2] at kept
      simp [listed] at kept
    · exact .inr (same_next ▸ above)
  next := (SeedWorld.deleteRows_next events).ge.trans extends_middle.next
  old id below := by
    have same_next := SeedWorld.deleteRows_next events
    have mark := extends_middle.old id (same_next ▸ below)
    rw [marks,world.markOf_kept] at mark
    unfold SeedWorld.seeded SeedWorld.kept
    rw [mark]
    split
    · rename_i both
      exact ⟨rfl,rfl,iff_of_true rfl (.inr both)⟩
    · rename_i neither
      exact ⟨rfl,rfl,(or_iff_left neither).symm⟩
  unseeded plain := by
    have same_next := SeedWorld.deleteRows_next events
    intro id above
    refine extends_middle.unseeded ?_ id (same_next ▸ above)
    intro other beyond
    unfold SeedWorld.seeded
    rw [marks,world.markOf_kept]
    split
    · exact plain other (same_next ▸ beyond)
    · exact plain other (same_next ▸ beyond)

theorem apply_purged (settings : Settings) (file : SeedFile) (world : SeedWorld) (plan : Plan) (ts : Int) :
    SeedPurge file plan world (world.apply settings file plan ts).1 := by
  unfold SeedWorld.apply
  dsimp only
  generalize gone : world.still plan = ids
  generalize (world.db.events.rows.filter (ids.contains ·.id)).map (·.serial) = touched
  have cleans (key : Pubkey) := @SeedAttester.cleans_cleaned (!ids.isEmpty) plan.partners file file.attesters.rows
    ⟨world.deleteRows ids,[],[]⟩ file.attesters.unique (fun attester inside => Table.get_of_mem inside) key
  obtain ⟨events,orders,_⟩ := @SeedAttester.cleans_only (!ids.isEmpty) plan.partners file.attesters.rows ⟨world.deleteRows ids,[],[]⟩
  generalize file.attesters.rows.foldl (SeedAttester.clean (!ids.isEmpty) plan.partners) ⟨world.deleteRows ids,[],[]⟩ = cleaning
    at cleans events orders
  obtain ⟨events',attesters',orders'⟩ := file.tidyPassports_only plan.passports touched file.serials cleaning.db
  refine @SeedPurge.of_cleaned file plan world
    ⟨file.serials.foldl (file.tidyPassport plan.passports touched) cleaning.db,plan.keep.foldl world.markKept world.marks,world.plans⟩ _ ids gone
    ?_ (events'.trans events) (orders'.trans orders) rfl rfl (.rebuilds settings ts plan.mintFromChain _)
  intro key
  have alike : (file.serials.foldl (file.tidyPassport plan.passports touched) cleaning.db).getAttester key =
      cleaning.db.getAttester key := by
    unfold Database.getAttester
    rw [attesters']
  cases cleans key with
  | same unchanged => exact .same (alike.trans unchanged)
  | gone absent idle unlisted => exact .gone (alike.trans absent) idle unlisted
  | stripped attester isPartner row seed found after purging => exact .stripped attester isPartner row seed found (alike.trans after) purging

end FlaconVault.Verifier
