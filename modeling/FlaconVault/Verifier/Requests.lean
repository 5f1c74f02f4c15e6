import FlaconVault.Verifier.Jobs
namespace FlaconVault.Verifier
open Guards

-- The requests that write at once, part by part: the check of the tap, the log of taps, and the event.

-- A consuming check: a genuine tap counts only above the highest counter of its chip.
inductive Checked (settings : Settings) (db : Database) : TapCheck → Database → Prop
  | invalid (check : TapCheck) (verdict : check.verdict = .invalid) : Checked settings db check db
  | replay (check : TapCheck) (verdict : check.verdict = .replay) : Checked settings db check db
  | unregistered (uid : Uid) (counter : U24) (cmac : List Byte) (encrypted : Bool) (absent : db.getSealByUid uid = none)
      (fresh : db.lastCounterUnregistered uid < counter.val) :
      Checked settings db ⟨.unregistered,some (.chip uid),some (settings.uidHash uid),some counter,some cmac,none,none,encrypted⟩ db
  | valid (uid : Uid) (counter : U24) (cmac : List Byte) (encrypted : Bool) (row : SealRow) (found : db.getSealByUid uid = some row)
      (fresh : row.lastCounter < counter.val) :
      Checked settings db ⟨.valid,some (.chip uid),some (settings.uidHash uid),some counter,some cmac,
        some {row with lastCounter := counter},none,encrypted⟩ (db.advanceSealCounter row.uidHash counter)

theorem authenticateEncrypted_invalid {settings : Settings} {piccData cmac : String} {enc : Option String} {check : TapCheck}
    (refused : authenticateEncrypted settings piccData cmac enc = .invalid check) : check.verdict = .invalid := by
  unfold authenticateEncrypted at refused
  dsimp only at refused
  rcases branch refused with long | short
  · exact TapAuth.invalid.inj long.2 ▸ rfl
  · have refused := short.2
    split at refused
    · exact TapAuth.invalid.inj refused ▸ rfl
    · split at refused
      · exact TapAuth.invalid.inj refused ▸ rfl
      · cases refused

theorem authenticateTap_invalid {settings : Settings} {params : TapParams} {check : TapCheck}
    (refused : authenticateTap settings params = .invalid check) : check.verdict = .invalid := by
  unfold authenticateTap at refused
  split at refused
  · split at refused
    · exact TapAuth.invalid.inj refused ▸ rfl
    · exact authenticateEncrypted_invalid refused
  · rcases branch refused with long | short
    · exact TapAuth.invalid.inj long.2 ▸ rfl
    · have refused := short.2
      split at refused
      · dsimp only at refused
        split at refused
        · exact TapAuth.invalid.inj refused ▸ rfl
        · rcases branch refused with genuine | wrong
          · cases genuine.2
          · exact TapAuth.invalid.inj wrong.2 ▸ rfl
      · exact TapAuth.invalid.inj refused ▸ rfl

theorem checkTap_checked {settings : Settings} {db later : Database} {params : TapParams} {check : TapCheck}
    (checked : checkTap settings db (authenticateTap settings params) true = (later,check)) : Checked settings db check later := by
  unfold checkTap at checked
  cases authentic : authenticateTap settings params with
  | invalid refused =>
    rw [authentic] at checked
    obtain ⟨rfl,rfl⟩ := Prod.mk.inj checked
    exact .invalid refused (authenticateTap_invalid authentic)
  | genuine uid counter cmac encrypted =>
    rw [authentic] at checked
    dsimp only at checked
    rcases branch checked with low | high
    · obtain ⟨rfl,rfl⟩ := Prod.mk.inj low.2
      exact .replay _ rfl
    · obtain ⟨fresh,checked⟩ := high
      cases found : db.getSealByUid uid with
      | none =>
        rw [found] at checked fresh
        obtain ⟨rfl,rfl⟩ := Prod.mk.inj checked
        exact .unregistered uid counter cmac encrypted found (Nat.lt_of_not_le fresh)
      | some row =>
        rw [found] at checked fresh
        obtain ⟨rfl,rfl⟩ := Prod.mk.inj checked
        exact .valid uid counter cmac encrypted row found (Nat.lt_of_not_le fresh)

-- An adoption: a tap of the landing page, once, with its token and in time.
structure Adopts (settings : Settings) (db : Database) (tapId : ℕ) (token : Option String) (now : Int) (tap : TapRow) : Prop where
  found : db.getTap tapId = some tap
  source : tap.source = .t
  verdict : tap.verdict = .valid
  unused : tap.adoptedAt = none
  window : now-tap.ts ≤ ADOPT_WINDOW_S
  token : tokenMatches settings token tap.adoptHash = true

theorem adopted_keeps (now : Int) (row : TapRow) : {row with adoptedAt := some now}.id = row.id := rfl

def Database.adopted (db : Database) (tapId : ℕ) (now : Int) : Database :=
  {db with taps := db.taps.update (·.id = tapId) (fun row => {row with adoptedAt := some now}) (adopted_keeps now)}

inductive Adopted (settings : Settings) (db : Database) (tapId : ℕ) (token : Option String) (now : Int) :
    TapCheck → Database → Prop
  | refused (check : TapCheck) (verdict : check.verdict = .invalid ∨ check.verdict = .replay) :
      Adopted settings db tapId token now check db
  | adopted (tap : TapRow) (uid : Uid) (counter : U24) (adopts : Adopts settings db tapId token now tap)
      (shown : tap.uid = some (.chip uid)) (counted : tap.ctr = some counter) :
      Adopted settings db tapId token now ⟨if (db.getSealByUid uid).isSome then .valid else .unregistered,some (.chip uid),
        some (settings.uidHash uid),some counter,tap.cmac,db.getSealByUid uid,none,false⟩ (db.adopted tapId now)

theorem markTapAdopted_some {db later : Database} {id : ℕ} {ts : Int} (marked : db.markTapAdopted id ts = some later) :
    later = db.adopted id ts := by
  unfold Database.markTapAdopted at marked
  split at marked
  · split at marked <;> cases marked
    rfl
  · cases marked

theorem adoptTap_adopted {settings : Settings} {db later : Database} {tapId : ℕ} {token : Option String} {now : Int}
    {check : TapCheck} (adopted : adoptTap settings db tapId token now = (later,check)) :
    Adopted settings db tapId token now check later := by
  unfold adoptTap at adopted
  split at adopted
  · obtain ⟨rfl,rfl⟩ := Prod.mk.inj adopted
    exact .refused _ (.inl rfl)
  · rename_i tap found
    rcases branch adopted with foreign | own
    · obtain ⟨rfl,rfl⟩ := Prod.mk.inj foreign.2
      exact .refused _ (.inl rfl)
    · obtain ⟨fits,adopted⟩ := own
      push Not at fits
      split at adopted
      · rename_i uid counter verdict shown counted
        dsimp only at adopted
        rcases branch adopted with used | unused
        · obtain ⟨rfl,rfl⟩ := Prod.mk.inj used.2
          exact .refused _ (.inr rfl)
        · obtain ⟨unused,adopted⟩ := unused
          rcases branch adopted with late | intime
          · obtain ⟨rfl,rfl⟩ := Prod.mk.inj late.2
            exact .refused _ (.inr rfl)
          · obtain ⟨window,adopted⟩ := intime
            split at adopted
            · obtain ⟨rfl,rfl⟩ := Prod.mk.inj adopted
              exact .refused _ (.inr rfl)
            · rename_i marked done
              have same := markTapAdopted_some done
              subst same
              obtain ⟨rfl,rfl⟩ := Prod.mk.inj adopted
              refine .adopted tap uid counter ⟨found,fits.1,verdict,?_,by omega,?_⟩ shown counted
              · simpa using unused
              · simpa using fits.2
      · obtain ⟨rfl,rfl⟩ := Prod.mk.inj adopted
        exact .refused _ (.inl rfl)

-- A tap row that a request logs: a new id, and nothing else changes.
structure Logged (db : Database) (tap : TapRow) (later : Database) : Prop where
  fresh : db.getTap tap.id = none
  rows : later.taps.rows = db.taps.rows ++ [tap]
  rest : later = {db with taps := later.taps}

theorem insertTap_logged {db later : Database} {ids : List ℕ} {make : ℕ → TapRow} {tap : TapRow}
    (stored : db.insertTapRandomId ids make = .ok (later,tap)) : Logged db tap later ∧ ∃ id, tap = make id := by
  unfold Database.insertTapRandomId at stored
  split at stored
  · rename_i taps row found
    obtain ⟨rfl,rfl⟩ := Prod.mk.inj (Except.ok.inj stored)
    obtain ⟨id,_,made⟩ := List.exists_of_findSome?_eq_some found
    obtain ⟨grown,inserted,same⟩ := Option.map_eq_some_iff.mp made
    obtain ⟨rfl,rfl⟩ := Prod.mk.inj same
    obtain ⟨fresh,rows⟩ := Table.insert_some.mp inserted
    exact ⟨⟨fresh,rows,rfl⟩,id,rfl⟩
  · cases stored

-- The verdict of a request: a dead seal does not respond.
def TapCheck.answered (check : TapCheck) : Verdict :=
  if check.verdict = .valid ∧ check.sealDead then .noResponse else check.verdict

theorem TapCheck.answered_valid {check : TapCheck} (valid : check.answered = .valid) :
    check.sealDead = false ∧ check.verdict = .valid := by
  unfold TapCheck.answered at valid
  rcases branch valid with dead | alive
  · cases dead.2
  · obtain ⟨other,verdict⟩ := alive
    simpa [verdict] using other

inductive Purged (db : Database) : Database → Prop
  | kept : Purged db db
  | purged (before : Int) : Purged db (db.purgeInvalidTaps before)

-- What a landing leaves: the check, a row in the log of taps, and for a valid tap its sighting.
inductive Landing (settings : Settings) (db : Database) (around : Surroundings) (answer : TagAnswer) (later : Database) : Prop
  | unlogged (checked : Checked settings db answer.check db) (verdict : answer.check.verdict = .invalid)
      (rest : Purged db later)
  | quiet (checked logged : Database) (tap : TapRow) (check : Checked settings db answer.check checked)
      (log : Logged checked tap logged) (row : tap = landedTap answer.check answer.verdict around.now.val none tap.id)
      (verdict : answer.verdict = answer.check.answered) (silent : answer.verdict ≠ .valid) (rest : Purged logged later)
  | sighted (checked logged : Database) (tap : TapRow) (row : SealRow) (counter : U24)
      (check : Checked settings db answer.check checked) (log : Logged checked tap logged)
      (made : tap = landedTap answer.check .valid around.now.val (some (settings.tokenHash around.token)) tap.id)
      (verdict : answer.check.verdict = .valid) (named : answer.check.sealRow = some row) (counted : answer.check.counter = some counter)
      (shown : answer.tap = some tap) (told : answer.token = some around.token)
      (rest : Purged (logged.insertEvent (sightingEvent logged row counter tap.id around.now.val) (fun _ => rfl)) later)

theorem Purged.of_if {db later : Database} {purge : Bool} {before : Int}
    (same : (if purge = true then db.purgeInvalidTaps before else db) = later) : Purged db later := by
  rcases branch same with purged | kept
  · exact purged.2 ▸ .purged before
  · exact kept.2 ▸ .kept

theorem tagLanding_landing {settings : Settings} {db later : Database} {params : TapParams} {around : Surroundings} {purge : Bool}
    {answer : TagAnswer} (accepted : tagLanding settings db params around purge = .ok (later,answer)) :
    Landing settings db around answer later := by
  unfold tagLanding at accepted
  generalize tapped : checkTap settings db (authenticateTap settings params) true = outcome at accepted
  obtain ⟨checked,check⟩ := outcome
  have check_is := checkTap_checked tapped
  dsimp only at accepted
  generalize verdict_is : (if check.verdict = .valid ∧ check.sealDead = true then Verdict.noResponse else check.verdict) = verdict at accepted
  have answered : verdict = check.answered := verdict_is.symm
  rcases branch accepted with unshown | logged
  · obtain ⟨⟨invalid,_⟩,accepted⟩ := unshown
    obtain ⟨stored,nothing,accepted⟩ := bind_ok.mp accepted
    cases pure_ok.mp nothing
    obtain ⟨later_is,rfl⟩ := Prod.mk.inj (pure_ok.mp accepted)
    have rest := Purged.of_if later_is
    rw [invalid] at rest
    have plain : check.verdict = .invalid := by
      unfold TapCheck.answered at answered
      rw [invalid] at answered
      split at answered
      · cases answered
      · exact answered.symm
    cases check_is with
    | invalid => exact .unlogged (.invalid check plain) plain rest
    | replay _ replay => exact absurd (plain.symm.trans replay) (by simp)
    | unregistered => cases plain
    | valid => cases plain
  · obtain ⟨_,accepted⟩ := logged
    obtain ⟨stored,wrote,accepted⟩ := bind_ok.mp accepted
    obtain ⟨⟨logged,tap⟩,inserted,rfl⟩ := map_ok.mp wrote
    obtain ⟨log,id,made⟩ := insertTap_logged (sql_ok.mp inserted)
    have named : tap.id = id := made ▸ rfl
    obtain ⟨later_is,rfl⟩ := Prod.mk.inj (pure_ok.mp accepted)
    have rest := Purged.of_if later_is
    by_cases valid : verdict = .valid
    · rw [valid] at rest answered
      rw [valid,if_pos rfl,← named] at made
      obtain ⟨alive,sound⟩ := TapCheck.answered_valid answered.symm
      cases check_is with
      | invalid _ verdict => exact absurd (verdict.symm.trans sound) (by simp)
      | replay _ verdict => exact absurd (verdict.symm.trans sound) (by simp)
      | unregistered => cases sound
      | valid uid counter cmac encrypted row found fresh =>
        exact .sighted _ logged tap _ counter (.valid uid counter cmac encrypted row found fresh) log made rfl rfl rfl rfl
          (if_pos valid) rest
    · rw [if_neg valid,← named] at made
      refine .quiet checked logged tap check_is log made answered valid ?_
      split at rest
      · exact absurd rfl valid
      · exact rest

-- A session that may still be used: its row, as the request found it.
structure Live (db : Database) (session : NonceRow) (now : Int) : Prop where
  found : db.getNonce session.nonce = some session
  unused : session.usedAt = none
  inside : now ≤ session.expiresAt

theorem live_of_filter {db : Database} {text : Option Bytes32} {session : NonceRow} {now : Int}
    (found : ((text.bind db.getNonce).filter fun row => row.usedAt.isNone && decide (now ≤ row.expiresAt)) = some session) :
    Live db session now := by
  obtain ⟨read,open_row⟩ := Option.filter_eq_some_iff.mp found
  obtain ⟨nonce,_,there⟩ := Option.bind_eq_some_iff.mp read
  simp only [Bool.and_eq_true,Option.isNone_iff_eq_none,decide_eq_true_eq] at open_row
  have named : session.nonce = nonce := (Table.get_some.mp there).2
  exact ⟨named ▸ there,open_row.1,open_row.2⟩

-- How a request to sign consumes its tap: directly, or by adopting one of the landing page.
inductive Tapped (settings : Settings) (db : Database) (body : VerifyBody) (now : Int) (check : TapCheck) (checked : Database) : Prop
  | direct (plain : body.tapId = none) (check : Checked settings db check checked)
  | adopted (tapId : ℕ) (asked : body.tapId = some tapId) (adoption : Adopted settings db tapId body.tapToken now check checked)

inductive Verifying (settings : Settings) (db : Database) (body : VerifyBody) (around : Surroundings) (answer : VerifyAnswer) :
    Database → Prop
  | nonceInvalid (verdict : answer.verdict = .nonceInvalid) (unchecked : answer.check = none) (unsigned : answer.signed = none) :
      Verifying settings db body around answer db
  | unlogged (check : TapCheck) (checked : Database) (tapped : Tapped settings db body around.now.val check checked)
      (bare : check.uid.filter (· ≠ .text "") = none) (verdict : answer.verdict = check.answered) (shown : answer.check = some check)
      (unsigned : answer.signed = none) (silent : answer.verdict ≠ .valid) : Verifying settings db body around answer checked
  | logged (check : TapCheck) (checked logged : Database) (tap : TapRow)
      (tapped : Tapped settings db body around.now.val check checked) (log : Logged checked tap logged)
      (made : tap = tapOf check answer.verdict around.now.val tap.id) (verdict : answer.verdict = check.answered)
      (shown : answer.check = some check) (unsigned : answer.signed = none) (silent : answer.verdict ≠ .valid) :
      Verifying settings db body around answer logged
  | signed (check : TapCheck) (checked logged : Database) (tap : TapRow) (session : NonceRow) (row : SealRow)
      (uidHash : Bytes32) (counter : U24) (mediaHash : Bytes32)
      (admitted : admitVerify settings db body around = .ok mediaHash) (live : Live db session around.now.val)
      (tapped : Tapped settings db body around.now.val check checked) (log : Logged checked tap logged)
      (made : tap = tapOf check .valid around.now.val tap.id) (verdict : answer.verdict = .valid)
      (shown : answer.check = some check) (valid : check.verdict = .valid) (alive : check.sealDead = false)
      (named : check.sealRow = some row) (hashed : check.uidHash = some uidHash) (counted : check.counter = some counter)
      (signed : answer.signed = some (signScan settings logged body around row uidHash counter mediaHash session
        (computeGrade .valid Tamper.UNKNOWN body.heat.val body.humidity.val body.fill.val false)).2) :
      Verifying settings db body around answer (signScan settings logged body around row uidHash counter mediaHash session
        (computeGrade .valid Tamper.UNKNOWN body.heat.val body.humidity.val body.fill.val false)).1

-- A valid check names its seal, its hash and its counter.
theorem Tapped.valid {settings : Settings} {db checked : Database} {body : VerifyBody} {now : Int} {check : TapCheck}
    (tapped : Tapped settings db body now check checked) (valid : check.verdict = .valid) :
    ∃ uid row counter, check.uid = some (.chip uid) ∧ check.sealRow = some row ∧ check.uidHash = some (settings.uidHash uid) ∧
      check.counter = some counter := by
  cases tapped with
  | direct _ direct =>
    cases direct with
    | invalid _ verdict => exact absurd (verdict.symm.trans valid) (by simp)
    | replay _ verdict => exact absurd (verdict.symm.trans valid) (by simp)
    | unregistered => cases valid
    | valid uid counter cmac encrypted row => exact ⟨uid,_,counter,rfl,rfl,rfl,rfl⟩
  | adopted tapId _ adoption =>
    cases adoption with
    | refused _ verdict =>
      rcases verdict with invalid | replay
      · exact absurd (invalid.symm.trans valid) (by simp)
      · exact absurd (replay.symm.trans valid) (by simp)
    | adopted tap uid counter adopts shown counted =>
      have registered : (db.getSealByUid uid).isSome := by
        by_contra absent
        rw [if_neg absent] at valid
        cases valid
      obtain ⟨row,found⟩ := Option.isSome_iff_exists.mp registered
      exact ⟨uid,row,counter,rfl,found,rfl,rfl⟩

theorem verify_verifying {settings : Settings} {db later : Database} {body : VerifyBody} {around : Surroundings}
    {answer : VerifyAnswer} (accepted : verify settings db body around = .ok (later,answer)) :
    Verifying settings db body around answer later := by
  unfold verify at accepted
  obtain ⟨mediaHash,admitted,accepted⟩ := bind_ok.mp accepted
  extract_lets now gradeFor session at accepted
  have session_is : session = ((parseHash body.nonce).bind db.getNonce).filter
    fun row => row.usedAt.isNone && decide (around.now.val ≤ row.expiresAt) := rfl
  clear_value session
  split at accepted
  · obtain ⟨rfl,rfl⟩ := Prod.mk.inj (pure_ok.mp accepted)
    exact .nonceInvalid rfl rfl rfl
  · rename_i session
    have live := live_of_filter session_is.symm
    split at accepted
    rename_i checked check outcome
    have tapped : Tapped settings db body around.now.val check checked := by
      split at outcome
      · rename_i tapId asked
        exact .adopted tapId asked (adoptTap_adopted outcome)
      · rename_i plain
        exact .direct plain (checkTap_checked outcome)
    extract_lets verdict graded jp at accepted
    have answered : verdict = check.answered := rfl
    clear_value verdict
    obtain ⟨_,_,accepted⟩ := bind_ok.mp accepted
    split at accepted
    · obtain ⟨logged,stored,accepted⟩ := bind_ok.mp accepted
      obtain ⟨⟨logged,tap⟩,inserted,rfl⟩ := map_ok.mp stored
      obtain ⟨log,id,made⟩ := insertTap_logged (sql_ok.mp inserted)
      have made : tap = tapOf check verdict around.now.val tap.id := made ▸ rfl
      dsimp only [jp] at accepted
      by_cases valid : verdict = .valid
      · obtain ⟨alive,sound⟩ := TapCheck.answered_valid (answered.symm.trans valid)
        obtain ⟨uid,row,counter,shown,named,hashed,counted⟩ := tapped.valid sound
        rw [valid,named,hashed,counted] at accepted
        dsimp only at accepted
        obtain ⟨rfl,rfl⟩ := Prod.mk.inj (pure_ok.mp accepted)
        rw [valid] at made
        have graded_is : graded = computeGrade .valid Tamper.UNKNOWN body.heat.val body.humidity.val body.fill.val false := by
          simp [graded,gradeFor,alive,valid]
        rw [graded_is]
        exact .signed check checked logged tap session row _ counter mediaHash admitted live tapped log made rfl rfl sound alive named
          hashed counted rfl
      · split at accepted
        · exact absurd rfl valid
        · obtain ⟨rfl,rfl⟩ := Prod.mk.inj (pure_ok.mp accepted)
          exact .logged check checked logged tap tapped log made answered rfl rfl valid
    · rename_i bare
      obtain ⟨logged,stored,accepted⟩ := bind_ok.mp accepted
      cases pure_ok.mp stored
      dsimp only [jp] at accepted
      have silent : verdict ≠ .valid := by
        intro valid
        obtain ⟨uid,_,_,shown,_⟩ := tapped.valid (TapCheck.answered_valid (answered.symm.trans valid)).2
        rw [shown] at bare
        cases bare
      split at accepted
      · exact absurd rfl silent
      · obtain ⟨rfl,rfl⟩ := Prod.mk.inj (pure_ok.mp accepted)
        exact .unlogged check checked tapped bare answered rfl rfl silent

-- A report of a dead seal, for an unused session.
structure Reported (db : Database) (now : Int) (later : Database) (serial : String) (sealUidHash : Option Bytes32) (source : String)
    (note : Option String) (reportedBy : Option Pubkey) (passport : PassportRow) (session : NonceRow) : Prop where
  live : Live db session now
  same : later = (db.consumeNonce session.nonce now).insertEvent (reportEvent serial sealUidHash source note reportedBy passport now)
    (fun _ => rfl)

theorem reportSealDead_reported {settings : Settings} {db later : Database} {body : EventBody} {now : I64} {allowed : Bool}
    {row : EventRow} (accepted : reportSealDead settings db body now allowed = .ok (later,row)) :
    ∃ serial sealUidHash source note reportedBy passport session,
      Reported db now.val later serial sealUidHash source note reportedBy passport session := by
  unfold reportSealDead at accepted
  obtain ⟨_,_,accepted⟩ := bind_ok.mp accepted
  obtain ⟨serial,_,accepted⟩ := bind_ok.mp accepted
  obtain ⟨_,_,accepted⟩ := bind_ok.mp accepted
  dsimp only at accepted
  split at accepted
  all_goals
    obtain ⟨sentSeal,_,accepted⟩ := bind_ok.mp accepted
    obtain ⟨text,_,accepted⟩ := bind_ok.mp accepted
    obtain ⟨nonce,_,accepted⟩ := bind_ok.mp accepted
    obtain ⟨_,_,accepted⟩ := bind_ok.mp accepted
    obtain ⟨passport,_,accepted⟩ := bind_ok.mp accepted
    split at accepted
    on_goal 1 => obtain ⟨_,_,accepted⟩ := bind_ok.mp accepted
    all_goals
      obtain ⟨session,found,accepted⟩ := bind_ok.mp accepted
      rw [orRefuse_ok] at found
      have found : (((some nonce).bind db.getNonce).filter fun row => row.usedAt.isNone && decide (now.val ≤ row.expiresAt)) =
        some session := found
      obtain ⟨_,_,accepted⟩ := bind_ok.mp accepted
      obtain ⟨rfl,_⟩ := Prod.mk.inj (pure_ok.mp accepted)
      exact ⟨_,_,_,_,_,_,session,live_of_filter found,rfl⟩

-- A new session; what it purges was used, or is long over.
structure Issued (db : Database) (nonce : Bytes32) (now : Int) (expiresAt : Int) (later : Database) : Prop where
  fresh : db.getNonce nonce = none
  rows : ∃ nonces, db.nonces.insert ⟨nonce,now,expiresAt,none⟩ = some nonces ∧
    later = Database.purgeNonces {db with nonces := nonces} now

theorem session_issued {settings : Settings} {db later : Database} {nonce issued : Bytes32} {now : I64}
    (accepted : session settings db nonce now = .ok (later,issued)) :
    issued = nonce ∧ Issued db nonce now.val (now.val+settings.nonceTtl) later := by
  unfold session at accepted
  obtain ⟨stored,wrote,accepted⟩ := bind_ok.mp accepted
  obtain ⟨rfl,rfl⟩ := Prod.mk.inj (pure_ok.mp accepted)
  have wrote := sql_ok.mp wrote
  unfold Database.insertNonce at wrote
  split at wrote
  · rename_i nonces inserted
    cases wrote
    exact ⟨rfl,(Table.insert_some.mp inserted).1,nonces,inserted,rfl⟩
  · cases wrote

-- Who writes when a job finishes.
def Job.cause : Job → Cause
  | .event _ => .request
  | .confirm job => .confirm job.eventId
  | .fail eventId txSig => .failure eventId txSig
  | .reconcile job => .cycle job.ts.val

-- What one step of a run can do to the database, part by part.
inductive Changes (settings : Settings) (server : Server) : Action → Database → Answer → Prop
  | none (action : Action) (answer : Answer) : Changes settings server action server.db answer
  | finished (index : ℕ) (now : I64) (job : Job) (answer : Answer) (later : Database) (there : server.jobs[index]? = some job)
      (edits : Edits settings job.cause server.db later) : Changes settings server (.finish index now) later answer
  | landed (tap : TapParams) (around : Surroundings) (purge : Bool) (answer : TagAnswer) (later : Database)
      (landing : Landing settings server.db around answer later) :
      Changes settings server (.tagLanding tap around purge) later (.tag answer)
  | verified (body : VerifyBody) (around : Surroundings) (answer : VerifyAnswer) (later : Database)
      (verifying : Verifying settings server.db body around answer later) :
      Changes settings server (.verify body around) later (.verified answer)
  | issued (nonce : Bytes32) (now : I64) (later : Database)
      (issues : Issued server.db nonce now.val (now.val+settings.nonceTtl) later) :
      Changes settings server (.session nonce now) later (.issued nonce)
  | reported (body : EventBody) (now : I64) (allowed : Bool) (row : EventRow) (later : Database) (serial : String)
      (sealUidHash : Option Bytes32) (source : String) (note : Option String) (reportedBy : Option Pubkey) (passport : PassportRow)
      (session : NonceRow)
      (report : Reported server.db now.val later serial sealUidHash source note reportedBy passport session) :
      Changes settings server (.report body now allowed) later (.event row)

theorem finish_changes {settings : Settings} {server : Server} {index : ℕ} (now : I64) {job : Job}
    (there : server.jobs[index]? = some job) (knows : KnowsJob server.db job) (rest : List Job) :
    Changes settings server (.finish index now) (Server.finish settings ⟨server.db,rest⟩ job now).1.db
      (Server.finish settings ⟨server.db,rest⟩ job now).2 := by
  cases knows with
  | event job knows =>
    rcases answered_cases ⟨server.db,rest⟩ (eventWrite settings server.db job) .event with refused | accepted
    · obtain ⟨error,_,same⟩ := refused
      simp only [Server.finish,same]
      exact .none _ _
    · obtain ⟨later,row,passed,same⟩ := accepted
      simp only [Server.finish,same]
      exact .finished index now _ _ later there (eventWrite_edits knows passed)
  | confirm job knows =>
    rcases answered_cases ⟨server.db,rest⟩ (confirmWrite settings server.db job now) .event with refused | accepted
    · obtain ⟨error,_,same⟩ := refused
      simp only [Server.finish,same]
      exact .none _ _
    · obtain ⟨later,row,passed,same⟩ := accepted
      simp only [Server.finish,same]
      exact .finished index now _ _ later there (confirmWrite_edits knows passed)
  | fail eventId txSig knows => exact .finished index now _ _ _ there (.one (.failed eventId txSig rfl))
  | reconcile job knows =>
    cases passed : reconcileWrite settings server.db job with
    | error error =>
      simp only [Server.finish,passed]
      exact .none _ _
    | ok later =>
      simp only [Server.finish,passed]
      exact .finished index now _ _ later there (reconcileWrite_edits knows passed)

theorem request_changes {settings : Settings} {server : Server} {action : Action} {later : Database} {answer : Answer}
    (writes : Writes settings server action later answer) (request : ∀ index now, action ≠ .finish index now) :
    Changes settings server action later answer := by
  cases writes with
  | none => exact .none _ _
  | tagLanding tap around purge _ answer accepted => exact .landed tap around purge answer later (tagLanding_landing accepted)
  | verify body around _ answer accepted => exact .verified body around answer later (verify_verifying accepted)
  | session nonce now _ issued accepted =>
    obtain ⟨rfl,issues⟩ := session_issued accepted
    exact .issued issued now later issues
  | report body now allowed _ row accepted =>
    obtain ⟨serial,sealUidHash,source,note,reportedBy,passport,session,report⟩ := reportSealDead_reported accepted
    exact .reported body now allowed row later serial sealUidHash source note reportedBy passport session report
  | event _ index now => exact absurd rfl (request index now)
  | confirm _ index now => exact absurd rfl (request index now)
  | fail _ _ index now => exact absurd rfl (request index now)
  | reconcile _ index now => exact absurd rfl (request index now)

theorem step_changes {settings : Settings} {server : Server} (knows : ∀ job ∈ server.jobs, KnowsJob server.db job) (action : Action) :
    Changes settings server action (Server.step settings server action).1.db (Server.step settings server action).2 := by
  by_cases finishing : ∃ index now, action = .finish index now
  · obtain ⟨index,now,rfl⟩ := finishing
    cases there : server.jobs[index]? with
    | none =>
      simp only [Server.step,there]
      exact .none _ _
    | some job =>
      simp only [Server.step,there]
      exact finish_changes now there (knows job (List.mem_of_getElem? there)) _
  · exact request_changes (step_writes settings server action) fun index now same => finishing ⟨index,now,same⟩

end FlaconVault.Verifier
