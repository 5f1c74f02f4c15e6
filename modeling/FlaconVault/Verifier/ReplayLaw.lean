import FlaconVault.Verifier.Replay
namespace FlaconVault.Verifier
open Guards

-- What the answers of a run say about the taps and the sessions they consumed.

structure TapCheck.Shows (check : TapCheck) (verdict : Verdict) (uid : Uid) (counter : U24) : Prop where
  verdict : check.verdict = verdict
  uid : check.uid = some (.chip uid)
  counter : check.counter = some counter

-- A consumed tap: its counter was above everything seen of its chip, and is not any more.
structure Consumption (db later : Database) (uid : Uid) (counter : U24) : Prop where
  fresh : db.lastCounter uid < counter.val
  kept : counter.val ≤ later.lastCounter uid

theorem advanced_lastCounter {db : Database} {uid : Uid} {counter : U24} {row : SealRow} (found : db.getSealByUid uid = some row)
    (fresh : row.lastCounter < counter.val) (apart : (db.advanceSealCounter row.uidHash counter).UidsApart) :
    (db.advanceSealCounter row.uidHash counter).lastCounter uid = counter.val := by
  obtain ⟨present,named⟩ := Database.getSealByUid_mem found
  have moved : {row with lastCounter := counter.val} ∈ (db.advanceSealCounter row.uidHash counter).seals.rows := by
    refine List.mem_map.mpr ⟨row,present,?_⟩
    rw [if_pos (by simp [fresh])]
  have found' := Database.getSealByUid_of_mem apart moved
  rw [show ({row with lastCounter := counter.val} : SealRow).uid = uid from named] at found'
  rw [Database.lastCounter_some found']

-- A consuming check with the row it leaves in the log of taps.
theorem Checked.consumption {settings : Settings} {db checked logged later : Database} {check : TapCheck} {tap : TapRow} {uid : Uid}
    {counter : U24} {verdict : Verdict} (step : Checked settings db check checked) (log : Logged checked tap logged)
    (rest : Remembers logged later) (apart : db.UidsApart) (tap_uid : tap.uid = check.uid) (tap_ctr : tap.ctr = check.counter)
    (tap_verdict : check.verdict = .unregistered → tap.verdict = .unregistered) (shows : check.Shows verdict uid counter)
    (consumed : verdict = .valid ∨ verdict = .unregistered) : Consumption db later uid counter := by
  obtain ⟨same,shown,counted⟩ := shows
  have after := (log.remembers.trans rest).lastCounter (step.remembers.apart apart) uid
  cases step with
  | invalid _ verdict =>
    have := verdict.symm.trans same
    rcases consumed with valid | unregistered
    · simp [valid] at this
    · simp [unregistered] at this
  | replay _ verdict =>
    have := verdict.symm.trans same
    rcases consumed with valid | unregistered
    · simp [valid] at this
    · simp [unregistered] at this
  | unregistered other number cmac encrypted absent fresh =>
    cases shown
    cases counted
    refine ⟨(Database.lastCounter_none absent).trans_lt fresh,?_⟩
    have inside : tap ∈ logged.taps.rows := by simp [log.rows]
    have bare : logged.getSealByUid uid = none := by
      rw [log.rest]
      exact absent
    have seen := Database.le_lastCounterUnregistered inside tap_uid (by rw [tap_verdict rfl]; rfl) tap_ctr
    rw [← Database.lastCounter_none bare] at seen
    exact seen.trans (rest.lastCounter (log.remembers.apart apart) uid)
  | valid other number cmac encrypted row found fresh =>
    cases shown
    cases counted
    have advances : Checked settings db _ _ := .valid uid counter cmac encrypted row found fresh
    rw [advanced_lastCounter found fresh (advances.remembers.apart apart)] at after
    exact ⟨(Database.lastCounter_some found).trans_lt fresh,after⟩

theorem Checked.shown {settings : Settings} {db checked : Database} {check : TapCheck} (step : Checked settings db check checked)
    (bare : check.uid = none) : check.verdict = .invalid ∨ check.verdict = .replay := by
  cases step with
  | invalid _ verdict => exact .inl verdict
  | replay _ verdict => exact .inr verdict
  | unregistered => cases bare
  | valid => cases bare

theorem Landing.consumption {settings : Settings} {db later : Database} {around : Surroundings} {answer : TagAnswer} {uid : Uid}
    {counter : U24} {verdict : Verdict} (landing : Landing settings db around answer later) (apart : db.UidsApart)
    (shows : answer.check.Shows verdict uid counter) (consumed : verdict = .valid ∨ verdict = .unregistered) :
    Consumption db later uid counter := by
  cases landing with
  | unlogged _ invalid =>
    have same := invalid.symm.trans shows.verdict
    rcases consumed with valid | unregistered
    · simp [valid] at same
    · simp [unregistered] at same
  | quiet checked logged tap check log made told _ rest =>
    refine check.consumption log rest.remembers apart (made ▸ rfl) (made ▸ rfl) ?_ shows consumed
    intro unregistered
    rw [made,told]
    simp [landedTap,TapCheck.answered,unregistered]
  | sighted checked logged tap row number check log made valid named counted _ _ rest =>
    refine check.consumption log (Remembers.trans ?_ rest.remembers) apart (made ▸ rfl) (made ▸ rfl) ?_ shows consumed
    · exact .of_same rfl rfl
    · intro unregistered
      exact absurd (valid.symm.trans unregistered) (by simp)

theorem Verifying.consumption {settings : Settings} {db later : Database} {body : VerifyBody} {around : Surroundings}
    {answer : VerifyAnswer} {check : TapCheck} {uid : Uid} {counter : U24} {verdict : Verdict}
    (verifying : Verifying settings db body around answer later) (apart : db.UidsApart) (direct : body.tapId = none)
    (told : answer.check = some check) (shows : check.Shows verdict uid counter)
    (consumed : verdict = .valid ∨ verdict = .unregistered) : Consumption db later uid counter := by
  have plain {known : TapCheck} {checked : Database} (tapped : Tapped settings db body around.now.val known checked) :
      Checked settings db known checked := by
    cases tapped with
    | direct _ step => exact step
    | adopted _ asked => exact absurd (direct.symm.trans asked) (by simp)
  cases verifying with
  | nonceInvalid _ unchecked => exact absurd (told.symm.trans unchecked) (by simp)
  | unlogged known _ _ bare _ shown =>
    have same : known = check := Option.some.inj (shown.symm.trans told)
    rw [same,shows.uid] at bare
    cases bare
  | logged known checked _ tap tapped log made verdict_is shown =>
    have same : known = check := Option.some.inj (shown.symm.trans told)
    subst same
    refine (plain tapped).consumption log (.refl later) apart (made ▸ rfl) (made ▸ rfl) ?_ shows consumed
    intro unregistered
    rw [made,verdict_is]
    simp [tapOf,TapCheck.answered,unregistered]
  | signed known checked logged tap session row uidHash number mediaHash admitted live tapped log made _ shown valid =>
    have same : known = check := Option.some.inj (shown.symm.trans told)
    subst same
    refine (plain tapped).consumption log (.of_same rfl rfl) apart (made ▸ rfl) (made ▸ rfl) ?_ shows consumed
    intro unregistered
    exact absurd (valid.symm.trans unregistered) (by simp)

-- An adoption that a request answered, and the row it leaves.
structure Adoption (settings : Settings) (db later : Database) (tapId : ℕ) (token : Option String) (now : Int) (check : TapCheck) : Prop where
  adopts : ∃ tap uid counter, Adopts settings db tapId token now tap ∧ tap.uid = some (.chip uid) ∧ tap.ctr = some counter ∧
    check.uid = some (.chip uid) ∧ check.counter = some counter ∧ (check.verdict = .valid ↔ (db.getSealByUid uid).isSome)
  used : ∃ tap ∈ later.taps.rows, tap.id = tapId ∧ tap.verdict = .valid ∧ tap.adoptedAt.isSome

theorem Adopted.adoption {settings : Settings} {db checked later : Database} {tapId : ℕ} {token : Option String} {now : Int}
    {check : TapCheck} (step : Adopted settings db tapId token now check checked) (rest : Remembers checked later)
    (accepted : check.verdict = .valid ∨ check.verdict = .unregistered) : Adoption settings db later tapId token now check := by
  cases step with
  | refused _ verdict =>
    rcases verdict with invalid | replay
    · simp [invalid] at accepted
    · simp [replay] at accepted
  | adopted tap uid counter adopts shown counted =>
    refine ⟨⟨tap,uid,counter,adopts,shown,counted,rfl,rfl,?_⟩,?_⟩
    · dsimp only
      split
      · rename_i registered
        simp [registered]
      · rename_i bare
        simp [bare]
    · obtain ⟨present,named⟩ := Table.get_some.mp adopts.found
      have inside : {tap with adoptedAt := some now} ∈ (db.adopted tapId now).taps.rows := by
        refine List.mem_map.mpr ⟨tap,present,?_⟩
        rw [if_pos (by simpa using named)]
      obtain ⟨tap',present',follows⟩ := rest.taps _ inside (by simp [adopts.verdict])
      refine ⟨tap',present',?_⟩
      rw [follows.same,follows.adopted rfl]
      exact ⟨named,adopts.verdict,rfl⟩

theorem Verifying.adoption {settings : Settings} {db later : Database} {body : VerifyBody} {around : Surroundings}
    {answer : VerifyAnswer} {check : TapCheck} {tapId : ℕ} (verifying : Verifying settings db body around answer later)
    (asked : body.tapId = some tapId) (told : answer.check = some check)
    (accepted : check.verdict = .valid ∨ check.verdict = .unregistered) :
    Adoption settings db later tapId body.tapToken around.now.val check := by
  have adopted {known : TapCheck} {checked : Database} (tapped : Tapped settings db body around.now.val known checked) :
      Adopted settings db tapId body.tapToken around.now.val known checked := by
    cases tapped with
    | direct plain => exact absurd (asked.symm.trans plain) (by simp)
    | adopted other asked' adoption =>
      have same : other = tapId := Option.some.inj (asked'.symm.trans asked)
      exact same ▸ adoption
  cases verifying with
  | nonceInvalid _ unchecked => exact absurd (told.symm.trans unchecked) (by simp)
  | unlogged known _ tapped _ _ shown =>
    have same : known = check := Option.some.inj (shown.symm.trans told)
    subst same
    exact (adopted tapped).adoption (.refl later) accepted
  | logged known checked _ tap tapped log _ _ shown =>
    have same : known = check := Option.some.inj (shown.symm.trans told)
    subst same
    exact (adopted tapped).adoption log.remembers accepted
  | signed known checked logged tap session row uidHash number mediaHash admitted live tapped log _ _ shown =>
    have same : known = check := Option.some.inj (shown.symm.trans told)
    subst same
    exact (adopted tapped).adoption (log.remembers.trans (.of_same rfl rfl)) accepted

-- Where a valid tap of the landing page in the log comes from: it was there, or this step landed it.
theorem Checked.taps {settings : Settings} {db checked : Database} {check : TapCheck} (step : Checked settings db check checked) :
    checked.taps = db.taps := by
  cases step <;> rfl

theorem Purged.taps {db later : Database} (purged : Purged db later) {tap : TapRow} (present : tap ∈ later.taps.rows) :
    tap ∈ db.taps.rows := by
  cases purged with
  | kept => exact present
  | purged before => exact (Table.mem_delete.mp present).1

structure Lands (settings : Settings) (around : Surroundings) (answer : TagAnswer) (tap : TapRow) : Prop where
  valid : answer.check.verdict = .valid
  shown : answer.tap = some tap
  token : answer.token = some around.token
  made : tap = landedTap answer.check .valid around.now.val (some (settings.tokenHash around.token)) tap.id

theorem Landing.tap_from {settings : Settings} {db later : Database} {around : Surroundings} {answer : TagAnswer} {tap : TapRow}
    (landing : Landing settings db around answer later) (present : tap ∈ later.taps.rows) (valid : tap.verdict = .valid) :
    tap ∈ db.taps.rows ∨ Lands settings around answer tap := by
  cases landing with
  | unlogged _ _ rest => exact .inl (rest.taps present)
  | quiet checked logged row check log made verdict silent rest =>
    have inside := rest.taps present
    rw [log.rows,List.mem_append,List.mem_singleton,check.taps] at inside
    rcases inside with old | new
    · exact .inl old
    · rw [new,made] at valid
      exact absurd valid silent
  | sighted checked logged row sealRow counter check log made valid' named counted shown told rest =>
    have inside : tap ∈ logged.taps.rows := rest.taps present
    rw [log.rows,List.mem_append,List.mem_singleton,check.taps] at inside
    rcases inside with old | new
    · exact .inl old
    · exact .inr (new ▸ ⟨valid',shown,told,made⟩)

theorem Tapped.tap_from {settings : Settings} {db checked : Database} {body : VerifyBody} {now : Int} {check : TapCheck} {tap : TapRow}
    (tapped : Tapped settings db body now check checked) (present : tap ∈ checked.taps.rows) :
    ∃ old ∈ db.taps.rows, TapFollows old tap := by
  cases tapped with
  | direct _ step => exact ⟨tap,step.taps ▸ present,.refl tap⟩
  | adopted tapId asked adoption =>
    cases adoption with
    | refused => exact ⟨tap,present,.refl tap⟩
    | adopted row uid counter adopts =>
      obtain ⟨old,inside,same⟩ := List.mem_map.mp present
      exact ⟨old,inside,same ▸ adopts.follows inside⟩

theorem Verifying.tap_from {settings : Settings} {db later : Database} {body : VerifyBody} {around : Surroundings}
    {answer : VerifyAnswer} {tap : TapRow} (verifying : Verifying settings db body around answer later)
    (present : tap ∈ later.taps.rows) (source : tap.source = .t) : ∃ old ∈ db.taps.rows, TapFollows old tap := by
  have before {check : TapCheck} {checked logged : Database} {row : TapRow} (tapped : Tapped settings db body around.now.val check checked)
      (log : Logged checked row logged) (made : row.source = .verify) (inside : tap ∈ logged.taps.rows) :
      ∃ old ∈ db.taps.rows, TapFollows old tap := by
    rw [log.rows,List.mem_append,List.mem_singleton] at inside
    rcases inside with old | new
    · exact tapped.tap_from old
    · exact absurd ((new ▸ source).symm.trans made) (by simp)
  cases verifying with
  | nonceInvalid => exact ⟨tap,present,.refl tap⟩
  | unlogged check _ tapped => exact tapped.tap_from present
  | logged check checked _ row tapped log made => exact before tapped log (made ▸ rfl) present
  | signed check checked logged row session sealRow uidHash number mediaHash admitted live tapped log made =>
    exact before tapped log (made ▸ rfl) present

theorem changes_tap_from {settings : Settings} {server : Server} {later : Database} {action : Action} {answer : Answer} {tap : TapRow}
    (changes : Changes settings server action later answer) (present : tap ∈ later.taps.rows) (source : tap.source = .t)
    (valid : tap.verdict = .valid) : (∃ old ∈ server.db.taps.rows, TapFollows old tap) ∨
      ∃ params around purge told, action = .tagLanding params around purge ∧ answer = .tag told ∧ Lands settings around told tap := by
  have kept (inside : tap ∈ server.db.taps.rows) : ∃ old ∈ server.db.taps.rows, TapFollows old tap := ⟨tap,inside,.refl tap⟩
  cases changes with
  | none => exact .inl (kept present)
  | finished _ _ _ _ _ _ edits => exact .inl (kept ((edits_undisturbed edits).taps ▸ present))
  | landed params around purge told _ landing =>
    rcases landing.tap_from present valid with old | lands
    · exact .inl (kept old)
    · exact .inr ⟨params,around,purge,told,rfl,rfl,lands⟩
  | verified _ _ _ _ verifying => exact .inl (verifying.tap_from present source)
  | issued nonce now _ issues =>
    obtain ⟨nonces,_,same⟩ := issues.rows
    rw [same] at present
    exact .inl (kept present)
  | reported body now allowed row _ serial sealUidHash source' note reportedBy passport session report =>
    rw [report.same] at present
    exact .inl (kept present)

-- What an answer tells about its step.
theorem answered_reply {α : Type} {server : Server} {outcome : Except HttpError (Database × α)} {reply : α → Answer} {answer : Answer}
    (told : (server.answered outcome reply).2 = answer) (accepted : ∀ error, answer ≠ .refused error) :
    ∃ db value, outcome = .ok (db,value) ∧ reply value = answer ∧ (server.answered outcome reply).1.db = db := by
  cases outcome with
  | error error => exact absurd told.symm (accepted error)
  | ok result => exact ⟨result.1,result.2,rfl,told,rfl⟩

theorem finish_answer (settings : Settings) (server : Server) (job : Job) (now : I64) :
    (∃ error, (Server.finish settings server job now).2 = .refused error) ∨
    (∃ row, (Server.finish settings server job now).2 = .event row) ∨
    ∃ outcome, (Server.finish settings server job now).2 = .cycle outcome := by
  cases job with
  | event job =>
    rcases answered_cases server (eventWrite settings server.db job) .event with refused | accepted
    · obtain ⟨error,_,same⟩ := refused
      exact .inl ⟨error,by simp only [Server.finish,same]⟩
    · obtain ⟨_,row,_,same⟩ := accepted
      exact .inr (.inl ⟨row,by simp only [Server.finish,same]⟩)
  | confirm job =>
    rcases answered_cases server (confirmWrite settings server.db job now) .event with refused | accepted
    · obtain ⟨error,_,same⟩ := refused
      exact .inl ⟨error,by simp only [Server.finish,same]⟩
    · obtain ⟨_,row,_,same⟩ := accepted
      exact .inr (.inl ⟨row,by simp only [Server.finish,same]⟩)
  | fail eventId txSig => exact .inl ⟨txFailed,rfl⟩
  | reconcile job =>
    simp only [Server.finish]
    split
    · exact .inr (.inr ⟨_,rfl⟩)
    · exact .inr (.inr ⟨_,rfl⟩)

-- The kinds of answers that tell of a tap or a session.
inductive Tells (settings : Settings) (server : Server) : Action → Answer → Prop
  | tag (params : TapParams) (around : Surroundings) (purge : Bool) (answer : TagAnswer) (later : Database)
      (accepted : tagLanding settings server.db params around purge = .ok (later,answer))
      (same : (Server.step settings server (.tagLanding params around purge)).1.db = later) :
      Tells settings server (.tagLanding params around purge) (.tag answer)
  | verified (body : VerifyBody) (around : Surroundings) (answer : VerifyAnswer) (later : Database)
      (accepted : verify settings server.db body around = .ok (later,answer))
      (same : (Server.step settings server (.verify body around)).1.db = later) :
      Tells settings server (.verify body around) (.verified answer)
  | previewed (params : TapParams) : Tells settings server (.preview params) (.previewed (preview settings server.db params))

theorem step_tells {settings : Settings} {server : Server} {action : Action} {answer : Answer}
    (told : (Server.step settings server action).2 = answer)
    (kind : (∃ tag, answer = .tag tag) ∨ (∃ verified, answer = .verified verified) ∨ ∃ check, answer = .previewed check) :
    Tells settings server action answer := by
  have accepted (error : HttpError) : answer ≠ .refused error := by
    intro refused
    simp [refused] at kind
  cases action with
  | tagLanding params around purge =>
    obtain ⟨db,value,outcome,same,later⟩ := answered_reply told accepted
    exact same ▸ .tag params around purge value db outcome later
  | verify body around =>
    obtain ⟨db,value,outcome,same,later⟩ := answered_reply told accepted
    exact same ▸ .verified body around value db outcome later
  | preview params => exact told ▸ .previewed params
  | session nonce now =>
    obtain ⟨_,value,_,same,_⟩ := answered_reply told accepted
    simp [← same] at kind
  | report body now allowed =>
    obtain ⟨_,value,_,same,_⟩ := answered_reply told accepted
    simp [← same] at kind
  | postEvent body reads now =>
    simp only [Server.step] at told
    split at told <;> simp [← told,Server.begin] at kind
  | confirm body eventId reads =>
    simp only [Server.step] at told
    split at told <;> simp [← told,Server.begin] at kind
  | reconcile reads ts =>
    simp only [Server.step] at told
    split at told <;> simp [← told,Server.begin] at kind
  | finish index now =>
    simp only [Server.step] at told
    split at told
    · rename_i job there
      rcases finish_answer settings ⟨server.db,server.jobs.eraseIdx index⟩ job now with refused | event | cycle
      · obtain ⟨error,same⟩ := refused
        exact absurd (told.symm.trans same) (accepted error)
      · obtain ⟨row,same⟩ := event
        rw [same] at told
        simp [← told] at kind
      · obtain ⟨outcome,same⟩ := cycle
        rw [same] at told
        simp [← told] at kind
    · simp [← told] at kind

-- Chips with and without a seal.
theorem Checked.registered {settings : Settings} {db checked : Database} {check : TapCheck} {verdict : Verdict} {uid : Uid}
    {counter : U24} (step : Checked settings db check checked) (shows : check.Shows verdict uid counter) :
    (verdict = .valid → (db.getSealByUid uid).isSome) ∧ (verdict = .unregistered → db.getSealByUid uid = none) := by
  obtain ⟨same,shown,_⟩ := shows
  subst same
  cases step with
  | invalid _ verdict => simp [verdict]
  | replay _ verdict => simp [verdict]
  | unregistered other number cmac encrypted absent =>
    cases shown
    exact ⟨fun valid => by simp at valid,fun _ => absent⟩
  | valid other number cmac encrypted row found =>
    cases shown
    exact ⟨fun _ => by simp [found],fun unregistered => by simp at unregistered⟩

theorem Landing.checked {settings : Settings} {db later : Database} {around : Surroundings} {answer : TagAnswer}
    (landing : Landing settings db around answer later) : ∃ checked, Checked settings db answer.check checked := by
  cases landing with
  | unlogged checked => exact ⟨db,checked⟩
  | quiet checked _ _ check => exact ⟨checked,check⟩
  | sighted checked _ _ _ _ check => exact ⟨checked,check⟩

theorem Verifying.checked {settings : Settings} {db later : Database} {body : VerifyBody} {around : Surroundings}
    {answer : VerifyAnswer} {check : TapCheck} (verifying : Verifying settings db body around answer later)
    (direct : body.tapId = none) (told : answer.check = some check) : ∃ checked, Checked settings db check checked := by
  have plain {known : TapCheck} {checked : Database} (tapped : Tapped settings db body around.now.val known checked)
      (shown : answer.check = some known) : ∃ checked, Checked settings db check checked := by
    have same : known = check := Option.some.inj (shown.symm.trans told)
    cases tapped with
    | direct _ step => exact ⟨checked,same ▸ step⟩
    | adopted _ asked => exact absurd (direct.symm.trans asked) (by simp)
  cases verifying with
  | nonceInvalid _ unchecked => exact absurd (told.symm.trans unchecked) (by simp)
  | unlogged known _ tapped _ _ shown => exact plain tapped shown
  | logged known _ _ _ tapped _ _ _ shown => exact plain tapped shown
  | signed known _ _ _ _ _ _ _ _ _ _ tapped _ _ _ shown => exact plain tapped shown

theorem preview_fresh {settings : Settings} {db : Database} {params : TapParams} {uid : Uid} {counter : U24}
    (shows : (preview settings db params).Shows .valid uid counter) : db.lastCounter uid < counter.val := by
  obtain ⟨valid,shown,counted⟩ := shows
  unfold preview at valid shown counted
  generalize outcome : checkTap settings db (authenticateTap settings params) false = result at valid shown counted
  unfold checkTap at outcome
  cases authentic : authenticateTap settings params with
  | invalid check =>
    rw [authentic] at outcome
    rw [← outcome] at valid
    exact absurd ((authenticateTap_invalid authentic).symm.trans valid) (by simp)
  | genuine other number cmac encrypted =>
    rw [authentic] at outcome
    rcases branch outcome with low | high
    · rw [← low.2] at valid
      cases valid
    · obtain ⟨high,outcome⟩ := high
      cases found : db.getSealByUid other with
      | none =>
        rw [found] at outcome
        rw [← outcome] at valid
        cases valid
      | some row =>
        rw [found] at outcome high
        rw [← outcome] at shown counted
        cases shown
        cases counted
        rw [Database.lastCounter_some found]
        exact Nat.lt_of_not_le high

-- Sessions.
theorem Database.getNonce_consume (db : Database) (nonce other : Bytes32) (usedAt : Int) :
    (db.consumeNonce nonce usedAt).getNonce other =
      (db.getNonce other).map fun row => if decide (row.nonce = nonce) = true then {row with usedAt := some usedAt} else row := by
  unfold getNonce consumeNonce
  rw [Table.get_update]

theorem unused_before {db : Database} {nonce : Bytes32} {usedAt : Int} {row : NonceRow}
    (found : (db.consumeNonce nonce usedAt).getNonce row.nonce = some row) (unused : row.usedAt = none) :
    db.getNonce row.nonce = some row ∧ row.nonce ≠ nonce := by
  rw [Database.getNonce_consume] at found
  obtain ⟨old,there,same⟩ := Option.map_eq_some_iff.mp found
  have named : old.nonce = row.nonce := (Table.get_some.mp there).2
  split at same
  · rw [← same] at unused
    cases unused
  · rename_i other
    subst same
    exact ⟨there,by simpa using other⟩

theorem Checked.nonces {settings : Settings} {db checked : Database} {check : TapCheck} (step : Checked settings db check checked) :
    checked.nonces = db.nonces := by
  cases step <;> rfl

theorem Logged.nonces {db later : Database} {tap : TapRow} (log : Logged db tap later) : later.nonces = db.nonces := by
  rw [log.rest]

theorem Purged.nonces {db later : Database} (purged : Purged db later) : later.nonces = db.nonces := by
  cases purged <;> rfl

theorem Landing.nonces {settings : Settings} {db later : Database} {around : Surroundings} {answer : TagAnswer}
    (landing : Landing settings db around answer later) : later.nonces = db.nonces := by
  cases landing with
  | unlogged _ _ rest => exact rest.nonces
  | quiet _ _ _ check log _ _ _ rest => exact rest.nonces.trans (log.nonces.trans check.nonces)
  | sighted _ logged _ _ _ check log _ _ _ _ _ _ rest =>
    exact rest.nonces.trans (show logged.nonces = db.nonces from log.nonces.trans check.nonces)

theorem Tapped.nonces {settings : Settings} {db checked : Database} {body : VerifyBody} {now : Int} {check : TapCheck}
    (tapped : Tapped settings db body now check checked) : checked.nonces = db.nonces := by
  cases tapped with
  | direct _ step => exact step.nonces
  | adopted _ _ adoption => cases adoption <;> rfl

theorem Verifying.nonces {settings : Settings} {db later : Database} {body : VerifyBody} {around : Surroundings}
    {answer : VerifyAnswer} {row : NonceRow} (verifying : Verifying settings db body around answer later)
    (found : later.getNonce row.nonce = some row) (unused : row.usedAt = none) :
    db.getNonce row.nonce = some row ∧ ∀ scan, answer.signed = some scan → scan.bundle.nonce ≠ row.nonce := by
  have unsigned (none_signed : answer.signed = none) (scan : SignedScan) (signed : answer.signed = some scan) :
      scan.bundle.nonce ≠ row.nonce := absurd (none_signed.symm.trans signed) (by simp)
  unfold Database.getNonce at found ⊢
  cases verifying with
  | nonceInvalid _ _ none_signed => exact ⟨found,unsigned none_signed⟩
  | unlogged check _ tapped _ _ _ none_signed =>
    rw [tapped.nonces] at found
    exact ⟨found,unsigned none_signed⟩
  | logged check checked _ tap tapped log _ _ _ none_signed =>
    rw [log.nonces,tapped.nonces] at found
    exact ⟨found,unsigned none_signed⟩
  | signed check checked logged tap session sealRow uidHash number mediaHash admitted live tapped log _ _ _ _ _ _ _ _ signed =>
    have found : (logged.consumeNonce session.nonce around.now.val).getNonce row.nonce = some row := found
    obtain ⟨there,other⟩ := unused_before found unused
    unfold Database.getNonce at there
    rw [log.nonces,tapped.nonces] at there
    refine ⟨there,?_⟩
    intro scan told
    have same := Option.some.inj (signed.symm.trans told)
    rw [← same]
    exact other.symm

-- What is signed is the tap of the check, for its chip and counter, with an open session.
theorem Verifying.signing {settings : Settings} {db later : Database} {body : VerifyBody} {around : Surroundings}
    {answer : VerifyAnswer} {check : TapCheck} {scan : SignedScan} (verifying : Verifying settings db body around answer later)
    (shown : answer.check = some check) (scanned : answer.signed = some scan) :
    ∃ session uid counter, Live db session around.now.val ∧ check.Shows .valid uid counter ∧ scan.uidHash = settings.uidHash uid ∧
      scan.counter = counter.val ∧ scan.bundle.nonce = session.nonce := by
  cases verifying with
  | nonceInvalid _ unchecked => exact absurd (shown.symm.trans unchecked) (by simp)
  | unlogged _ _ _ _ _ _ unsigned => exact absurd (scanned.symm.trans unsigned) (by simp)
  | logged _ _ _ _ _ _ _ _ _ unsigned => exact absurd (scanned.symm.trans unsigned) (by simp)
  | signed known checked logged tap session row uidHash counter mediaHash admitted live tapped _ _ _ shown' valid _ _ hashed counted signs =>
    have same : known = check := Option.some.inj (shown'.symm.trans shown)
    subst same
    obtain ⟨uid,_,_,chip,_,hashed',_⟩ := tapped.valid valid
    have same_hash : uidHash = settings.uidHash uid := Option.some.inj (hashed.symm.trans hashed')
    have same_scan := Option.some.inj (signs.symm.trans scanned)
    refine ⟨session,uid,counter,live,⟨valid,chip,counted⟩,?_⟩
    rw [← same_scan,← same_hash]
    exact ⟨rfl,rfl,rfl⟩

theorem changes_nonces {settings : Settings} {server : Server} {later : Database} {action : Action} {answer : Answer} {row : NonceRow}
    (changes : Changes settings server action later answer) (found : later.getNonce row.nonce = some row) (unused : row.usedAt = none) :
    server.db.getNonce row.nonce = some row ∨ answer = .issued row.nonce := by
  cases changes with
  | none => exact .inl found
  | finished _ _ _ _ _ _ edits =>
    unfold Database.getNonce at found ⊢
    rw [(edits_undisturbed edits).nonces] at found
    exact .inl found
  | landed params around purge told _ landing =>
    have same := landing.nonces
    unfold Database.getNonce at found ⊢
    rw [same] at found
    exact .inl found
  | verified _ _ _ _ verifying => exact .inl (verifying.nonces found unused).1
  | issued nonce now _ issues =>
    obtain ⟨nonces,inserted,same⟩ := issues.rows
    rw [same] at found
    have found : (nonces.delete _).get row.nonce = some row := found
    rw [Table.get_delete] at found
    have there := (Option.filter_eq_some_iff.mp found).1
    rw [Table.get_insert inserted] at there
    split at there
    · rename_i here
      exact .inr (by rw [here])
    · exact .inl there
  | reported body now allowed row' _ serial sealUidHash source note reportedBy passport session report =>
    rw [report.same] at found
    exact .inl (unused_before found unused).1

namespace Run
variable (settings : Settings) (run : Run)

-- The check of the tap that step `n` consumed itself.
def consumed (n : ℕ) : Option TapCheck :=
  match run.actions n,run.answer settings n with
  | .tagLanding _ _ _,.tag answer => some answer.check
  | .verify body _,.verified answer => if body.tapId.isNone then answer.check else none
  | _,_ => none

-- The check that step `n` answered to the landing page or to a request to sign, an adoption included.
def requested (n : ℕ) : Option TapCheck :=
  match run.answer settings n with
  | .tag answer => some answer.check
  | .verified answer => answer.check
  | _ => none

-- The check that step `n` answered, a preview included.
def shown (n : ℕ) : Option TapCheck :=
  match run.answer settings n with
  | .previewed check => some check
  | _ => run.requested settings n

-- What step `n` signed, with the check it was signed for.
def signed (n : ℕ) : Option (TapCheck × SignedScan) :=
  match run.answer settings n with
  | .verified answer => answer.check.bind fun check => answer.signed.map (check,·)
  | _ => none

-- Step `n` landed this tap: a valid one, with a token for its adoption.
def Landed (n : ℕ) (around : Surroundings) (tap : TapRow) : Prop :=
  ∃ params purge answer, run.actions n = .tagLanding params around purge ∧ run.answer settings n = .tag answer ∧
    Lands settings around answer tap

-- Step `n` adopted the tap with this id.
structure Adopts (n tapId : ℕ) (token : Option String) (now : Int) (check : TapCheck) : Prop where
  asked : ∃ body around answer, run.actions n = .verify body around ∧ run.answer settings n = .verified answer ∧
    body.tapId = some tapId ∧ body.tapToken = token ∧ around.now.val = now ∧ answer.check = some check
  accepted : check.verdict = .valid ∨ check.verdict = .unregistered

theorem landing_at {n : ℕ} {params : TapParams} {around : Surroundings} {purge : Bool} {answer : TagAnswer}
    (action : run.actions n = .tagLanding params around purge) (told : run.answer settings n = .tag answer) :
    Landing settings (run.db settings n) around answer (run.db settings (n+1)) := by
  have tells := step_tells told (.inl ⟨answer,rfl⟩)
  have later : run.db settings (n+1) = (Server.step settings (run.server settings n) (run.actions n)).1.db := rfl
  rw [action] at tells later
  cases tells with
  | tag _ _ _ _ db accepted same => exact later ▸ same ▸ tagLanding_landing accepted

theorem verifying_at {n : ℕ} {body : VerifyBody} {around : Surroundings} {answer : VerifyAnswer}
    (action : run.actions n = .verify body around) (told : run.answer settings n = .verified answer) :
    Verifying settings (run.db settings n) body around answer (run.db settings (n+1)) := by
  have tells := step_tells told (.inr (.inl ⟨answer,rfl⟩))
  have later : run.db settings (n+1) = (Server.step settings (run.server settings n) (run.actions n)).1.db := rfl
  rw [action] at tells later
  cases tells with
  | verified _ _ _ db accepted same => exact later ▸ same ▸ verify_verifying accepted

theorem tag_action {n : ℕ} {answer : TagAnswer} (told : run.answer settings n = .tag answer) :
    ∃ params around purge, run.actions n = .tagLanding params around purge := by
  have tells := step_tells told (.inl ⟨answer,rfl⟩)
  generalize run.actions n = action at tells
  cases tells
  exact ⟨_,_,_,rfl⟩

theorem verified_action {n : ℕ} {answer : VerifyAnswer} (told : run.answer settings n = .verified answer) :
    ∃ body around, run.actions n = .verify body around := by
  have tells := step_tells told (.inr (.inl ⟨answer,rfl⟩))
  generalize run.actions n = action at tells
  cases tells
  exact ⟨_,_,rfl⟩

-- The two ways to consume a tap.
theorem consumed_parts {n : ℕ} {check : TapCheck} (consumed : run.consumed settings n = some check) :
    (∃ params around purge answer, run.actions n = .tagLanding params around purge ∧ run.answer settings n = .tag answer ∧
      answer.check = check) ∨
    ∃ body around answer, run.actions n = .verify body around ∧ run.answer settings n = .verified answer ∧ body.tapId = none ∧
      answer.check = some check := by
  unfold Run.consumed at consumed
  split at consumed
  · rename_i params around purge answer action told
    exact .inl ⟨params,around,purge,answer,action,told,Option.some.inj consumed⟩
  · rename_i body around answer action told
    rcases branch consumed with direct | adopted
    · exact .inr ⟨body,around,answer,action,told,by simpa using direct.1,direct.2⟩
    · cases adopted.2
  · cases consumed

theorem consumption_at {n : ℕ} {check : TapCheck} {verdict : Verdict} {uid : Uid} {counter : U24}
    (consumed : run.consumed settings n = some check) (shows : check.Shows verdict uid counter)
    (counts : verdict = .valid ∨ verdict = .unregistered) :
    Consumption (run.db settings n) (run.db settings (n+1)) uid counter := by
  rcases run.consumed_parts settings consumed with landed | direct
  · obtain ⟨params,around,purge,answer,action,told,same⟩ := landed
    exact (run.landing_at settings action told).consumption (run.uidsApart settings n) (same ▸ shows) counts
  · obtain ⟨body,around,answer,action,told,plain,same⟩ := direct
    exact (run.verifying_at settings action told).consumption (run.uidsApart settings n) plain same shows counts

theorem registered_at {n : ℕ} {check : TapCheck} {verdict : Verdict} {uid : Uid} {counter : U24}
    (consumed : run.consumed settings n = some check) (shows : check.Shows verdict uid counter) :
    (verdict = .valid → ((run.db settings n).getSealByUid uid).isSome) ∧
      (verdict = .unregistered → (run.db settings n).getSealByUid uid = none) := by
  rcases run.consumed_parts settings consumed with landed | direct
  · obtain ⟨params,around,purge,answer,action,told,same⟩ := landed
    obtain ⟨_,step⟩ := (run.landing_at settings action told).checked
    exact step.registered (same ▸ shows)
  · obtain ⟨body,around,answer,action,told,plain,same⟩ := direct
    obtain ⟨_,step⟩ := (run.verifying_at settings action told).checked plain same
    exact step.registered shows

-- The counters consumed of one chip rise.
theorem consumed_rise {n m : ℕ} {check check' : TapCheck} {verdict verdict' : Verdict} {uid : Uid} {counter counter' : U24}
    (before : n < m) (consumed : run.consumed settings n = some check) (consumed' : run.consumed settings m = some check')
    (shows : check.Shows verdict uid counter) (shows' : check'.Shows verdict' uid counter')
    (counts : verdict = .valid ∨ verdict = .unregistered) (counts' : verdict' = .valid ∨ verdict' = .unregistered) :
    counter.val < counter'.val :=
  ((run.consumption_at settings consumed shows counts).kept.trans (run.lastCounter_grows settings before uid)).trans_lt
    (run.consumption_at settings consumed' shows' counts').fresh

theorem consumed_once {n m : ℕ} {check check' : TapCheck} {uid : Uid} {counter : U24}
    (consumed : run.consumed settings n = some check) (consumed' : run.consumed settings m = some check')
    (shows : check.Shows .valid uid counter) (shows' : check'.Shows .valid uid counter) : n = m := by
  rcases Nat.lt_trichotomy n m with before | same | after
  · exact absurd (run.consumed_rise settings before consumed consumed' shows shows' (.inl rfl) (.inl rfl)) (lt_irrefl _)
  · exact same
  · exact absurd (run.consumed_rise settings after consumed' consumed shows' shows (.inl rfl) (.inl rfl)) (lt_irrefl _)

-- A valid tap of the landing page in the log was landed by an earlier step.
theorem tap_origin {n : ℕ} {tap : TapRow} (present : tap ∈ (run.db settings n).taps.rows) (source : tap.source = .t)
    (valid : tap.verdict = .valid) : ∃ k < n, ∃ around row, run.Landed settings k around row ∧ TapFollows row tap := by
  induction n generalizing tap with
  | zero => exact absurd present List.not_mem_nil
  | succ n ih =>
    rcases changes_tap_from (run.changes settings n) present source valid with old | landed
    · obtain ⟨old,inside,follows⟩ := old
      have same := follows.same
      rw [same] at source valid
      obtain ⟨k,before,around,row,landed,follows'⟩ := ih inside source valid
      exact ⟨k,by omega,around,row,landed,follows'.trans follows⟩
    · obtain ⟨params,around,purge,told,action,answer,lands⟩ := landed
      exact ⟨n,Nat.lt_succ_self n,around,tap,⟨params,purge,told,action,answer,lands⟩,.refl tap⟩

theorem Landed.consumes {n : ℕ} {around : Surroundings} {tap : TapRow} (landed : run.Landed settings n around tap) :
    ∃ check, run.consumed settings n = some check ∧ check.verdict = .valid ∧
      tap = landedTap check .valid around.now.val (some (settings.tokenHash around.token)) tap.id := by
  obtain ⟨params,purge,answer,action,told,lands⟩ := landed
  refine ⟨answer.check,?_,lands.valid,lands.made⟩
  unfold Run.consumed
  rw [action,told]

theorem Landed.unique {n : ℕ} {around around' : Surroundings} {tap tap' : TapRow} (landed : run.Landed settings n around tap)
    (landed' : run.Landed settings n around' tap') : tap = tap' := by
  obtain ⟨_,_,answer,_,told,lands⟩ := landed
  obtain ⟨_,_,answer',_,told',lands'⟩ := landed'
  have same : answer = answer' := Answer.tag.inj (told.symm.trans told')
  subst same
  exact Option.some.inj (lands.shown.symm.trans lands'.shown)

theorem adoption_at {n tapId : ℕ} {token : Option String} {now : Int} {check : TapCheck}
    (adopts : run.Adopts settings n tapId token now check) :
    Adoption settings (run.db settings n) (run.db settings (n+1)) tapId token now check := by
  obtain ⟨body,around,answer,action,told,asked,same,same',shown⟩ := adopts.asked
  subst same
  subst same'
  exact (run.verifying_at settings action told).adoption asked shown adopts.accepted

-- An adopted tap was landed before, by the same chip with the same counter, with its token and not long before.
structure AdoptedFrom (k : ℕ) (around : Surroundings) (row : TapRow) (landing : TapCheck) (token : Option String) (now : Int)
    (check : TapCheck) : Prop where
  landed : run.Landed settings k around row
  consumed : run.consumed settings k = some landing
  same : ∃ uid counter, landing.Shows .valid uid counter ∧ check.Shows .valid uid counter
  token : tokenMatches settings token (some (settings.tokenHash around.token)) = true
  window : now-around.now.val ≤ ADOPT_WINDOW_S

theorem adopted_from {n tapId : ℕ} {token : Option String} {now : Int} {check : TapCheck}
    (adopts : run.Adopts settings n tapId token now check) :
    ∃ k < n, ∃ around row landing, row.id = tapId ∧ run.AdoptedFrom settings k around row landing token now check := by
  obtain ⟨tap,uid,counter,own,shown,counted,shows,counts,verdict⟩ := (run.adoption_at settings adopts).adopts
  obtain ⟨present,named⟩ := Table.get_some.mp own.found
  obtain ⟨k,before,around,row,landed,follows⟩ := run.tap_origin settings present own.source own.verdict
  obtain ⟨landing,consumed,valid,made⟩ := landed.consumes
  have same := follows.same
  have landing_uid : landing.uid = some (.chip uid) := by
    rw [same] at shown
    exact (show row.uid = landing.uid from made ▸ rfl) ▸ shown
  have landing_counter : landing.counter = some counter := by
    rw [same] at counted
    exact (show row.ctr = landing.counter from made ▸ rfl) ▸ counted
  have landing_shows : landing.Shows .valid uid counter := ⟨valid,landing_uid,landing_counter⟩
  have registered := (run.remembers settings before.le).registered ((run.registered_at settings consumed landing_shows).1 rfl)
  refine ⟨k,before,around,row,landing,?_,landed,consumed,⟨uid,counter,landing_shows,verdict.mpr registered,shows,counts⟩,?_,?_⟩
  · rw [same] at named
    exact named
  · have token_is := own.token
    rw [same] at token_is
    exact (show row.adoptHash = some (settings.tokenHash around.token) from made ▸ rfl) ▸ token_is
  · have window := own.window
    rw [same] at window
    exact (show row.ts = around.now.val from made ▸ rfl) ▸ window

theorem adopted_twice {n m tapId : ℕ} {token token' : Option String} {now now' : Int} {check check' : TapCheck} (before : n < m)
    (adopts : run.Adopts settings n tapId token now check) (adopts' : run.Adopts settings m tapId token' now' check') : False := by
  obtain ⟨tap,present,named,valid,used⟩ := (run.adoption_at settings adopts).used
  obtain ⟨tap',present',follows⟩ := (run.remembers settings before).taps tap present (by simp [valid])
  obtain ⟨other,_,_,own,_⟩ := (run.adoption_at settings adopts').adopts
  have named' : tap'.id = tapId := by
    rw [follows.same]
    exact named
  have same : tap' = other := Option.some.inj ((Table.get_some.mpr ⟨present',named'⟩).symm.trans own.found)
  have unused := own.unused
  rw [← same,follows.adopted used] at unused
  rw [unused] at used
  cases used

theorem adopted_once {n m tapId : ℕ} {token token' : Option String} {now now' : Int} {check check' : TapCheck}
    (adopts : run.Adopts settings n tapId token now check) (adopts' : run.Adopts settings m tapId token' now' check') : n = m := by
  rcases Nat.lt_trichotomy n m with before | same | after
  · exact (run.adopted_twice settings before adopts adopts').elim
  · exact same
  · exact (run.adopted_twice settings after adopts' adopts).elim

-- A check answered to the landing page or to a request to sign was consumed by that step, or is an adoption.
theorem requested_parts {n : ℕ} {check : TapCheck} (requested : run.requested settings n = some check)
    (counts : check.verdict = .valid ∨ check.verdict = .unregistered) :
    run.consumed settings n = some check ∨ ∃ tapId token now, run.Adopts settings n tapId token now check := by
  unfold Run.requested at requested
  split at requested
  · rename_i answer told
    obtain ⟨params,around,purge,action⟩ := run.tag_action settings told
    left
    unfold Run.consumed
    rw [action,told]
    exact requested
  · rename_i answer told
    obtain ⟨body,around,action⟩ := run.verified_action settings told
    cases asked : body.tapId with
    | none =>
      left
      unfold Run.consumed
      rw [action,told]
      dsimp only
      rw [asked]
      exact requested
    | some tapId => exact .inr ⟨tapId,body.tapToken,around.now.val,⟨body,around,answer,action,told,asked,rfl,rfl,requested⟩,counts⟩
  · cases requested

theorem requested_consumed {n : ℕ} {check : TapCheck} {uid : Uid} {counter : U24} (requested : run.requested settings n = some check)
    (shows : check.Shows .unregistered uid counter) : run.consumed settings n = some check := by
  rcases run.requested_parts settings requested (.inr shows.verdict) with consumed | adopted
  · exact consumed
  · obtain ⟨tapId,token,now,adopts⟩ := adopted
    obtain ⟨_,_,_,_,_,_,own⟩ := run.adopted_from settings adopts
    obtain ⟨_,_,_,valid⟩ := own.same
    exact absurd (shows.verdict.symm.trans valid.verdict) (by simp)

-- The step that consumed the tap of a valid answer.
inductive Origin (n : ℕ) (check : TapCheck) : ℕ → Prop
  | direct (consumed : run.consumed settings n = some check) : Origin n check n
  | adopted (k : ℕ) (before : k < n) (around : Surroundings) (row : TapRow) (token : Option String) (now : Int)
      (landed : run.Landed settings k around row) (adopts : run.Adopts settings n row.id token now check) : Origin n check k

theorem origin_of {n : ℕ} {check : TapCheck} {uid : Uid} {counter : U24} (requested : run.requested settings n = some check)
    (shows : check.Shows .valid uid counter) : ∃ k landing, run.Origin settings n check k ∧ run.consumed settings k = some landing ∧
      landing.Shows .valid uid counter := by
  rcases run.requested_parts settings requested (.inl shows.verdict) with consumed | adopted
  · exact ⟨n,check,.direct consumed,consumed,shows⟩
  · obtain ⟨tapId,token,now,adopts⟩ := adopted
    obtain ⟨k,before,around,row,landing,named,own⟩ := run.adopted_from settings adopts
    subst named
    obtain ⟨uid',counter',lands,valid⟩ := own.same
    have same_uid : uid' = uid := TapUid.chip.inj (Option.some.inj (valid.uid.symm.trans shows.uid))
    have same_counter : counter' = counter := Option.some.inj (valid.counter.symm.trans shows.counter)
    subst same_uid
    subst same_counter
    exact ⟨k,landing,.adopted k before around row token now own.landed adopts,own.consumed,lands⟩

theorem signed_told {n : ℕ} {check : TapCheck} {scan : SignedScan} (signed : run.signed settings n = some (check,scan)) :
    ∃ body around answer, run.actions n = .verify body around ∧ run.answer settings n = .verified answer ∧ answer.check = some check ∧
      answer.signed = some scan := by
  unfold Run.signed at signed
  split at signed
  · rename_i answer told
    obtain ⟨shown,there,signed⟩ := Option.bind_eq_some_iff.mp signed
    obtain ⟨told_scan,inside,same⟩ := Option.map_eq_some_iff.mp signed
    obtain ⟨rfl,rfl⟩ := Prod.mk.inj same
    obtain ⟨body,around,action⟩ := run.verified_action settings told
    exact ⟨body,around,answer,action,told,there,inside⟩
  · cases signed

theorem signed_names {n : ℕ} {check : TapCheck} {scan : SignedScan} (signed : run.signed settings n = some (check,scan)) :
    run.requested settings n = some check ∧ ∃ uid counter, check.Shows .valid uid counter ∧ scan.uidHash = settings.uidHash uid ∧
      scan.counter = counter.val := by
  obtain ⟨body,around,answer,action,told,shown,scanned⟩ := run.signed_told settings signed
  refine ⟨?_,?_⟩
  · unfold Run.requested
    rw [told]
    exact shown
  · obtain ⟨_,uid,counter,_,shows,hashed,counted,_⟩ := (run.verifying_at settings action told).signing shown scanned
    exact ⟨uid,counter,shows,hashed,counted⟩

theorem signed_once {n m : ℕ} {check check' : TapCheck} {scan scan' : SignedScan} (signed : run.signed settings n = some (check,scan))
    (signed' : run.signed settings m = some (check',scan')) (same_uid : check.uid = check'.uid)
    (same_counter : check.counter = check'.counter) : n = m := by
  obtain ⟨_,_,_,verifies,_⟩ := run.signed_told settings signed
  obtain ⟨_,_,_,verifies',_⟩ := run.signed_told settings signed'
  obtain ⟨requested,uid,counter,shows,_⟩ := run.signed_names settings signed
  obtain ⟨requested',_,_,shows',_⟩ := run.signed_names settings signed'
  have shows' : check'.Shows .valid uid counter := ⟨shows'.verdict,same_uid.symm.trans shows.uid,same_counter.symm.trans shows.counter⟩
  obtain ⟨k,landing,origin,consumed,lands⟩ := run.origin_of settings requested shows
  obtain ⟨k',landing',origin',consumed',lands'⟩ := run.origin_of settings requested' shows'
  have same := run.consumed_once settings consumed consumed' lands lands'
  subst same
  -- two direct taps, two adoptions, or one of each: a landing is no request to sign
  cases origin with
  | direct =>
    cases origin' with
    | direct => rfl
    | adopted _ _ _ _ _ _ landed =>
      obtain ⟨_,_,_,lands,_⟩ := landed
      exact absurd (lands.symm.trans verifies) (by simp)
  | adopted _ _ _ row _ _ landed adopts =>
    cases origin' with
    | direct =>
      obtain ⟨_,_,_,lands,_⟩ := landed
      exact absurd (lands.symm.trans verifies') (by simp)
    | adopted _ _ _ row' _ _ landed' adopts' =>
      have same_row := landed.unique settings run landed'
      subst same_row
      exact run.adopted_once settings adopts adopts'

-- An unused session of the table was issued, and nothing was signed with it since.
theorem session_origin {n : ℕ} {row : NonceRow} (found : (run.db settings n).getNonce row.nonce = some row) (unused : row.usedAt = none) :
    ∃ k < n, run.answer settings k = .issued row.nonce ∧ ∀ j check scan, k < j → j < n → run.signed settings j = some (check,scan) →
      scan.bundle.nonce ≠ row.nonce := by
  induction n with
  | zero => cases found
  | succ n ih =>
    rcases changes_nonces (run.changes settings n) found unused with old | issued
    · obtain ⟨k,before,issued,since⟩ := ih old
      refine ⟨k,by omega,issued,?_⟩
      intro j check scan above below signed
      rcases Nat.lt_succ_iff_lt_or_eq.mp below with earlier | here
      · exact since j check scan above earlier signed
      · subst here
        obtain ⟨body,around,answer,action,told,_,scanned⟩ := run.signed_told settings signed
        exact ((run.verifying_at settings action told).nonces found unused).2 scan scanned
    · refine ⟨n,Nat.lt_succ_self n,issued,?_⟩
      intro j _ _ above below
      omega

theorem signed_session {n : ℕ} {check : TapCheck} {scan : SignedScan} (signed : run.signed settings n = some (check,scan)) :
    ∃ row : NonceRow, (run.db settings n).getNonce row.nonce = some row ∧ row.usedAt = none ∧ scan.bundle.nonce = row.nonce := by
  obtain ⟨body,around,answer,action,told,shown,scanned⟩ := run.signed_told settings signed
  obtain ⟨session,_,_,live,_,_,_,same⟩ := (run.verifying_at settings action told).signing shown scanned
  exact ⟨session,live.found,live.unused,same⟩

end Run

-- The replay law of a run: taps are consumed with rising counters, once; what was refused as unregistered stays refused;
-- one message for a tap and one for a session; one adoption for a tap, with its token and in time.
structure ReplayLaw (settings : Settings) (run : Run) : Prop where
  rising : ∀ n m check check' uid counter counter', n < m → run.consumed settings n = some check → run.consumed settings m = some check' →
    check.Shows .valid uid counter → check'.Shows .valid uid counter' → counter.val < counter'.val
  unregistered : ∀ n m check check' uid counter counter', n < m → run.requested settings n = some check →
    run.shown settings m = some check' → check.Shows .unregistered uid counter → check'.Shows .valid uid counter' →
    counter.val < counter'.val
  message : ∀ n m check check' scan scan', run.signed settings n = some (check,scan) → run.signed settings m = some (check',scan') →
    check.uid = check'.uid → check.counter = check'.counter → n = m
  session : ∀ n check scan, run.signed settings n = some (check,scan) → ∃ k < n, run.answer settings k = .issued scan.bundle.nonce ∧
    ∀ j check' scan', k < j → j < n → run.signed settings j = some (check',scan') → scan'.bundle.nonce ≠ scan.bundle.nonce
  signed : ∀ n check scan, run.signed settings n = some (check,scan) → ∃ uid counter, check.Shows .valid uid counter ∧
    scan.uidHash = settings.uidHash uid ∧ scan.counter = counter.val
  adopted : ∀ n tapId token now check, run.Adopts settings n tapId token now check →
    ∃ k < n, ∃ around row landing, row.id = tapId ∧ run.AdoptedFrom settings k around row landing token now check
  adoptedOnce : ∀ n m tapId token token' now now' check check', run.Adopts settings n tapId token now check →
    run.Adopts settings m tapId token' now' check' → n = m

theorem replay_law (settings : Settings) (run : Run) : ReplayLaw settings run where
  rising n m check check' uid counter counter' before consumed consumed' shows shows' :=
    run.consumed_rise settings before consumed consumed' shows shows' (.inl rfl) (.inl rfl)
  unregistered n m check check' uid counter counter' before requested shown shows shows' := by
    have consumed := run.requested_consumed settings requested shows
    have seen := (run.consumption_at settings consumed shows (.inr rfl)).kept
    unfold Run.shown at shown
    split at shown
    · rename_i previewed told
      have tells := step_tells told (.inr (.inr ⟨previewed,rfl⟩))
      generalize run.actions m = action at tells
      cases tells
      have same := Option.some.inj shown
      have fresh := preview_fresh (same ▸ shows')
      exact (seen.trans (run.lastCounter_grows settings before uid)).trans_lt fresh
    · obtain ⟨k,landing,_,consumed',lands⟩ := run.origin_of settings shown shows'
      rcases Nat.lt_trichotomy n k with after | here | earlier
      · exact run.consumed_rise settings after consumed consumed' shows lands (.inr rfl) (.inl rfl)
      · subst here
        have same : check = landing := Option.some.inj (consumed.symm.trans consumed')
        exact absurd (shows.verdict.symm.trans (same ▸ lands.verdict)) (by simp)
      · have registered := (run.registered_at settings consumed' lands).1 rfl
        have still := (run.remembers settings earlier.le).registered registered
        rw [(run.registered_at settings consumed shows).2 rfl] at still
        cases still
  message n m check check' scan scan' signed signed' same_uid same_counter := run.signed_once settings signed signed' same_uid same_counter
  session n check scan signed := by
    obtain ⟨row,found,unused,same⟩ := run.signed_session settings signed
    rw [same]
    exact run.session_origin settings found unused
  signed n check scan signed := (run.signed_names settings signed).2
  adopted n tapId token now check adopts := run.adopted_from settings adopts
  adoptedOnce n m tapId token token' now now' check check' adopts adopts' := run.adopted_once settings adopts adopts'

end FlaconVault.Verifier
