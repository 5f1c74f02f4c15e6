import FlaconVault.Lib.Runs
import FlaconVault.Verifier.Reconcile
namespace FlaconVault.Verifier
open Guards

-- The running verifier: its database, and the jobs that have read the database and the chain but not yet written.
inductive Job where
  | event (job : EventJob)
  | confirm (job : ConfirmJob)
  | fail (eventId : ℕ) (txSig : Signature)
  | reconcile (job : ReconcileJob)

structure Server where
  db : Database
  jobs : List Job

def Server.start : Server := ⟨.empty,[]⟩

-- One step of the server. A write transaction is one step; the requests that read ahead start a job in one step and
-- finish it in a later one, with anything in between.
inductive Action where
  | tagLanding (tap : TapParams) (around : Surroundings) (purge : Bool)
  | verify (body : VerifyBody) (around : Surroundings)
  | preview (tap : TapParams)
  | session (nonce : Bytes32) (now : I64)
  | report (body : EventBody) (now : I64) (allowed : Bool)
  | postEvent (body : EventBody) (reads : ChainReads) (now : I64)
  | confirm (body : EventBody) (eventId : ℕ) (reads : ChainReads)
  | reconcile (reads : ReconcileReads) (ts : I64)
  | finish (index : ℕ) (now : I64)

inductive Answer where
  | refused (error : HttpError)
  | tag (answer : TagAnswer)
  | verified (answer : VerifyAnswer)
  | previewed (check : TapCheck)
  | issued (nonce : Bytes32)
  | event (row : EventRow)
  | started
  | cycle (outcome : Except SqlError Unit)
  | idle

-- A refused request leaves the database as it was.
def Server.answered {α : Type} (server : Server) (outcome : Except HttpError (Database × α)) (reply : α → Answer) :
    Server × Answer :=
  match outcome with
  | .ok (db,value) => ({server with db := db},reply value)
  | .error error => (server,.refused error)

def Server.begin (server : Server) (job : Job) : Server × Answer := ({server with jobs := server.jobs ++ [job]},.started)

def Server.finish (settings : Settings) (server : Server) (job : Job) (now : I64) : Server × Answer :=
  match job with
  | .event job => server.answered (eventWrite settings server.db job) .event
  | .confirm job => server.answered (confirmWrite settings server.db job now) .event
  | .fail eventId txSig => ({server with db := failWrite server.db eventId txSig},.refused txFailed)
  | .reconcile job =>
    match reconcileWrite settings server.db job with
    | .ok db => ({server with db := db},.cycle (.ok ()))
    | .error error => (server,.cycle (.error error))

def Server.step (settings : Settings) (server : Server) (action : Action) : Server × Answer :=
  match action with
  | .tagLanding tap around purge => server.answered (tagLanding settings server.db tap around purge) .tag
  | .verify body around => server.answered (verify settings server.db body around) .verified
  | .preview tap => (server,.previewed (preview settings server.db tap))
  | .session nonce now => server.answered (session settings server.db nonce now) .issued
  | .report body now allowed => server.answered (reportSealDead settings server.db body now allowed) .event
  | .postEvent body reads now =>
    match eventRead settings server.db body reads now with
    | .ok (.write job) => server.begin (.event job)
    | .ok (.answered row) => (server,.event row)
    | .error error => (server,.refused error)
  | .confirm body eventId reads =>
    match confirmRead settings server.db body eventId reads with
    | .ok (.write job) => server.begin (.confirm job)
    | .ok (.fail eventId txSig) => server.begin (.fail eventId txSig)
    | .ok (.answered row) => (server,.event row)
    | .ok (.refused error) => (server,.refused error)
    | .error error => (server,.refused error)
  | .reconcile reads ts =>
    match reconcileRead settings server.db reads ts with
    | some job => server.begin (.reconcile job)
    | none => (server,.idle)
  | .finish index now =>
    match server.jobs[index]? with
    | some job => Server.finish settings {server with jobs := server.jobs.eraseIdx index} job now
    | none => (server,.idle)

-- A run: the actions in their order, from the empty database.
structure Run where
  actions : ℕ → Action

namespace Run
variable (settings : Settings) (run : Run)

def server (n : ℕ) : Server :=
  Runs.reached (fun action server => (Server.step settings server action).1) Server.start run.actions n

def db (n : ℕ) : Database := (run.server settings n).db

def answer (n : ℕ) : Answer := (Server.step settings (run.server settings n) (run.actions n)).2

end Run

-- What one step can do to the database.
inductive Writes (settings : Settings) (server : Server) : Action → Database → Answer → Prop
  | none (action : Action) (answer : Answer) : Writes settings server action server.db answer
  | tagLanding (tap : TapParams) (around : Surroundings) (purge : Bool) (db : Database) (answer : TagAnswer)
      (accepted : tagLanding settings server.db tap around purge = .ok (db,answer)) :
      Writes settings server (.tagLanding tap around purge) db (.tag answer)
  | verify (body : VerifyBody) (around : Surroundings) (db : Database) (answer : VerifyAnswer)
      (accepted : verify settings server.db body around = .ok (db,answer)) :
      Writes settings server (.verify body around) db (.verified answer)
  | session (nonce : Bytes32) (now : I64) (db : Database) (issued : Bytes32)
      (accepted : session settings server.db nonce now = .ok (db,issued)) :
      Writes settings server (.session nonce now) db (.issued issued)
  | report (body : EventBody) (now : I64) (allowed : Bool) (db : Database) (row : EventRow)
      (accepted : reportSealDead settings server.db body now allowed = .ok (db,row)) :
      Writes settings server (.report body now allowed) db (.event row)
  | event (job : EventJob) (index : ℕ) (now : I64) (db : Database) (row : EventRow) (started : Job.event job ∈ server.jobs)
      (accepted : eventWrite settings server.db job = .ok (db,row)) :
      Writes settings server (.finish index now) db (.event row)
  | confirm (job : ConfirmJob) (index : ℕ) (now : I64) (db : Database) (row : EventRow)
      (started : Job.confirm job ∈ server.jobs) (accepted : confirmWrite settings server.db job now = .ok (db,row)) :
      Writes settings server (.finish index now) db (.event row)
  | fail (eventId : ℕ) (txSig : Signature) (index : ℕ) (now : I64) (started : Job.fail eventId txSig ∈ server.jobs) :
      Writes settings server (.finish index now) (failWrite server.db eventId txSig) (.refused txFailed)
  | reconcile (job : ReconcileJob) (index : ℕ) (now : I64) (db : Database) (started : Job.reconcile job ∈ server.jobs)
      (accepted : reconcileWrite settings server.db job = .ok db) :
      Writes settings server (.finish index now) db (.cycle (.ok ()))

theorem answered_cases {α : Type} (server : Server) (outcome : Except HttpError (Database × α)) (reply : α → Answer) :
    (∃ error, outcome = .error error ∧ server.answered outcome reply = (server,.refused error)) ∨
    ∃ db value, outcome = .ok (db,value) ∧ server.answered outcome reply = ({server with db := db},reply value) := by
  cases outcome with
  | error error => exact .inl ⟨error,rfl,rfl⟩
  | ok result => exact .inr ⟨result.1,result.2,rfl,rfl⟩

theorem finish_writes (settings : Settings) (server : Server) (index : ℕ) (now : I64) (job : Job)
    (started : job ∈ server.jobs) (rest : List Job) :
    let finished := Server.finish settings ⟨server.db,rest⟩ job now
    Writes settings server (.finish index now) finished.1.db finished.2 ∧ finished.1.jobs = rest := by
  cases job with
  | event job =>
    rcases answered_cases ⟨server.db,rest⟩ (eventWrite settings server.db job) .event with refused | accepted
    · obtain ⟨error,_,same⟩ := refused
      simp only [Server.finish,same]
      exact ⟨.none _ _,trivial⟩
    · obtain ⟨db,row,passed,same⟩ := accepted
      simp only [Server.finish,same]
      exact ⟨.event job index now db row started passed,trivial⟩
  | confirm job =>
    rcases answered_cases ⟨server.db,rest⟩ (confirmWrite settings server.db job now) .event with refused | accepted
    · obtain ⟨error,_,same⟩ := refused
      simp only [Server.finish,same]
      exact ⟨.none _ _,trivial⟩
    · obtain ⟨db,row,passed,same⟩ := accepted
      simp only [Server.finish,same]
      exact ⟨.confirm job index now db row started passed,trivial⟩
  | fail eventId txSig => exact ⟨.fail eventId txSig index now started,rfl⟩
  | reconcile job =>
    cases passed : reconcileWrite settings server.db job with
    | error error =>
      simp only [Server.finish,passed]
      exact ⟨.none _ _,trivial⟩
    | ok db =>
      simp only [Server.finish,passed]
      exact ⟨.reconcile job index now db started passed,trivial⟩

-- Every step is one of the listed writes.
theorem step_writes (settings : Settings) (server : Server) (action : Action) :
    Writes settings server action (Server.step settings server action).1.db (Server.step settings server action).2 := by
  cases action with
  | tagLanding tap around purge =>
    rcases answered_cases server (tagLanding settings server.db tap around purge) .tag with refused | accepted
    · obtain ⟨error,_,same⟩ := refused
      simp only [Server.step,same]
      exact .none _ _
    · obtain ⟨db,answer,passed,same⟩ := accepted
      simp only [Server.step,same]
      exact .tagLanding tap around purge db answer passed
  | verify body around =>
    rcases answered_cases server (verify settings server.db body around) .verified with refused | accepted
    · obtain ⟨error,_,same⟩ := refused
      simp only [Server.step,same]
      exact .none _ _
    · obtain ⟨db,answer,passed,same⟩ := accepted
      simp only [Server.step,same]
      exact .verify body around db answer passed
  | preview tap => exact .none _ _
  | session nonce now =>
    rcases answered_cases server (session settings server.db nonce now) .issued with refused | accepted
    · obtain ⟨error,_,same⟩ := refused
      simp only [Server.step,same]
      exact .none _ _
    · obtain ⟨db,issued,passed,same⟩ := accepted
      simp only [Server.step,same]
      exact .session nonce now db issued passed
  | report body now allowed =>
    rcases answered_cases server (reportSealDead settings server.db body now allowed) .event with refused | accepted
    · obtain ⟨error,_,same⟩ := refused
      simp only [Server.step,same]
      exact .none _ _
    · obtain ⟨db,row,passed,same⟩ := accepted
      simp only [Server.step,same]
      exact .report body now allowed db row passed
  | postEvent body reads now =>
    simp only [Server.step]
    split <;> exact .none _ _
  | confirm body eventId reads =>
    simp only [Server.step]
    split <;> exact .none _ _
  | reconcile reads ts =>
    simp only [Server.step]
    split <;> exact .none _ _
  | finish index now =>
    simp only [Server.step]
    split
    · rename_i job found
      exact (finish_writes settings server index now job (List.mem_of_getElem? found) _).1
    · exact .none _ _

-- A job is what the first half of some request or cycle read.
inductive Starts (settings : Settings) (db : Database) : Job → Prop
  | event (body : EventBody) (reads : ChainReads) (now : I64) (job : EventJob)
      (read : eventRead settings db body reads now = .ok (.write job)) : Starts settings db (.event job)
  | confirm (body : EventBody) (eventId : ℕ) (reads : ChainReads) (job : ConfirmJob)
      (read : confirmRead settings db body eventId reads = .ok (.write job)) : Starts settings db (.confirm job)
  | fail (body : EventBody) (asked : ℕ) (reads : ChainReads) (eventId : ℕ) (txSig : Signature)
      (read : confirmRead settings db body asked reads = .ok (.fail eventId txSig)) : Starts settings db (.fail eventId txSig)
  | reconcile (reads : ReconcileReads) (ts : I64) (job : ReconcileJob)
      (read : reconcileRead settings db reads ts = some job) : Starts settings db (.reconcile job)

theorem answered_jobs {α : Type} (server : Server) (outcome : Except HttpError (Database × α)) (reply : α → Answer) :
    (server.answered outcome reply).1.jobs = server.jobs := by
  cases outcome <;> rfl

theorem begin_jobs {server : Server} {started job : Job} (present : job ∈ (server.begin started).1.jobs) :
    job ∈ server.jobs ∨ job = started := by
  simpa [Server.begin] using present

-- The job that an action starts.
inductive Begun (settings : Settings) (db : Database) : Action → Job → Prop
  | event (body : EventBody) (reads : ChainReads) (now : I64) (job : EventJob)
      (read : eventRead settings db body reads now = .ok (.write job)) : Begun settings db (.postEvent body reads now) (.event job)
  | confirm (body : EventBody) (eventId : ℕ) (reads : ChainReads) (job : ConfirmJob)
      (read : confirmRead settings db body eventId reads = .ok (.write job)) :
      Begun settings db (.confirm body eventId reads) (.confirm job)
  | fail (body : EventBody) (asked : ℕ) (reads : ChainReads) (eventId : ℕ) (txSig : Signature)
      (read : confirmRead settings db body asked reads = .ok (.fail eventId txSig)) :
      Begun settings db (.confirm body asked reads) (.fail eventId txSig)
  | reconcile (reads : ReconcileReads) (ts : I64) (job : ReconcileJob)
      (read : reconcileRead settings db reads ts = some job) : Begun settings db (.reconcile reads ts) (.reconcile job)

theorem Begun.starts {settings : Settings} {db : Database} {action : Action} {job : Job} (begun : Begun settings db action job) :
    Starts settings db job := by
  cases begun with
  | event body reads now job read => exact .event body reads now job read
  | confirm body eventId reads job read => exact .confirm body eventId reads job read
  | fail body asked reads eventId txSig read => exact .fail body asked reads eventId txSig read
  | reconcile reads ts job read => exact .reconcile reads ts job read

-- Where a job of the next state comes from.
theorem step_begun (settings : Settings) (server : Server) (action : Action) (job : Job)
    (present : job ∈ (Server.step settings server action).1.jobs) : job ∈ server.jobs ∨ Begun settings server.db action job := by
  cases action with
  | tagLanding tap around purge => exact .inl (answered_jobs server _ _ ▸ present)
  | verify body around => exact .inl (answered_jobs server _ _ ▸ present)
  | preview tap => exact .inl present
  | session nonce now => exact .inl (answered_jobs server _ _ ▸ present)
  | report body now allowed => exact .inl (answered_jobs server _ _ ▸ present)
  | postEvent body reads now =>
    simp only [Server.step] at present
    split at present
    · rename_i started read
      rcases begin_jobs present with old | fresh
      · exact .inl old
      · exact .inr (fresh ▸ .event body reads now started read)
    · exact .inl present
    · exact .inl present
  | confirm body eventId reads =>
    simp only [Server.step] at present
    split at present
    · rename_i started read
      rcases begin_jobs present with old | fresh
      · exact .inl old
      · exact .inr (fresh ▸ .confirm body eventId reads started read)
    · rename_i failing txSig read
      rcases begin_jobs present with old | fresh
      · exact .inl old
      · exact .inr (fresh ▸ .fail body eventId reads failing txSig read)
    · exact .inl present
    · exact .inl present
    · exact .inl present
  | reconcile reads ts =>
    simp only [Server.step] at present
    split at present
    · rename_i started read
      rcases begin_jobs present with old | fresh
      · exact .inl old
      · exact .inr (fresh ▸ .reconcile reads ts started read)
    · exact .inl present
  | finish index now =>
    simp only [Server.step] at present
    split at present
    · rename_i found there
      have kept := (finish_writes settings server index now found (List.mem_of_getElem? there) (server.jobs.eraseIdx index)).2
      rw [kept] at present
      exact .inl (List.mem_of_mem_eraseIdx present)
    · exact .inl present

theorem step_jobs (settings : Settings) (server : Server) (action : Action) (job : Job)
    (present : job ∈ (Server.step settings server action).1.jobs) : job ∈ server.jobs ∨ Starts settings server.db job :=
  (step_begun settings server action job present).imp_right Begun.starts

namespace Run
variable {settings : Settings} {run : Run}

theorem server_succ (n : ℕ) : run.server settings (n+1) = (Server.step settings (run.server settings n) (run.actions n)).1 := rfl

theorem writes (n : ℕ) : Writes settings (run.server settings n) (run.actions n) (run.db settings (n+1)) (run.answer settings n) :=
  step_writes settings (run.server settings n) (run.actions n)

-- Every waiting job was started by an earlier action.
theorem origin {n : ℕ} {job : Job} (present : job ∈ (run.server settings n).jobs) :
    ∃ m < n, Begun settings (run.db settings m) (run.actions m) job := by
  induction n with
  | zero => exact absurd present List.not_mem_nil
  | succ n ih =>
    rcases step_begun settings (run.server settings n) (run.actions n) job present with old | fresh
    · obtain ⟨m,before,begun⟩ := ih old
      exact ⟨m,by omega,begun⟩
    · exact ⟨n,Nat.lt_succ_self n,fresh⟩

end Run
end FlaconVault.Verifier
