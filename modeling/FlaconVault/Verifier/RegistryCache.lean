import FlaconVault.Lib.Runs
import FlaconVault.Verifier.AccountData
import FlaconVault.Verifier.Reconcile
import FlaconVault.Verifier.Scans
namespace FlaconVault.Verifier

def FALLBACK_SITES : List (U16 × List Char) :=
  [(1,"Parfümerie X, Düsseldorf".toList),(2,"FlaconVault Vault, Wickede".toList)]

def REGISTRY_TTL_S : ℕ := 60
def REGISTRY_STALE_S : ℕ := 900
def REGISTRY_RETRY_S : ℕ := 10

inductive RegistrySource where
  | chain | fallback
  deriving DecidableEq

structure RegistryInfo where
  programId : Option Pubkey
  authority : Option Pubkey
  serverKeys : List ServerKey
  partners : List Pubkey
  sites : List (U16 × List Char)
  source : RegistrySource
  deriving DecidableEq

-- A registry account, decoded for this program.
def chainInfo (program : Pubkey) (registry : Registry) : RegistryInfo :=
  ⟨some program,some registry.authority,registry.serverKeys,registry.partners,
    registry.sites.map fun site => (site.siteId,siteLabel site.label),.chain⟩

-- What a read of the registry account gets: an RPC error, or the account's data, `some none` where there is no account. The
-- RPC is assumed to answer with JSON-RPC objects: any other reply would end the request with an exception that
-- `_read_registry` does not catch, and `failed_at` would not be set.
abbrev RegistryReply := Option (Option (List Byte))

def readRegistry (settings : Settings) (response : RegistryReply) : Option RegistryInfo :=
  match settings.programId,response with
  | some program,some (some data) => ((decodeRegistry settings (some data)).toOption).map (chainInfo program)
  | _,_ => none

def storedRegistry (settings : Settings) (db : Database) (wallNow : Int) : Option RegistryInfo :=
  match db.registry with
  | none => none
  | some st =>
    if some st.programId ≠ settings.programId ∨ wallNow - st.updatedAt ≥ REGISTRY_STALE_S then none
    else some (chainInfo st.programId st.registry)

def fallbackInfo (settings : Settings) (db : Database) : RegistryInfo :=
  ⟨settings.programId,none,[],db.partnerPubkeys,FALLBACK_SITES,.fallback⟩

-- The last successful chain read and when it was made, and the last failed read. Both times are the monotonic clock as
-- the request that read the chain had taken it.
structure RegistryCache where
  value : Option RegistryInfo
  readAt : ℚ
  failedAt : Option ℚ
  deriving DecidableEq

namespace RegistryCache

def empty : RegistryCache := ⟨none,0,none⟩

def fresh (cache : RegistryCache) (now : ℚ) : Option RegistryInfo := cache.value.filter fun _ => now - cache.readAt < REGISTRY_TTL_S

def backingOff (cache : RegistryCache) (now : ℚ) : Bool := cache.failedAt.any fun failed => now - failed < REGISTRY_RETRY_S

-- Without a fresh read.
def cached (settings : Settings) (db : Database) (cache : RegistryCache) (now : ℚ) (wallNow : Int) : RegistryInfo :=
  match cache.value.filter fun _ => now - cache.readAt < REGISTRY_STALE_S with
  | some value => value
  | none => (storedRegistry settings db wallNow).getD (fallbackInfo settings db)

end RegistryCache

def registryPartners (info : RegistryInfo) : Option (List Pubkey) := if info.source = .chain then some info.partners else none

-- The answer for a wallet that is given.
def mayAttest (settings : Settings) (info : RegistryInfo) (pubkey : Pubkey) : Bool :=
  if info.source ≠ .chain ∧ settings.programId.isSome then false else info.partners.contains pubkey

-- The admission of a scan asks this about the registry it is given.
theorem isRegistryPartner_mayAttest (settings : Settings) (db : Database) (info : RegistryInfo) (pubkey : Pubkey)
    (configured : settings.programId.isSome) :
    isRegistryPartner settings db (registryPartners info) (some pubkey) = mayAttest settings info pubkey := by
  obtain ⟨program,known⟩ := Option.isSome_iff_exists.mp configured
  unfold isRegistryPartner mayAttest registryPartners
  rw [known]
  cases info.source with
  | chain => simp
  | fallback => simp

-- A request that needs the registry. It takes the clock first; it then finds a fresh value, or takes the refresh lock and
-- reads the chain, or falls back on what is cached when somebody else holds the lock, the chain is not to be asked again
-- yet, or its own read has failed.
structure RegistryCall where
  question : Option Pubkey
  now : ℚ

structure PartnerWorld where
  db : Database
  cache : RegistryCache
  asking : List RegistryCall
  refreshing : Option RegistryCall
  falling : List RegistryCall
  cycles : List (Int × Option (List Byte))

-- A request with a wallet asks is_registry_partner, one without asks registry_partners. The requests run in threads of
-- their own, so anything may happen between their steps; a cycle of the reconcile job reads in one step and writes in a
-- later one. No other code writes the stored registry.
inductive PartnerAction where
  | ask (question : Option Pubkey)
  | enter (index : ℕ)
  | finish (response : RegistryReply)
  | fallBack (index : ℕ)
  | cycleRead (ts : Int) (data : Option (List Byte))
  | cycleWrite (index : ℕ)
  | elsewhere (change : Database → Database)

structure Moment where
  mono : ℚ
  wall : Int

abbrev PartnerAnswer := RegistryCall × RegistryInfo

namespace PartnerWorld

def entered (world : PartnerWorld) (index : ℕ) : PartnerWorld := {world with asking := world.asking.eraseIdx index}

def fall (world : PartnerWorld) (call : RegistryCall) : PartnerWorld := {world with falling := world.falling ++ [call]}

def enter (settings : Settings) (world : PartnerWorld) (call : RegistryCall) : PartnerWorld × Option PartnerAnswer :=
  if settings.programId.isNone then (world,some (call,fallbackInfo settings world.db))
  else match world.cache.fresh call.now with
    | some value => (world,some (call,value))
    | none =>
      if world.refreshing.isSome ∨ world.cache.backingOff call.now then (world.fall call,none)
      else ({world with refreshing := some call},none)

def finish (settings : Settings) (world : PartnerWorld) (call : RegistryCall) (response : RegistryReply) :
    PartnerWorld × Option PartnerAnswer :=
  match readRegistry settings response with
  | some fresh => ({world with cache := ⟨some fresh,call.now,none⟩},some (call,fresh))
  | none => ({world.fall call with cache := {world.cache with failedAt := some call.now}},none)

def step (settings : Settings) (moment : Moment) (world : PartnerWorld) : PartnerAction → PartnerWorld × Option PartnerAnswer
  | .ask question => ({world with asking := world.asking ++ [⟨question,moment.mono⟩]},none)
  | .enter index =>
    match world.asking[index]? with
    | some call => enter settings (world.entered index) call
    | none => (world,none)
  | .finish response =>
    match world.refreshing with
    | some call => finish settings {world with refreshing := none} call response
    | none => (world,none)
  | .fallBack index =>
    match world.falling[index]? with
    | some call =>
      ({world with falling := world.falling.eraseIdx index},
        some (call,world.cache.cached settings world.db call.now moment.wall))
    | none => (world,none)
  | .cycleRead ts data => ({world with cycles := world.cycles ++ [(ts,data)]},none)
  | .cycleWrite index =>
    match world.cycles[index]? with
    | some (ts,data) =>
      ({world with db := refreshRegistry settings ts world.db data
                   cycles := world.cycles.eraseIdx index},none)
    | none => (world,none)
  | .elsewhere change => ({world with db := {change world.db with registry := world.db.registry}},none)

end PartnerWorld

-- What one step can do.
inductive PartnerMoves (settings : Settings) (moment : Moment) (world : PartnerWorld) : PartnerAction → PartnerWorld → Option PartnerAnswer → Prop
  | idle (action : PartnerAction) : PartnerMoves settings moment world action world none
  | asked (question : Option Pubkey) :
      PartnerMoves settings moment world (.ask question) {world with asking := world.asking ++ [⟨question,moment.mono⟩]} none
  | unconfigured (index : ℕ) (call : RegistryCall) (configured : settings.programId = none) :
      PartnerMoves settings moment world (.enter index) (world.entered index) (some (call,fallbackInfo settings world.db))
  | hit (index : ℕ) (call : RegistryCall) (value : RegistryInfo) (fresh : world.cache.fresh call.now = some value) :
      PartnerMoves settings moment world (.enter index) (world.entered index) (some (call,value))
  | queued (index : ℕ) (call : RegistryCall) :
      PartnerMoves settings moment world (.enter index) ((world.entered index).fall call) none
  | begins (index : ℕ) (call : RegistryCall) (stale : world.cache.fresh call.now = none) (free : world.refreshing = none)
      (again : world.cache.backingOff call.now = false) :
      PartnerMoves settings moment world (.enter index) {world.entered index with refreshing := some call} none
  | succeeded (response : RegistryReply) (call : RegistryCall) (fresh : RegistryInfo)
      (reading : world.refreshing = some call) (read : readRegistry settings response = some fresh) :
      PartnerMoves settings moment world (.finish response)
        {world with cache := ⟨some fresh,call.now,none⟩
                    refreshing := none} (some (call,fresh))
  | failed (response : RegistryReply) (call : RegistryCall) (reading : world.refreshing = some call) :
      PartnerMoves settings moment world (.finish response)
        {world.fall call with cache := {world.cache with failedAt := some call.now}
                              refreshing := none} none
  | fellBack (index : ℕ) (call : RegistryCall) :
      PartnerMoves settings moment world (.fallBack index) {world with falling := world.falling.eraseIdx index}
        (some (call,world.cache.cached settings world.db call.now moment.wall))
  | cycleRead (ts : Int) (data : Option (List Byte)) :
      PartnerMoves settings moment world (.cycleRead ts data) {world with cycles := world.cycles ++ [(ts,data)]} none
  | cycleWrite (index : ℕ) (ts : Int) (data : Option (List Byte)) (waiting : (ts,data) ∈ world.cycles) :
      PartnerMoves settings moment world (.cycleWrite index)
        {world with db := refreshRegistry settings ts world.db data
                    cycles := world.cycles.eraseIdx index} none
  | elsewhere (change : Database → Database) :
      PartnerMoves settings moment world (.elsewhere change) {world with db := {change world.db with registry := world.db.registry}} none

theorem PartnerWorld.moves (settings : Settings) (moment : Moment) (world : PartnerWorld) (action : PartnerAction) :
    PartnerMoves settings moment world action (world.step settings moment action).1 (world.step settings moment action).2 := by
  cases action with
  | ask question => exact .asked question
  | enter index =>
    unfold step
    dsimp only
    split
    · rename_i call calling
      unfold enter
      split
      · rename_i configured
        exact .unconfigured index call (Option.isNone_iff_eq_none.mp configured)
      · split
        · rename_i value fresh
          exact .hit index call value fresh
        · rename_i stale
          split
          · exact .queued index call
          · rename_i free
            simp only [not_or,Bool.not_eq_true,Option.isSome_eq_false_iff,Option.isNone_iff_eq_none] at free
            exact .begins index call stale free.1 free.2
    · exact .idle _
  | finish response =>
    unfold step
    dsimp only
    split
    · rename_i call reading
      unfold finish
      split
      · rename_i fresh read
        exact .succeeded response call fresh reading read
      · exact .failed response call reading
    · exact .idle _
  | fallBack index =>
    unfold step
    dsimp only
    split
    · exact .fellBack index _
    · exact .idle _
  | cycleRead ts data => exact .cycleRead ts data
  | cycleWrite index =>
    unfold step
    dsimp only
    split
    · rename_i ts data waiting
      exact .cycleWrite index ts data (List.mem_of_getElem? waiting)
    · exact .idle _
  | elsewhere change => exact .elsewhere change

-- A run of one server process, on clocks that never go back and on whatever database it finds.
structure PartnerRun where
  found : Database
  actions : ℕ → PartnerAction
  clock : ℕ → Moment
  forward : ∀ n, (clock n).mono ≤ (clock (n+1)).mono ∧ (clock n).wall ≤ (clock (n+1)).wall

namespace PartnerRun
variable (settings : Settings) (run : PartnerRun)

def world (n : ℕ) : PartnerWorld :=
  Runs.reached (fun (label : PartnerAction × Moment) world => (world.step settings label.2 label.1).1)
    ⟨run.found,.empty,[],none,[],[]⟩ (fun n => (run.actions n,run.clock n)) n

def answered (n : ℕ) : Option PartnerAnswer := ((run.world settings n).step settings (run.clock n) (run.actions n)).2

theorem world_succ (n : ℕ) :
    run.world settings (n+1) = ((run.world settings n).step settings (run.clock n) (run.actions n)).1 := Runs.reached_succ n

-- The date of a read, on the clock that dates it: a request's own clock reading, or the time of a cycle.
inductive ReadDate where
  | mono (time : ℚ)
  | wall (time : Int)

def ReadDate.recent (date : ReadDate) (now : ℚ) (wallNow : Int) : Prop :=
  match date with
  | .mono time => now - time < REGISTRY_STALE_S
  | .wall time => wallNow - time < REGISTRY_STALE_S

-- The registry accounts of this program that were read from the chain before step `n`.
inductive ReadBefore (program : Pubkey) (n : ℕ) : RegistryInfo → ReadDate → Prop
  | request (m : ℕ) (data : List Byte) (registry : Registry) (call : RegistryCall) (before : m < n)
      (action : run.actions m = .finish (some (some data))) (reading : (run.world settings m).refreshing = some call)
      (decoded : decodeRegistry settings (some data) = .ok registry) :
      ReadBefore program n (chainInfo program registry) (.mono call.now)
  | cycle (m : ℕ) (ts : Int) (data : List Byte) (registry : Registry) (before : m < n)
      (action : run.actions m = .cycleRead ts (some data)) (decoded : decodeRegistry settings (some data) = .ok registry) :
      ReadBefore program n (chainInfo program registry) (.wall ts)
  | earlier (st : StoredRegistry) (stored : run.found.registry = some st) (same : st.programId = program) :
      ReadBefore program n (chainInfo program st.registry) (.wall st.updatedAt)

variable {settings run} {program : Pubkey} {n : ℕ}

theorem ReadBefore.later {info : RegistryInfo} {date : ReadDate} (read : ReadBefore settings run program n info date) {m : ℕ}
    (after : n ≤ m) : ReadBefore settings run program m info date := by
  cases read with
  | request k data registry call before action reading decoded =>
    exact .request k data registry call (Nat.lt_of_lt_of_le before after) action reading decoded
  | cycle k ts data registry before action decoded => exact .cycle k ts data registry (Nat.lt_of_lt_of_le before after) action decoded
  | earlier st stored same => exact .earlier st stored same

-- What the memory of the process and the stored registry come from.
structure Sourced (settings : Settings) (run : PartnerRun) (program : Pubkey) (n : ℕ) : Prop where
  cached : ∀ value, (run.world settings n).cache.value = some value →
    ReadBefore settings run program n value (.mono (run.world settings n).cache.readAt)
  stored : ∀ st, (run.world settings n).db.registry = some st → st.programId = program →
    ReadBefore settings run program n (chainInfo program st.registry) (.wall st.updatedAt)
  cycles : ∀ ts data, (ts,data) ∈ (run.world settings n).cycles → ∃ m < n, run.actions m = .cycleRead ts data

theorem refreshRegistry_stored (settings : Settings) (ts : Int) (db : Database) (data : Option (List Byte)) :
    (refreshRegistry settings ts db data).registry = db.registry ∨
      ∃ bytes program registry, data = some bytes ∧ settings.programId = some program ∧
        decodeRegistry settings (some bytes) = .ok registry ∧
        (refreshRegistry settings ts db data).registry = some ⟨program,registry,ts⟩ := by
  cases data with
  | none => exact .inl rfl
  | some bytes =>
    cases configured : settings.programId with
    | none =>
      refine .inl ?_
      unfold refreshRegistry
      rw [configured]
    | some program =>
      unfold refreshRegistry
      rw [configured]
      dsimp only
      cases decoded : decodeRegistry settings (some bytes) with
      | error error => exact .inl rfl
      | ok registry => exact .inr ⟨bytes,program,registry,rfl,rfl,decoded,rfl⟩

theorem readRegistry_some {response : RegistryReply} {fresh : RegistryInfo} (configured : settings.programId = some program) :
    readRegistry settings response = some fresh ↔ ∃ data registry, response = some (some data) ∧
      decodeRegistry settings (some data) = .ok registry ∧ fresh = chainInfo program registry := by
  unfold readRegistry
  rw [configured]
  cases response with
  | none => simp
  | some response =>
    cases response with
    | none => simp
    | some data =>
      dsimp only
      cases decoded : decodeRegistry settings (some data) with
      | error error =>
        constructor
        · intro none_read
          cases none_read
        · intro read
          obtain ⟨_,registry,same,read,_⟩ := read
          cases same
          cases decoded.symm.trans read
      | ok registry =>
        constructor
        · intro read
          cases read
          exact ⟨data,registry,rfl,decoded,rfl⟩
        · intro read
          obtain ⟨_,other,same,read,shown⟩ := read
          cases same
          cases decoded.symm.trans read
          exact congrArg some shown.symm

theorem moved (settings : Settings) (run : PartnerRun) (n : ℕ) : PartnerMoves settings (run.clock n) (run.world settings n)
    (run.actions n) (run.world settings (n+1)) (run.answered settings n) := by
  rw [world_succ]
  exact PartnerWorld.moves _ _ _ _

theorem Sourced.step (configured : settings.programId = some program) (sourced : Sourced settings run program n) :
    Sourced settings run program (n+1) := by
  obtain ⟨cached,stored,cycles⟩ := sourced
  have moved := moved settings run n
  have kept : ∀ value, (run.world settings n).cache.value = some value →
      ReadBefore settings run program (n+1) value (.mono (run.world settings n).cache.readAt) :=
    fun value there => (cached value there).later (Nat.le_succ n)
  have still : ∀ st, (run.world settings n).db.registry = some st → st.programId = program →
      ReadBefore settings run program (n+1) (chainInfo program st.registry) (.wall st.updatedAt) :=
    fun st there same => (stored st there same).later (Nat.le_succ n)
  have started : ∀ ts data, (ts,data) ∈ (run.world settings n).cycles → ∃ m < n+1, run.actions m = .cycleRead ts data := by
    intro ts data waiting
    obtain ⟨m,before,action⟩ := cycles ts data waiting
    exact ⟨m,Nat.lt_succ_of_lt before,action⟩
  generalize called : run.actions n = action at moved
  generalize reached : run.world settings (n+1) = later at moved
  generalize run.answered settings n = answer at moved
  cases moved with
  | idle | asked | unconfigured | hit | queued | begins | fellBack | elsewhere =>
    exact ⟨reached ▸ kept,reached ▸ still,reached ▸ started⟩
  | failed => exact ⟨reached ▸ kept,reached ▸ still,reached ▸ started⟩
  | succeeded response call fresh reading read =>
    refine ⟨?_,reached ▸ still,reached ▸ started⟩
    obtain ⟨data,registry,rfl,decoded,rfl⟩ := (readRegistry_some configured).mp read
    rw [reached]
    intro value there
    cases there
    exact .request n data registry call (Nat.lt_succ_self n) called reading decoded
  | cycleRead ts data =>
    refine ⟨reached ▸ kept,reached ▸ still,?_⟩
    rw [reached]
    intro ts' data' waiting
    rcases List.mem_append.mp waiting with waiting | here
    · exact started ts' data' waiting
    · cases List.mem_singleton.mp here
      exact ⟨n,Nat.lt_succ_self n,called⟩
  | cycleWrite index ts data waiting =>
    refine ⟨reached ▸ kept,?_,?_⟩
    · rw [reached]
      intro st there same
      rcases refreshRegistry_stored settings ts (run.world settings n).db data with unchanged | written
      · exact still st (unchanged ▸ there) same
      · obtain ⟨bytes,program',registry,rfl,known,decoded,written⟩ := written
        cases Option.some.inj (written.symm.trans there)
        cases same
        obtain ⟨m,before,action⟩ := started ts (some bytes) waiting
        exact .cycle m ts bytes registry before action decoded
    · rw [reached]
      intro ts' data' there
      exact started ts' data' (List.mem_of_mem_eraseIdx there)

theorem sourced (configured : settings.programId = some program) (n : ℕ) : Sourced settings run program n := by
  induction n with
  | zero =>
    refine ⟨?_,?_,?_⟩
    · intro value there
      cases there
    · intro st there same
      exact .earlier st there same
    · intro ts data waiting
      cases waiting
  | succ n ih => exact ih.step configured

-- Where an answer comes from: a recent read of the chain, or the seed data.
theorem answer_source (configured : settings.programId = some program) {call : RegistryCall} {info : RegistryInfo}
    (answered : run.answered settings n = some (call,info)) :
    (∃ date, ReadBefore settings run program (n+1) info date ∧ date.recent call.now (run.clock n).wall) ∨ info.source = .fallback := by
  obtain ⟨cached,stored,cycles⟩ := @sourced settings run program configured n
  have moved := moved settings run n
  rw [answered] at moved
  generalize called : run.actions n = action at moved
  generalize reached : run.world settings (n+1) = later at moved
  cases moved with
  | unconfigured index call unset => cases configured.symm.trans unset
  | hit index call value fresh =>
    obtain ⟨there,recent⟩ := Option.filter_eq_some_iff.mp fresh
    refine .inl ⟨_,(cached info there).later (Nat.le_succ n),?_⟩
    have small : call.now - (run.world settings n).cache.readAt < REGISTRY_TTL_S := by simpa using recent
    have ordered : (REGISTRY_TTL_S : ℚ) < REGISTRY_STALE_S := by norm_num [REGISTRY_TTL_S,REGISTRY_STALE_S]
    exact lt_trans small ordered
  | succeeded response call fresh reading read =>
    obtain ⟨data,registry,rfl,decoded,rfl⟩ := (readRegistry_some configured).mp read
    refine .inl ⟨_,.request n data registry call (Nat.lt_succ_self n) called reading decoded,?_⟩
    simp [ReadDate.recent,REGISTRY_STALE_S]
  | fellBack index call =>
    unfold RegistryCache.cached
    split
    · rename_i value recent
      obtain ⟨there,recent⟩ := Option.filter_eq_some_iff.mp recent
      have recent : call.now - (run.world settings n).cache.readAt < REGISTRY_STALE_S := by simpa using recent
      exact .inl ⟨_,(cached value there).later (Nat.le_succ n),recent⟩
    · unfold storedRegistry
      cases there : (run.world settings n).db.registry with
      | none => exact .inr rfl
      | some st =>
        dsimp only
        split
        · exact .inr rfl
        · rename_i usable
          simp only [configured,not_or,not_not,Option.some.injEq,not_le] at usable
          obtain ⟨same,recent⟩ := usable
          refine .inl ⟨.wall st.updatedAt,?_,recent⟩
          have read := (stored st there same).later (Nat.le_succ n)
          rw [same]
          exact read

-- A request goes to the chain, with the clock as it had taken it.
def BeginsRead (settings : Settings) (run : PartnerRun) (n : ℕ) (now : ℚ) : Prop :=
  (run.world settings n).refreshing = none ∧ ∃ call, (run.world settings (n+1)).refreshing = some call ∧ call.now = now

-- A read that began at this time is under way, or the cache knows of it or of a later one.
def Marked (world : PartnerWorld) (time : ℚ) : Prop :=
  (∃ call, world.refreshing = some call ∧ time ≤ call.now) ∨
    world.refreshing = none ∧ ((∃ failed, world.cache.failedAt = some failed ∧ time ≤ failed) ∨
      world.cache.value.isSome ∧ time ≤ world.cache.readAt)

theorem Marked.apart {world : PartnerWorld} {time now : ℚ} (marked : Marked world time) (free : world.refreshing = none)
    (stale : world.cache.fresh now = none) (again : world.cache.backingOff now = false) : time + REGISTRY_RETRY_S ≤ now := by
  rcases marked with busy | noted
  · obtain ⟨call,busy,-⟩ := busy
    cases busy.symm.trans free
  · rcases noted.2 with failed | read
    · obtain ⟨failed,known,after⟩ := failed
      unfold RegistryCache.backingOff at again
      rw [known] at again
      have late : ¬now - failed < REGISTRY_RETRY_S := by simpa using again
      linarith
    · obtain ⟨present,after⟩ := read
      obtain ⟨value,known⟩ := Option.isSome_iff_exists.mp present
      unfold RegistryCache.fresh at stale
      rw [known] at stale
      have late : ¬now - world.cache.readAt < REGISTRY_TTL_S := by simpa [Option.filter] using stale
      have ordered : (REGISTRY_RETRY_S : ℚ) < REGISTRY_TTL_S := by norm_num [REGISTRY_RETRY_S,REGISTRY_TTL_S]
      linarith

theorem Marked.step {moment : Moment} {world later : PartnerWorld} {action : PartnerAction} {answer : Option PartnerAnswer} {time : ℚ}
    (moves : PartnerMoves settings moment world action later answer) (marked : Marked world time) : Marked later time := by
  have own {call : RegistryCall} (reading : world.refreshing = some call) : time ≤ call.now := by
    rcases marked with busy | noted
    · obtain ⟨other,busy,after⟩ := busy
      cases reading.symm.trans busy
      exact after
    · cases reading.symm.trans noted.1
  cases moves with
  | begins index call stale free again =>
    have late := marked.apart free stale again
    have positive : (0 : ℚ) ≤ REGISTRY_RETRY_S := Nat.cast_nonneg _
    exact .inl ⟨call,rfl,by linarith⟩
  | succeeded response call fresh reading read => exact .inr ⟨rfl,.inr ⟨rfl,own reading⟩⟩
  | failed response call reading => exact .inr ⟨rfl,.inl ⟨call.now,rfl,own reading⟩⟩
  | _ => exact marked

theorem BeginsRead.parts {now : ℚ} (begun : BeginsRead settings run n now) :
    (run.world settings n).cache.fresh now = none ∧ (run.world settings n).cache.backingOff now = false := by
  obtain ⟨free,call,busy,rfl⟩ := begun
  have moved := moved settings run n
  generalize run.actions n = action at moved
  generalize run.answered settings n = answer at moved
  generalize run.world settings (n+1) = later at moved busy
  cases moved with
  | begins index call' stale _ again =>
    cases busy
    exact ⟨stale,again⟩
  | succeeded | failed => cases busy
  | _ => cases free.symm.trans busy

theorem begun_marked {m : ℕ} {time : ℚ} (begun : BeginsRead settings run m time) (later : m < n) :
    Marked (run.world settings n) time := by
  induction n,later using Nat.le_induction with
  | base =>
    obtain ⟨-,call,busy,rfl⟩ := begun
    exact .inl ⟨call,busy,le_refl _⟩
  | succ k _ ih => exact ih.step (moved settings run k)

theorem reads_apart {m : ℕ} {time now : ℚ} (ordered : m < n) (begun : BeginsRead settings run m time)
    (begun' : BeginsRead settings run n now) : time + REGISTRY_RETRY_S ≤ now := by
  obtain ⟨stale,again⟩ := begun'.parts
  exact (begun_marked begun ordered).apart begun'.1 stale again

end PartnerRun

-- The partners of an answer are those of a recent read of this program's registry, or the answer is a refusal whatever
-- the seed data say; requests leave the chain alone between their reads; and a wallet that no recent read lists is refused.
structure PartnersBounded (settings : Settings) (run : PartnerRun) (program : Pubkey) : Prop where
  sourced : ∀ n call info, run.answered settings n = some (call,info) → ∀ partners, registryPartners info = some partners →
    info.partners = partners ∧
      ∃ date, PartnerRun.ReadBefore settings run program (n+1) info date ∧ date.recent call.now (run.clock n).wall
  unseeded : ∀ n call info, run.answered settings n = some (call,info) → registryPartners info = none →
    ∀ pubkey, mayAttest settings info pubkey = false
  apart : ∀ m n time now, m < n → PartnerRun.BeginsRead settings run m time → PartnerRun.BeginsRead settings run n now →
    time + REGISTRY_RETRY_S ≤ now
  removed : ∀ n call info pubkey, run.answered settings n = some (call,info) →
    (∀ listing date, PartnerRun.ReadBefore settings run program (n+1) listing date → pubkey ∈ listing.partners →
      ¬date.recent call.now (run.clock n).wall) → mayAttest settings info pubkey = false

theorem partners_bounded (settings : Settings) (run : PartnerRun) :
    ∀ program, settings.programId = some program → PartnersBounded settings run program := by
  intro program configured
  have refused {info : RegistryInfo} (seeded : info.source = .fallback) (pubkey : Pubkey) : mayAttest settings info pubkey = false := by
    unfold mayAttest
    rw [if_pos ⟨by rw [seeded]; decide,by rw [configured]; rfl⟩]
  refine ⟨?_,?_,?_,?_⟩
  · intro n call info answered partners shown
    unfold registryPartners at shown
    split at shown
    · rename_i chain
      refine ⟨Option.some.inj shown,?_⟩
      rcases PartnerRun.answer_source configured answered with read | seeded
      · exact read
      · cases chain.symm.trans seeded
    · cases shown
  · intro n call info answered hidden
    apply refused
    unfold registryPartners at hidden
    split at hidden
    · cases hidden
    · rename_i other
      cases source : info.source with
      | chain => exact absurd source other
      | fallback => rfl
  · intro m n time now ordered begun begun'
    exact PartnerRun.reads_apart ordered begun begun'
  · intro n call info pubkey answered old
    rcases PartnerRun.answer_source configured answered with read | seeded
    · obtain ⟨date,read,recent⟩ := read
      unfold mayAttest
      split
      · rfl
      · by_contra listed
        exact old info date read (by simpa using listed) recent
    · exact refused seeded pubkey

-- A partner is read from the chain at 0, and the RPC fails ever after: its wallet may attest until 899, and no longer at 910.
namespace Outage

theorem key_length (fill : Byte) : (List.replicate 32 fill).length = 32 := List.length_replicate

def key (fill : Byte) : Bytes32 := ⟨List.replicate 32 fill,key_length fill⟩
def partner : Pubkey := Settings.sample.keyOf (key 3)

def data : List Byte := accountDisc .registry ++ (key 2).val ++ [0,0,0,0] ++ [1,0,0,0] ++ (key 3).val ++ [0,0,0,0] ++ [255]

def time (n : ℕ) : ℚ := if n < 3 then 0 else if n < 7 then 899 else 910

def run : PartnerRun where
  found := .empty
  actions := fun
    | 0 | 3 | 7 => .ask (some partner)
    | 1 | 4 | 8 => .enter 0
    | 2 => .finish (some (some data))
    | 5 | 9 => .finish none
    | _ => .fallBack 0
  clock n := ⟨time n,0⟩
  forward n := by
    refine ⟨?_,le_refl _⟩
    unfold time
    split_ifs <;> first | omega | norm_num

end Outage

theorem outage_bounded : PartnersBounded Settings.sample Outage.run (.foreign 1) ∧
    [2,6,10].map (fun n => (Outage.run.answered Settings.sample n).map fun answer => mayAttest Settings.sample answer.2 Outage.partner) =
      [some true,some true,some false] :=
  ⟨partners_bounded Settings.sample Outage.run (.foreign 1) rfl,by decide +kernel⟩

end FlaconVault.Verifier
