import FlaconVault.Lib.Runs
import FlaconVault.Verifier.ChipTaps
import FlaconVault.Verifier.Scans
namespace FlaconVault.Verifier
open Blocks Guards PyText

-- The development simulator: virtual tags that mint taps.
structure SimTagRow where
  uid : Uid
  key : Block
  counter : ℕ
  alive : Bool
  createdAt : Int
  serial : Option String
  lastUrl : Option String
  deriving DecidableEq

abbrev SimTags := Table SimTagRow.uid

-- The row that POST /api/dev/tap logs for a dead tag is no tap of a chip and is left out.
structure DevDatabase where
  db : Database
  simTags : SimTags

def upsertSimTag (tags : SimTags) (uid : Uid) (key : Block) (counter : ℕ) (alive : Bool) (createdAt : Int) (serial : Option String) :
    SimTags :=
  match tags.insert ⟨uid,key,counter,alive,createdAt,serial,none⟩ with
  | some grown => grown
  | none => tags.update (·.uid = uid) (fun old => {old with serial := serial <|> old.serial
                                                            key := key}) (fun _ => rfl)

def updateSimTag (tags : SimTags) (uid : Uid) (change : SimTagRow → SimTagRow) (keeps : ∀ row, (change row).uid = row.uid) : SimTags :=
  tags.update (·.uid = uid) change keeps

inductive DevError where
  | http (error : HttpError)
  | badUid (error : TagParamError)
  deriving DecidableEq

structure TagBody where
  uid : Option String
  serial : Option String
  kind : Fin 3

structure MintedTap where
  uid : Uid
  ctr : ℕ
  ctrHex : String
  cmac : List Byte
  url : String
  deriving DecidableEq

inductive DevAnswer where
  | refused (error : DevError)
  | tag (tag : Option SimTagRow) (row : Option SealRow)
  | silent (uid : Uid) (tapId : ℕ) (url : String)
  | minted (tap : MintedTap)
  | other

-- A virtual tag of the demo seed.
structure SeedTag where
  uid : Uid
  counter : ℕ
  alive : Bool
  serial : Option String

-- The deployment of a simulator, with what its seed file says of virtual tags.
structure Simulator where
  settings : Settings
  chips : Primitives
  config : SdmConfig
  verifierHost : String
  webUrl : String
  seedTags : List SeedTag
  seedCreatedAt : Int

namespace Simulator
variable (sim : Simulator)

def deployed : Settings := sim.settings.withChips sim.chips sim.config

def tagUrl (host : String) (uid : Uid) (ctr : ℕ) (cmac : List Byte) : String :=
  String.ofList (host.toList.reverse.dropWhile (· == '/')).reverse ++ "/t?uid=" ++ urlText uid.1 ++ "&ctr=" ++ String.ofList (ctrHex ctr) ++
    "&cmac=" ++ urlText cmac

def requestedUid (body : TagBody) (random : Uid) : Except DevError Uid :=
  match body.uid.filter (· ≠ "") with
  | none => .ok random
  | some text => (parseUid text.toList).mapError .badUid

def notFound (detail : String) : DevError := .http ⟨404,detail⟩

-- A failure that is no answer of the route: its transaction is rolled back.
def failed {ε α : Type} (outcome : Except ε α) : Except DevError α := outcome.mapError fun _ => .http internalError

def attachSeal (db : Database) (body : TagBody) (uid : Uid) (ts : Int) : Except DevError Database :=
  match body.serial.filter (· ≠ "") with
  | none => .ok db
  | some serial => failed (db.upsertSeal (sim.settings.uidHash uid) uid serial body.kind.val ts)

-- `random` is the UID that is made up where the request names none.
def createTag (dev : DevDatabase) (body : TagBody) (random : Uid) (ts : Int) : Except DevError (DevDatabase × DevAnswer) := do
  let uid ← requestedUid body random
  let key ← failed (keyForUid sim.chips sim.config uid.1)
  require (∀ serial ∈ body.serial.filter (· ≠ ""), (dev.db.getPassport serial).isSome) (notFound "passport not found")
  require (¬((dev.db.getSealByUid uid).isSome ∧ (dev.simTags.get uid).isNone)) (.http ⟨409,"uid belongs to a registered seal"⟩)
  let simTags := upsertSimTag dev.simTags uid key 0 true ts body.serial
  let db ← sim.attachSeal dev.db body uid ts
  return (⟨db,simTags⟩,.tag (simTags.get uid) (db.getSealByUid uid))

-- The tag that a request's text names, in either case of its letters.
def tagOf (dev : DevDatabase) (uid : Option Uid) : Except DevError SimTagRow :=
  orRefuse (uid.bind dev.simTags.get) (notFound "virtual tag not found")

def mint (tag : SimTagRow) : Except DevError MintedTap := do
  let ctr := tag.counter+1
  -- `to_bytes` has three bytes for the counter
  require (ctr < 2^24) (DevError.http internalError)
  let cmac := sdmCmac sim.chips tag.uid.1 ctr tag.key
  return ⟨tag.uid,ctr,String.ofList (ctrHex ctr),cmac,tagUrl sim.verifierHost tag.uid ctr cmac⟩

def tap (dev : DevDatabase) (uid : Option Uid) (tapId : ℕ) : Except DevError (DevDatabase × DevAnswer) := do
  let tag ← tagOf dev uid
  if tag.alive then
    let minted ← sim.mint tag
    let simTags := updateSimTag dev.simTags tag.uid (fun row => {row with counter := minted.ctr
                                                                          lastUrl := some minted.url}) (fun _ => rfl)
    return ({dev with simTags := simTags},.minted minted)
  else
    let url := sim.webUrl ++ "/t?tap=" ++ toString tapId
    let simTags := updateSimTag dev.simTags tag.uid (fun row => {row with lastUrl := some url}) (fun _ => rfl)
    return ({dev with simTags := simTags},.silent tag.uid tapId url)

-- POST /api/dev/kill and /api/dev/revive.
def setAlive (dev : DevDatabase) (uid : Option Uid) (alive : Bool) : Except DevError (DevDatabase × DevAnswer) := do
  let tag ← tagOf dev uid
  let simTags := updateSimTag dev.simTags tag.uid (fun row => {row with alive := alive}) (fun _ => rfl)
  return ({dev with simTags := simTags},.tag (simTags.get tag.uid) (dev.db.getSealByUid tag.uid))

def kill (dev : DevDatabase) (uid : Option Uid) : Except DevError (DevDatabase × DevAnswer) := setAlive dev uid false
def revive (dev : DevDatabase) (uid : Option Uid) : Except DevError (DevDatabase × DevAnswer) := setAlive dev uid true

def seedTag (tags : SimTags) (tag : SeedTag) : Except DevError SimTags := do
  let key ← failed (keyForUid sim.chips sim.config tag.uid.1)
  return updateSimTag (upsertSimTag tags tag.uid key tag.counter tag.alive sim.seedCreatedAt tag.serial) tag.uid
    (fun row => {row with counter := tag.counter
                          alive := tag.alive}) (fun _ => rfl)

-- The virtual tags that `run_seed` puts in, only with the simulator on. A failure leaves the table as it was, or wiped.
def runSeed (tags : SimTags) (wipe simulatorOn : Bool) : SimTags :=
  let start := if wipe then Table.empty else tags
  match (if simulatorOn then sim.seedTags else []).foldlM sim.seedTag start with
  | .ok seeded => seeded
  | .error _ => start

-- The reconcile job keeps a virtual tag ahead of the counter it takes over from chain.
def keepAhead (tags : SimTags) (uid : Uid) (counter : ℕ) : SimTags :=
  updateSimTag tags uid (fun row => {row with counter := max row.counter counter}) (fun _ => rfl)

-- POST /api/admin/purge-seed.
def purgeSeed (tags : SimTags) (simulatorOn : Bool) : SimTags :=
  tags.delete fun row => !simulatorOn || sim.seedTags.any (·.uid = row.uid)

-- One step: a request of the simulator, or what the rest of the server does, with any change of its own tables. `run_seed` is
-- called by POST /api/dev/reset and the command line, which wipe first, and by the start of a server without passports.
inductive Action where
  | createTag (body : TagBody) (random : Uid) (ts : Int)
  | tap (uid : Option Uid) (tapId : ℕ)
  | kill (uid : Option Uid)
  | revive (uid : Option Uid)
  | reconcile (uid : Uid) (counter : ℕ) (later : Database)
  | purgeSeed (simulatorOn : Bool) (later : Database)
  | runSeed (wipe simulatorOn : Bool) (later : Database)
  | verifier (later : Database)

-- What takes tags away or puts them in afresh, and what pushes the counter of one.
def Action.Reseeds : Action → Prop
  | .purgeSeed _ _ | .runSeed _ _ _ => True
  | _ => False

def Action.Raises (uid : Uid) : Action → Prop
  | .reconcile raised _ _ => raised = uid
  | _ => False

def answered (dev : DevDatabase) (outcome : Except DevError (DevDatabase × DevAnswer)) : DevDatabase × DevAnswer :=
  match outcome with
  | .ok result => result
  | .error error => (dev,.refused error)

def step (dev : DevDatabase) : Action → DevDatabase × DevAnswer
  | .createTag body random ts => answered dev (sim.createTag dev body random ts)
  | .tap uid tapId => answered dev (sim.tap dev uid tapId)
  | .kill uid => answered dev (kill dev uid)
  | .revive uid => answered dev (revive dev uid)
  | .reconcile uid counter later => (⟨later,keepAhead dev.simTags uid counter⟩,.other)
  | .purgeSeed simulatorOn later => (⟨later,sim.purgeSeed dev.simTags simulatorOn⟩,.other)
  | .runSeed wipe simulatorOn later => (⟨later,sim.runSeed dev.simTags wipe simulatorOn⟩,.other)
  | .verifier later => ({dev with db := later},.other)

-- A run begins without virtual tags, on any tables of the rest of the server.
structure Run where
  db : Database
  actions : ℕ → Action

namespace Run
variable {sim} (run : Run)

variable (sim) in
def dev (n : ℕ) : DevDatabase := Runs.reached (fun action dev => (sim.step dev action).1) ⟨run.db,.empty⟩ run.actions n

variable (sim) in
def answer (n : ℕ) : DevAnswer := (sim.step (run.dev sim n) (run.actions n)).2

variable (sim) in
def minted (n : ℕ) : Option MintedTap :=
  match run.answer sim n with
  | .minted tap => some tap
  | _ => none

variable (sim) in
-- How many taps of a tag were minted before step `n`.
def count (uid : Uid) : ℕ → ℕ
  | 0 => 0
  | n+1 => count uid n + if (run.minted sim n).any (·.uid = uid) then 1 else 0

end Run

-- What a step can do to the virtual tag of one UID, with the tap that it told.
inductive Touches (dev : DevDatabase) (uid : Uid) (action : Action) (later : DevDatabase) : Option MintedTap → Prop
  | kept (told : Option MintedTap) (elsewhere : ∀ tap ∈ told, tap.uid ≠ uid)
      (known : ∀ tag' ∈ later.simTags.get uid, ∃ tag ∈ dev.simTags.get uid, tag'.counter = tag.counter ∧
        (tag'.key = tag.key ∨ keyForUid sim.chips sim.config uid.1 = .ok tag'.key))
      (absent : later.simTags.get uid = none → dev.simTags.get uid = none) : Touches dev uid action later told
  | created (tag : SimTagRow) (absent : dev.simTags.get uid = none) (there : later.simTags.get uid = some tag) (fresh : tag.counter = 0)
      (keyed : keyForUid sim.chips sim.config uid.1 = .ok tag.key) (free : dev.db.getSealByUid uid = none) :
      Touches dev uid action later none
  | minted (tag tag' : SimTagRow) (tap : MintedTap) (there : dev.simTags.get uid = some tag) (told : sim.mint tag = .ok tap)
      (later_tag : later.simTags.get uid = some tag') (counted : tag'.counter = tap.ctr) (key : tag'.key = tag.key) :
      Touches dev uid action later (some tap)
  | raised (tag tag' : SimTagRow) (raises : action.Raises uid) (there : dev.simTags.get uid = some tag)
      (later_tag : later.simTags.get uid = some tag') (higher : tag.counter ≤ tag'.counter) (key : tag'.key = tag.key) :
      Touches dev uid action later none
  | seeded (entry : SeedTag) (tag : SimTagRow) (reseeds : action.Reseeds) (listed : entry ∈ sim.seedTags) (named : entry.uid = uid)
      (there : later.simTags.get uid = some tag) (counted : tag.counter = entry.counter)
      (keyed : keyForUid sim.chips sim.config uid.1 = .ok tag.key) : Touches dev uid action later none
  | removed (reseeds : action.Reseeds) (gone : later.simTags.get uid = none) : Touches dev uid action later none

def told : DevAnswer → Option MintedTap
  | .minted tap => some tap
  | _ => none

section Steps
variable {sim} {dev : DevDatabase} {uid : Uid} {action : Action}

theorem Touches.same (db : Database) : sim.Touches dev uid action ⟨db,dev.simTags⟩ none :=
  .kept none (fun _ inside => (by cases inside)) (fun tag there => ⟨tag,there,rfl,.inl rfl⟩) id

theorem get_updateSimTag {tags : SimTags} {wanted : Uid} {change : SimTagRow → SimTagRow} {keeps : ∀ row, (change row).uid = row.uid} :
    (updateSimTag tags uid change keeps).get wanted = (tags.get wanted).map fun row => if row.uid = uid then change row else row := by
  unfold updateSimTag
  rw [Table.get_update]
  simp only [decide_eq_true_eq]

section Updated
variable {tags : SimTags} {wanted : Uid} {change : SimTagRow → SimTagRow} (keeps : ∀ row, (change row).uid = row.uid)

theorem updated_some {tag : SimTagRow} (there : (updateSimTag tags uid change keeps).get wanted = some tag) :
    ∃ row, tags.get wanted = some row ∧ (if row.uid = uid then change row else row) = tag := by
  rw [get_updateSimTag] at there
  exact Option.map_eq_some_iff.mp there

theorem updated_none (absent : (updateSimTag tags uid change keeps).get wanted = none) : tags.get wanted = none := by
  rw [get_updateSimTag] at absent
  exact Option.map_eq_none_iff.mp absent

end Updated

-- An update that leaves key and counter alone.
theorem Touches.of_update {tag : Uid} {change : SimTagRow → SimTagRow} {keeps : ∀ row, (change row).uid = row.uid}
    (key : ∀ row, (change row).key = row.key) (counter : ∀ row, (change row).counter = row.counter) :
    sim.Touches dev uid action {dev with simTags := updateSimTag dev.simTags tag change keeps} none := by
  refine .kept none (fun _ inside => (by cases inside)) ?_ fun absent => updated_none keeps absent
  intro tag' there
  obtain ⟨row,found,same⟩ := updated_some keeps there
  refine ⟨row,found,?_,.inl ?_⟩
  · rw [← same]
    split
    · exact counter row
    · rfl
  · rw [← same]
    split
    · exact key row
    · rfl

theorem tagOf_ok {wanted : Option Uid} {tag : SimTagRow} (found : tagOf dev wanted = .ok tag) :
    wanted = some tag.uid ∧ dev.simTags.get tag.uid = some tag := by
  have found := orRefuse_ok.mp found
  obtain ⟨key,asked,there⟩ := Option.bind_eq_some_iff.mp found
  have named := (Table.get_some.mp there).2
  exact ⟨by rw [asked,named],by rw [named]; exact there⟩

theorem mint_ok {tag : SimTagRow} {tap : MintedTap} : sim.mint tag = .ok tap ↔ tag.counter+1 < 2^24 ∧
    tap = ⟨tag.uid,tag.counter+1,String.ofList (ctrHex (tag.counter+1)),sdmCmac sim.chips tag.uid.1 (tag.counter+1) tag.key,
      tagUrl sim.verifierHost tag.uid (tag.counter+1) (sdmCmac sim.chips tag.uid.1 (tag.counter+1) tag.key)⟩ := by
  unfold mint
  simp only [bind_ok,require_ok,exists_const,pure_ok]
  exact and_congr_right fun _ => eq_comm

theorem tap_touches {wanted : Option Uid} {tapId : ℕ} {later : DevDatabase} {answer : DevAnswer}
    (accepted : sim.tap dev wanted tapId = .ok (later,answer)) : sim.Touches dev uid action later (told answer) := by
  obtain ⟨tag,found,accepted⟩ := bind_ok.mp accepted
  have there := (tagOf_ok found).2
  rcases branch accepted with ⟨-,accepted⟩ | ⟨-,accepted⟩
  · obtain ⟨tap,minted,same⟩ := bind_ok.mp accepted
    cases same
    by_cases here : tag.uid = uid
    · subst here
      refine .minted tag {tag with counter := tap.ctr
                                   lastUrl := some tap.url} tap there minted ?_ rfl rfl
      rw [get_updateSimTag,there,Option.map_some,if_pos rfl]
    · have keeps : ∀ row : SimTagRow, ({row with counter := tap.ctr
                                                 lastUrl := some tap.url} : SimTagRow).uid = row.uid := fun _ => rfl
      refine .kept (some tap) ?_ ?_ fun absent => updated_none keeps absent
      · intro tap' same
        cases same
        rw [(mint_ok.mp minted).2]
        exact here
      · intro tag' there'
        obtain ⟨row,found',same⟩ := updated_some keeps there'
        have other : ¬row.uid = tag.uid := fun same => here (same.symm.trans (Table.get_some.mp found').2)
        rw [if_neg other] at same
        exact ⟨row,found',by rw [same],.inl (by rw [same])⟩
  · cases accepted
    exact .of_update (fun _ => rfl) (fun _ => rfl)

theorem setAlive_touches {wanted : Option Uid} {alive : Bool} {later : DevDatabase} {answer : DevAnswer}
    (accepted : setAlive dev wanted alive = .ok (later,answer)) : sim.Touches dev uid action later (told answer) := by
  obtain ⟨tag,-,accepted⟩ := bind_ok.mp accepted
  cases accepted
  exact .of_update (fun _ => rfl) (fun _ => rfl)

theorem failed_ok {ε α : Type} {outcome : Except ε α} {value : α} : failed outcome = .ok value ↔ outcome = .ok value := by
  cases outcome <;> simp [failed,Except.mapError]

theorem createTag_touches {body : TagBody} {random : Uid} {ts : Int} {later : DevDatabase} {answer : DevAnswer}
    (accepted : sim.createTag dev body random ts = .ok (later,answer)) : sim.Touches dev uid action later (told answer) := by
  obtain ⟨wanted,-,accepted⟩ := bind_ok.mp accepted
  obtain ⟨key,keyed,accepted⟩ := bind_ok.mp accepted
  obtain ⟨_,-,accepted⟩ := bind_ok.mp accepted
  obtain ⟨_,guard,accepted⟩ := bind_ok.mp accepted
  obtain ⟨db,-,accepted⟩ := bind_ok.mp accepted
  cases accepted
  have keyed := failed_ok.mp keyed
  have guard := require_ok.mp guard
  unfold told upsertSimTag
  dsimp only
  cases inserted : dev.simTags.insert ⟨wanted,key,0,true,ts,body.serial,none⟩ with
  | some grown =>
    have absent := (Table.insert_some.mp inserted).1
    by_cases here : uid = wanted
    · subst here
      refine .created ⟨uid,key,0,true,ts,body.serial,none⟩ absent ?_ rfl keyed ?_
      · dsimp only
        rw [Table.get_insert inserted,if_pos rfl]
      · by_contra registered
        refine guard ⟨Option.ne_none_iff_isSome.mp registered,?_⟩
        rw [absent]
        rfl
    · have other : grown.get uid = dev.simTags.get uid := by rw [Table.get_insert inserted,if_neg here]
      refine .kept none (fun _ inside => (by cases inside)) (fun tag there => ⟨tag,?_,rfl,.inl rfl⟩) ?_
      · exact other ▸ there
      · exact fun none => other ▸ none
  | none =>
    refine .kept none (fun _ inside => (by cases inside)) ?_ ?_
    · intro tag' there
      rw [Option.mem_def] at there
      dsimp only at there
      rw [Table.get_update] at there
      obtain ⟨row,found,same⟩ := Option.map_eq_some_iff.mp there
      refine ⟨row,found,?_,?_⟩
      · rw [← same]
        split <;> rfl
      · rw [← same]
        split
        · rename_i named
          have uid_is : uid = wanted := (Table.get_some.mp found).2.symm.trans (decide_eq_true_eq.mp named)
          exact .inr (uid_is ▸ keyed)
        · exact .inl rfl
    · intro absent
      dsimp only at absent
      rw [Table.get_update] at absent
      exact Option.map_eq_none_iff.mp absent

theorem answered_touches {outcome : Except DevError (DevDatabase × DevAnswer)}
    (accepted : ∀ later answer, outcome = .ok (later,answer) → sim.Touches dev uid action later (told answer)) :
    sim.Touches dev uid action (answered dev outcome).1 (told (answered dev outcome).2) := by
  cases outcome with
  | error error => exact .same dev.db
  | ok result => exact accepted result.1 result.2 rfl

-- One tag of the seed: its row is put in or made new, and every other row stays.
theorem seedTag_get (uid : Uid) {tags later : SimTags} {tag : SeedTag} (seeded : sim.seedTag tags tag = .ok later) :
    (tag.uid = uid → ∃ row, later.get uid = some row ∧ row.counter = tag.counter ∧
      keyForUid sim.chips sim.config uid.1 = .ok row.key) ∧ (tag.uid ≠ uid → later.get uid = tags.get uid) := by
  obtain ⟨key,keyed,seeded⟩ := bind_ok.mp seeded
  have keyed := failed_ok.mp keyed
  cases seeded
  unfold upsertSimTag
  cases inserted : tags.insert ⟨tag.uid,key,tag.counter,tag.alive,sim.seedCreatedAt,tag.serial,none⟩ with
  | some grown =>
    refine ⟨?_,?_⟩
    · rintro rfl
      refine ⟨⟨tag.uid,key,tag.counter,tag.alive,sim.seedCreatedAt,tag.serial,none⟩,?_,rfl,keyed⟩
      rw [get_updateSimTag,Table.get_insert inserted,if_pos rfl,Option.map_some,if_pos rfl]
    · intro other
      rw [get_updateSimTag,Table.get_insert inserted,if_neg (Ne.symm other)]
      refine (Option.map_congr ?_).trans Option.map_id'
      intro row found
      exact if_neg fun same => other (same.symm.trans (Table.get_some.mp found).2)
  | none =>
    refine ⟨?_,?_⟩
    · rintro rfl
      obtain ⟨old,found⟩ := Option.ne_none_iff_exists'.mp fun absent : tags.get tag.uid = none => by
        unfold Table.insert at inserted
        rw [dif_pos absent] at inserted
        cases inserted
      have named := (Table.get_some.mp found).2
      dsimp only
      rw [get_updateSimTag,Table.get_update,found]
      simp only [Option.map_some,named,decide_true,if_true]
      exact ⟨_,rfl,rfl,keyed⟩
    · intro other
      dsimp only
      rw [get_updateSimTag,Table.get_update,Option.map_map]
      refine (Option.map_congr ?_).trans Option.map_id'
      intro row found
      have apart : row.uid ≠ tag.uid := fun same => other (same.symm.trans (Table.get_some.mp found).2)
      simp [apart]

theorem seedTags_get (uid : Uid) {entries : List SeedTag} {tags later : SimTags} (seeded : entries.foldlM sim.seedTag tags = .ok later) :
    (∃ entry ∈ entries, entry.uid = uid ∧ ∃ row, later.get uid = some row ∧ row.counter = entry.counter ∧
      keyForUid sim.chips sim.config uid.1 = .ok row.key) ∨ later.get uid = tags.get uid := by
  induction entries generalizing tags with
  | nil =>
    cases seeded
    exact .inr rfl
  | cons first rest ih =>
    rw [List.foldlM_cons] at seeded
    obtain ⟨middle,put,seeded⟩ := bind_ok.mp seeded
    obtain ⟨own,other⟩ := seedTag_get uid put
    rcases ih seeded with ⟨entry,inside,entered⟩ | same
    · exact .inl ⟨entry,List.mem_cons_of_mem _ inside,entered⟩
    · by_cases named : first.uid = uid
      · obtain ⟨row,found,made⟩ := own named
        exact .inl ⟨first,List.mem_cons_self,named,row,same.trans found,made⟩
      · exact .inr (same.trans (other named))

theorem runSeed_touches (wipe simulatorOn : Bool) (later : Database) :
    sim.Touches dev uid (.runSeed wipe simulatorOn later) ⟨later,sim.runSeed dev.simTags wipe simulatorOn⟩ none := by
  have start : sim.Touches dev uid (.runSeed wipe simulatorOn later) ⟨later,if wipe then Table.empty else dev.simTags⟩ none := by
    cases wipe with
    | true => exact .removed trivial rfl
    | false => exact .same later
  unfold runSeed
  dsimp only
  cases seeded : (if simulatorOn then sim.seedTags else []).foldlM sim.seedTag (if wipe then Table.empty else dev.simTags) with
  | error error => exact start
  | ok tags =>
    rcases seedTags_get uid seeded with ⟨entry,inside,named,row,found,counted,keyed⟩ | same
    · have listed : entry ∈ sim.seedTags := by
        cases simulatorOn with
        | true => exact inside
        | false => cases inside
      exact .seeded entry row trivial listed named found counted keyed
    · have moved : (⟨later,tags⟩ : DevDatabase).simTags.get uid = (if wipe then Table.empty else dev.simTags).get uid := same
      cases wipe with
      | true => exact .removed trivial moved
      | false =>
        refine .kept none (fun _ inside => (by cases inside)) (fun tag there => ⟨tag,?_,rfl,.inl rfl⟩) ?_
        · exact moved ▸ there
        · intro absent
          exact moved.symm.trans absent

theorem purgeSeed_touches (simulatorOn : Bool) (later : Database) :
    sim.Touches dev uid (.purgeSeed simulatorOn later) ⟨later,sim.purgeSeed dev.simTags simulatorOn⟩ none := by
  cases found : (sim.purgeSeed dev.simTags simulatorOn).get uid with
  | none => exact .removed trivial found
  | some tag =>
    refine .kept none (fun _ inside => (by cases inside)) ?_ ?_
    · intro tag' there
      refine ⟨tag',?_,rfl,.inl rfl⟩
      have there : (sim.purgeSeed dev.simTags simulatorOn).get uid = some tag' := there
      rw [purgeSeed,Table.get_delete] at there
      exact (Option.filter_eq_some_iff.mp there).1
    · intro absent
      cases found.symm.trans absent

theorem keepAhead_get {tags : SimTags} {tag : SimTagRow} (there : tags.get uid = some tag) (counter : ℕ) :
    (keepAhead tags uid counter).get uid = some {tag with counter := max tag.counter counter} := by
  rw [keepAhead,get_updateSimTag,there,Option.map_some,if_pos (Table.get_some.mp there).2]

theorem reconcile_touches (raised : Uid) (counter : ℕ) (later : Database) :
    sim.Touches dev uid (.reconcile raised counter later) ⟨later,keepAhead dev.simTags raised counter⟩ none := by
  by_cases here : raised = uid
  · subst here
    cases there : dev.simTags.get raised with
    | some tag => exact .raised tag _ rfl there (keepAhead_get there counter) (Nat.le_max_left _ _) rfl
    | none =>
      have absent : (keepAhead dev.simTags raised counter).get raised = none := by
        rw [keepAhead,get_updateSimTag,there]
        rfl
      refine .kept none (fun _ inside => (by cases inside)) ?_ fun _ => there
      intro tag found
      cases absent.symm.trans found
  · have same : (keepAhead dev.simTags raised counter).get uid = dev.simTags.get uid := by
      rw [keepAhead,get_updateSimTag]
      refine (Option.map_congr ?_).trans Option.map_id'
      intro row found
      exact if_neg fun named => here (named.symm.trans (Table.get_some.mp found).2)
    refine .kept none (fun _ inside => (by cases inside)) (fun tag there => ⟨tag,?_,rfl,.inl rfl⟩) ?_
    · exact same ▸ there
    · intro absent
      exact same.symm.trans absent

theorem step_touches (action : Action) : sim.Touches dev uid action (sim.step dev action).1 (told (sim.step dev action).2) := by
  cases action with
  | createTag body random ts => exact answered_touches fun _ _ => createTag_touches
  | tap wanted tapId => exact answered_touches fun _ _ => tap_touches
  | kill wanted => exact answered_touches fun _ _ => setAlive_touches
  | revive wanted => exact answered_touches fun _ _ => setAlive_touches
  | reconcile raised counter later => exact reconcile_touches raised counter later
  | purgeSeed simulatorOn later => exact purgeSeed_touches simulatorOn later
  | runSeed wipe simulatorOn later => exact runSeed_touches wipe simulatorOn later
  | verifier later => exact .same later

section Touched
variable {later : DevDatabase} {told : Option MintedTap} (touches : sim.Touches dev uid action later told)
include touches

-- Every tag has the key of its UID.
theorem Touches.keyed (keyed : ∀ tag, dev.simTags.get uid = some tag → keyForUid sim.chips sim.config uid.1 = .ok tag.key) :
    ∀ tag, later.simTags.get uid = some tag → keyForUid sim.chips sim.config uid.1 = .ok tag.key := by
  intro tag' there'
  cases touches with
  | kept _ elsewhere known absent =>
    obtain ⟨tag,found,-,key⟩ := known tag' there'
    rcases key with same | derived
    · exact same ▸ keyed tag found
    · exact derived
  | created tag absent there fresh derived free =>
    cases there.symm.trans there'
    exact derived
  | minted tag _ tap there told later_tag counted key =>
    cases later_tag.symm.trans there'
    exact key ▸ keyed tag there
  | raised tag _ raises there later_tag higher key =>
    cases later_tag.symm.trans there'
    exact key ▸ keyed tag there
  | seeded entry tag reseeds listed named there counted derived =>
    cases there.symm.trans there'
    exact derived
  | removed reseeds gone => cases gone.symm.trans there'

-- As long as no tags are taken away or put in afresh, a tag stays and counts its taps; its counter moves more only where the
-- reconcile job raises it.
theorem Touches.counts {tag : SimTagRow} (there : dev.simTags.get uid = some tag) (steady : ¬action.Reseeds) :
    ∃ tag', later.simTags.get uid = some tag' ∧
      tag.counter + (if told.any (·.uid = uid) then 1 else 0) ≤ tag'.counter ∧
      (¬action.Raises uid → tag'.counter = tag.counter + if told.any (·.uid = uid) then 1 else 0) := by
  cases touches with
  | kept _ elsewhere known absent =>
    obtain ⟨tag',found⟩ := Option.ne_none_iff_exists'.mp fun gone => by cases there.symm.trans (absent gone)
    obtain ⟨old,here,counter,-⟩ := known tag' found
    cases Option.some.inj (there.symm.trans here)
    have quiet : told.any (·.uid = uid) = false := by
      cases told with
      | none => rfl
      | some tap =>
        have other := elsewhere tap rfl
        simp [other]
    rw [quiet]
    exact ⟨tag',found,counter.ge,fun _ => counter⟩
  | created _ absent => cases there.symm.trans absent
  | minted old tag' tap here made later_tag counted key =>
    cases Option.some.inj (there.symm.trans here)
    have next : tap.ctr = tag.counter+1 := by rw [(mint_ok.mp made).2]
    have named : tap.uid = uid := by
      rw [(mint_ok.mp made).2]
      exact (Table.get_some.mp there).2
    have mine : (some tap).any (·.uid = uid) = true := by simp [named]
    rw [mine]
    exact ⟨tag',later_tag,(counted.trans next).ge,fun _ => counted.trans next⟩
  | raised old tag' raises here later_tag higher key =>
    cases Option.some.inj (there.symm.trans here)
    exact ⟨tag',later_tag,higher,fun still => absurd raises still⟩
  | seeded entry _ reseeds => exact absurd reseeds steady
  | removed reseeds => exact absurd reseeds steady

-- Where a tag is from: it was there, or it is one of the seed, or it was made for a UID that was no seal.
theorem Touches.origin {tag : SimTagRow} (there : later.simTags.get uid = some tag) : (dev.simTags.get uid).isSome ∨
    (∃ entry ∈ sim.seedTags, entry.uid = uid) ∨ dev.db.getSealByUid uid = none ∧ dev.simTags.get uid = none := by
  cases touches with
  | kept _ elsewhere known absent =>
    obtain ⟨old,found,-⟩ := known tag there
    exact .inl (Option.isSome_iff_exists.mpr ⟨old,found⟩)
  | created _ absent found fresh keyed free => exact .inr (.inr ⟨free,absent⟩)
  | minted old _ tap found => exact .inl (Option.isSome_iff_exists.mpr ⟨old,found⟩)
  | raised old _ raises found => exact .inl (Option.isSome_iff_exists.mpr ⟨old,found⟩)
  | seeded entry _ reseeds listed named => exact .inr (.inl ⟨entry,listed,named⟩)
  | removed reseeds gone => cases gone.symm.trans there

end Touched

end Steps

namespace Run
variable {sim} (run : Run)

theorem touches (n : ℕ) (uid : Uid) :
    sim.Touches (run.dev sim n) uid (run.actions n) (run.dev sim (n+1)) (run.minted sim n) := step_touches (run.actions n)

theorem keyed (uid : Uid) (n : ℕ) :
    ∀ tag, (run.dev sim n).simTags.get uid = some tag → keyForUid sim.chips sim.config uid.1 = .ok tag.key := by
  induction n with
  | zero =>
    intro tag there
    cases there
  | succ n ih => exact (run.touches n uid).keyed ih

variable (sim) in
-- A tag is one of the seed, or was made by a request for a UID that was no registered seal then and had no tag.
def Own (uid : Uid) (n : ℕ) : Prop :=
  (∃ entry ∈ sim.seedTags, entry.uid = uid) ∨ ∃ k < n, (run.dev sim k).db.getSealByUid uid = none ∧
    (run.dev sim k).simTags.get uid = none ∧ ((run.dev sim (k+1)).simTags.get uid).isSome

theorem own (uid : Uid) (n : ℕ) : ∀ tag, (run.dev sim n).simTags.get uid = some tag → run.Own sim uid n := by
  induction n with
  | zero =>
    intro tag there
    cases there
  | succ n ih =>
    intro tag there
    rcases (run.touches n uid).origin there with before | listed | fresh
    · obtain ⟨old,found⟩ := Option.isSome_iff_exists.mp before
      rcases ih old found with listed | ⟨k,earlier,made⟩
      · exact .inl listed
      · exact .inr ⟨k,by omega,made⟩
    · exact .inl listed
    · exact .inr ⟨n,Nat.lt_succ_self n,fresh.1,fresh.2,Option.isSome_iff_exists.mpr ⟨tag,there⟩⟩

-- A tag from one point of a run to a later one.
theorem counts {uid : Uid} {k n : ℕ} (ordered : k ≤ n) {tag : SimTagRow} (there : (run.dev sim k).simTags.get uid = some tag)
    (steady : ∀ m, k ≤ m → m < n → ¬(run.actions m).Reseeds) :
    ∃ tag', (run.dev sim n).simTags.get uid = some tag' ∧
      tag.counter + run.count sim uid n ≤ tag'.counter + run.count sim uid k ∧
      ((∀ m, k ≤ m → m < n → ¬(run.actions m).Raises uid) →
        tag'.counter + run.count sim uid k = tag.counter + run.count sim uid n) := by
  induction n, ordered using Nat.le_induction with
  | base => exact ⟨tag,there,le_rfl,fun _ => rfl⟩
  | succ n ordered ih =>
    obtain ⟨middle,found,below,exactly⟩ := ih fun m after before => steady m after (by omega)
    obtain ⟨tag',present,more,counted⟩ := (run.touches n uid).counts found (steady n ordered (Nat.lt_succ_self n))
    refine ⟨tag',present,?_,?_⟩
    · rw [count]
      omega
    · intro still
      have exactly := exactly fun m after before => still m after (by omega)
      have counted := counted (still n ordered (Nat.lt_succ_self n))
      rw [count]
      omega

theorem count_grows (uid : Uid) {m n : ℕ} (ordered : m ≤ n) : run.count sim uid m ≤ run.count sim uid n := by
  induction n, ordered using Nat.le_induction with
  | base => exact le_rfl
  | succ n _ ih => exact ih.trans (Nat.le_add_right _ _)

-- What a minted tap is: a tap of a tag in the table, with the next counter, under the key of its UID.
theorem minted_from {n : ℕ} {tap : MintedTap} (minted : run.minted sim n = some tap) :
    ∃ tag tag', (run.dev sim n).simTags.get tap.uid = some tag ∧ sim.mint tag = .ok tap ∧
      (run.dev sim (n+1)).simTags.get tap.uid = some tag' ∧ tag'.counter = tap.ctr := by
  have touches : sim.Touches _ tap.uid _ _ _ := run.touches n tap.uid
  generalize told : run.minted sim n = told' at touches
  cases touches with
  | kept _ elsewhere => exact absurd rfl (elsewhere tap (told ▸ minted))
  | created => cases told.symm.trans minted
  | raised => cases told.symm.trans minted
  | seeded => cases told.symm.trans minted
  | removed => cases told.symm.trans minted
  | minted tag tag' tap' there made later_tag counted =>
    cases told.symm.trans minted
    exact ⟨tag,tag',there,made,later_tag,counted⟩

end Run

-- The law of the simulator, whatever the rest of the server does. A tap has the counter after its tag's, which the tag then has;
-- a tag is made with counter 0, the reconcile job raises it, and otherwise, until tags are purged or seeded, it counts the taps
-- minted and nothing else. Each tap is told with a URL whose parameters are authenticated as this tap, and a UID that was a
-- registered seal before it was a virtual tag never gets one but from the seed.
structure Law (run : Run) : Prop where
  counter : ∀ n tap, run.minted sim n = some tap → ∃ tag tag', (run.dev sim n).simTags.get tap.uid = some tag ∧
    tap.ctr = tag.counter+1 ∧ (run.dev sim (n+1)).simTags.get tap.uid = some tag' ∧ tag'.counter = tap.ctr
  fresh : ∀ n uid tag, (run.dev sim n).simTags.get uid = none → (run.dev sim (n+1)).simTags.get uid = some tag →
    ¬(run.actions n).Reseeds → tag.counter = 0
  raised : ∀ n uid counter later tag, run.actions n = .reconcile uid counter later → (run.dev sim n).simTags.get uid = some tag →
    ∃ tag', (run.dev sim (n+1)).simTags.get uid = some tag' ∧ tag'.counter = max tag.counter counter
  counts : ∀ k n uid tag, k ≤ n → (run.dev sim k).simTags.get uid = some tag →
    (∀ m, k ≤ m → m < n → ¬(run.actions m).Reseeds) → ∃ tag', (run.dev sim n).simTags.get uid = some tag' ∧
      tag.counter + run.count sim uid n ≤ tag'.counter + run.count sim uid k ∧
      ((∀ m, k ≤ m → m < n → ¬(run.actions m).Raises uid) →
        tag'.counter + run.count sim uid k = tag.counter + run.count sim uid n)
  rising : ∀ m n tap tap', m < n → run.minted sim m = some tap → run.minted sim n = some tap' → tap.uid = tap'.uid →
    (∀ k, m < k → k < n → ¬(run.actions k).Reseeds) → tap.ctr < tap'.ctr ∧
      ((∀ k, m < k → k < n → ¬(run.actions k).Raises tap.uid) →
        tap'.ctr + run.count sim tap.uid m = tap.ctr + run.count sim tap.uid n)
  ahead : ∀ m n counter later tap, m < n → run.actions m = .reconcile tap.uid counter later →
    ((run.dev sim m).simTags.get tap.uid).isSome → run.minted sim n = some tap →
    (∀ k, m < k → k < n → ¬(run.actions k).Reseeds) → counter < tap.ctr
  genuine : ∀ n tap, run.minted sim n = some tap → ∃ counter : U24, counter.val = tap.ctr ∧
    tap.url = tagUrl sim.verifierHost tap.uid tap.ctr tap.cmac ∧
    authenticateTap sim.deployed (plainParams tap.uid counter tap.cmac) = .genuine tap.uid counter tap.cmac false
  own : ∀ n uid tag, (run.dev sim n).simTags.get uid = some tag → run.Own sim uid n

-- A tag of the seed, raised to the chain's counter, then tapped twice.
namespace Seeded

def bottle : Uid := ⟨[4,0xa1,0xb2,0xc3,0xd4,0xe5,0xf6],by decide⟩
def simulator : Simulator := ⟨.sample,.sample,⟨.factory,filled 0,.standard⟩,"verifier","web",[⟨bottle,14,true,some "FV-1"⟩],0⟩

def run : Run := ⟨.empty,fun
  | 0 => .runSeed false true .empty
  | 1 => .reconcile bottle 16 .empty
  | _ => .tap (some bottle) 0⟩

theorem taps_minted {n : ℕ} (tapped : (run.minted simulator n).map (·.uid) = some bottle) :
    ∃ tap, run.minted simulator n = some tap ∧ tap.uid = bottle := Option.map_eq_some_iff.mp tapped

end Seeded

end Simulator
end FlaconVault.Verifier
