import FlaconVault.Verifier.Shapes
namespace FlaconVault.Verifier
open Guards

-- Which events a transaction backs.

-- A row that was stored with its transaction.
def EventRow.backed (row : EventRow) : Prop := ∃ facts, row.payload.body = .facts facts

-- What tells one backed event of a passport from the others of its type: nothing for a MINT, the seal of a SEAL_ATTACH,
-- else the transaction.
def SameBacking (first second : EventRow) : Prop :=
  match first.type with
  | .mint => True
  | .sealAttach => first.sealUidHash = second.sealUidHash
  | _ => first.txSig = second.txSig

structure Backing (db : Database) : Prop where
  named : ∀ a row, db.getEvent a = some row → row.backed → row.type = .sealAttach → row.sealUidHash.isSome
  apart : ∀ a b first second, db.getEvent a = some first → db.getEvent b = some second → first.backed → second.backed →
    first.serial = second.serial → first.type = second.type → SameBacking first second → a = b

theorem SameBacking.symm {first second : EventRow} (type : first.type = second.type) (same : SameBacking first second) :
    SameBacking second first := by
  unfold SameBacking at same ⊢
  rw [type] at same
  split
  · trivial
  · rename_i attach
    rw [attach] at same
    exact same.symm
  · rename_i noMint noAttach
    split at same
    · exact absurd ‹_› noMint
    · exact absurd ‹_› noAttach
    · exact same.symm

-- Whoever finds no event for a new row finds none with its backing.
theorem newTo_apart {db : Database} {job : EventJob} {label : Option String} {sealUidHash : Option Bytes32} {facts : Facts}
    {passport : PassportRow} {number : ℕ} (new : NewTo db job sealUidHash) {a : ℕ} {row : EventRow} (found : db.getEvent a = some row)
    (serial : row.serial = job.serial) (type : row.type = job.type) :
    ¬SameBacking row (newEvent job label sealUidHash facts passport number) := by
  intro same
  have present := (Database.getEvent_some.mp found).1
  unfold NewTo at new
  unfold SameBacking at same
  rw [type] at same
  split at new
  · rename_i mint
    have none := List.find?_eq_none.mp new row present
    simp [serial,type,mint] at none
  · rename_i attach
    rw [attach] at same
    have none := List.find?_eq_none.mp new.2 row present
    have same : row.sealUidHash = sealUidHash := same
    simp [serial,type,attach,same] at none
  · rename_i noMint noAttach
    have none := List.find?_eq_none.mp new row present
    split at same
    · exact absurd ‹_› noMint
    · exact absurd ‹_› noAttach
    · have same : row.txSig = some job.txSig := same
      simp [serial,type,same] at none

theorem Backing.of_kept {db later : Database} (backing : Backing db)
    (kept : ∀ a row, later.getEvent a = some row → row.backed → db.getEvent a = some row) : Backing later := by
  refine ⟨fun a row found backed => backing.named a row (kept a row found backed) backed,?_⟩
  intro a b first second found found' backed backed'
  exact backing.apart a b first second (kept a first found backed) (kept b second found' backed') backed backed'

theorem Backing.of_backed {db : Database} (backing : Backing db) {job : EventJob} {label : Option String}
    {sealUidHash : Option Bytes32} {facts : Facts} {passport : PassportRow} (new : NewTo db job sealUidHash) :
    Backing (db.insertEvent (newEvent job label sealUidHash facts passport) (fun _ => rfl)) := by
  constructor
  · intro a row found backed attach
    rw [Database.getEvent_insert (newEvent job label sealUidHash facts passport) fun _ => rfl] at found
    split at found
    · cases found
      unfold NewTo at new
      rw [show job.type = .sealAttach from attach] at new
      exact new.1
    · exact backing.named a row found backed attach
  · intro a b first second found found' backed backed' serial type same
    rw [Database.getEvent_insert (newEvent job label sealUidHash facts passport) fun _ => rfl] at found found'
    split at found
    · rename_i here
      split at found'
      · rename_i there
        exact here.trans there.symm
      · cases found
        exact absurd (same.symm type) (newTo_apart new found' serial.symm type.symm)
    · split at found'
      · cases found'
        exact absurd same (newTo_apart new found serial type)
      · exact backing.apart a b first second found found' backed backed' serial type same

-- A row with a transaction of its own is never written again.
theorem confirm_keeps_backed {db later : Database} {id : ℕ} {final : EventRow} {gone : EventRow → Bool}
    (rows : ∀ other, later.getEvent other = if other = id then some final else (db.getEvent other).filter (!gone ·))
    (unbacked : ¬final.backed) {a : ℕ} {row : EventRow} (found : later.getEvent a = some row) (backed : row.backed) :
    db.getEvent a = some row := by
  rw [rows] at found
  split at found
  · exact absurd (Option.some.inj found ▸ backed) unbacked
  · exact (Option.filter_eq_some_iff.mp found).1

theorem change_keeps_backed {db later : Database} {id : ℕ} {change : EventRow → EventRow}
    (rows : ∀ other, later.getEvent other = if other = id then (db.getEvent other).map change else db.getEvent other)
    (unbacked : ∀ row, db.getEvent id = some row → (change row).backed → change row = row) {a : ℕ} {row : EventRow}
    (found : later.getEvent a = some row) (backed : row.backed) : db.getEvent a = some row := by
  rw [rows] at found
  split at found
  · rename_i here
    obtain ⟨old,there,rfl⟩ := Option.map_eq_some_iff.mp found
    rw [unbacked old (here ▸ there) backed]
    exact there
  · exact found

-- The shapes that are not backed stay so.
theorem Shape.unbacked {row : EventRow} (shape : Shape row) (open_row : row.status ≠ .confirmed) : ¬row.backed := by
  intro ⟨stored,body⟩
  rcases shape.unsettled open_row with signed | report
  · obtain ⟨scan,_,signed,_⟩ := signed
    simp [Payload.body_of_signed signed] at body
  · obtain ⟨_,_,_,_,_,told⟩ := report
    simp [told] at body

theorem Shape.scan_unbacked {row : EventRow} (shape : Shape row) (scan : row.type = .scan) : ¬row.backed := by
  intro ⟨stored,told⟩
  cases shape with
  | signed _ _ body => simp [body] at told
  | sighting _ _ _ body => simp [body] at told
  | facts _ kind => exact kind scan
  | report _ _ _ kind => simp [scan] at kind

theorem Shape.backed_signed {row : EventRow} (shape : Shape row) (backed : row.backed) : row.txSig.isSome := by
  obtain ⟨stored,told⟩ := backed
  cases shape with
  | signed _ _ body => simp [body] at told
  | sighting _ _ _ body => simp [body] at told
  | facts _ _ _ _ signed => exact signed
  | report _ _ _ _ body => simp [body] at told

theorem Shape.posted_unbacked {settings : Settings} {job : ConfirmJob} {row final : EventRow} (shape : Shape row)
    (open_row : row.status ≠ .confirmed) (becomes : PostedRow settings job row final) : ¬final.backed := by
  rcases shape.unsettled open_row with signed | report
  · obtain ⟨_,kind,_⟩ := signed
    exact (shape.posted open_row becomes).scan_unbacked (becomes.follows.type.trans kind)
  · obtain ⟨kind,_,_,_,_,told⟩ := report
    intro ⟨stored,body⟩
    rw [becomes.plain (by simp [kind]),told] at body
    cases body

theorem edit_backing {settings : Settings} {cause : Cause} {db later : Database} (shapes : Shapes db) (backing : Backing db)
    (edit : Edit settings cause db later) : Backing later := by
  have of_events (same : later.events = db.events) : Backing later := by
    refine backing.of_kept ?_
    intro a row found _
    unfold Database.getEvent at found ⊢
    rwa [same] at found
  cases edit with
  | aside _ rest => exact of_events rest.events
  | attached uidHash uid serial kind attachedAt _ own accepted => exact of_events (upsertSeal_events accepted)
  | sealDead uidHash => exact of_events rfl
  | refreshed entry => exact of_events (refreshSeal_events settings db entry)
  | backed job label sealUidHash facts passport kind new => exact backing.of_backed new
  | settled existing facts txSig actor found unsettled kind =>
    rcases (shapes _ _ found).unsettled unsettled with signed | report
    · obtain ⟨_,scan,_⟩ := signed
      simp [scan] at kind
    · simp [report.1] at kind
  | filled job current by_id knows found status bare =>
    refine backing.of_kept fun a row there backed => change_keeps_backed
      (fun other => Database.getEvent_update job.eventId other job.fill job.fill_id) ?_ there backed
    intro old here filled
    have same : old = current := Option.some.inj (here.symm.trans found)
    subst same
    have body : (job.fill old).payload.body = old.payload.body := fill_body job old
    obtain ⟨stored,told⟩ := filled
    have signed := (shapes _ _ found).backed_signed ⟨stored,body ▸ told⟩
    simp [bare] at signed
  | repaired job current knows found status chosen => simp [(shapes _ _ found).not_chosen] at chosen
  | posted job current now knows found unsettled =>
    obtain ⟨final,row,rows⟩ := posted_rows settings found (knows.type current found) now
    refine backing.of_kept fun a other there backed => confirm_keeps_backed rows ?_ there backed
    exact (shapes _ _ found).posted_unbacked unsettled row
  | failed eventId txSig own =>
    refine backing.of_kept fun a row there backed => change_keeps_backed
      (fun other => getEvent_failWrite db eventId other txSig) ?_ there backed
    intro old here failed
    unfold failedRow at failed ⊢
    split
    · rename_i pending
      rw [if_pos pending] at failed
      exact absurd failed ((shapes _ _ here).unbacked (by simp [pending]))
    · rfl
  | reconciled item acct ts current _ knows found status proof accepted =>
    have kind : current.type = .scan := (knows.follows current found).type.trans knows.type
    have body := knows.body found (knows.open status)
    obtain ⟨_,final,row,rows⟩ := reconciled_rows found kind body accepted
    refine backing.of_kept fun a other there backed => confirm_keeps_backed rows ?_ there backed
    exact ((shapes _ _ found).reconciled (knows.open status) kind body row).scan_unbacked (row.follows.type.trans kind)
  | timedOut id payload current found pending body late =>
    refine backing.of_kept fun a row there backed => change_keeps_backed
      (fun other => getEvent_failPending db id other payload) ?_ there backed
    intro old here failed
    have same : old = current := Option.some.inj (here.symm.trans found)
    obtain ⟨stored,told⟩ := failed
    exact absurd ⟨stored,body ▸ told⟩ ((shapes _ _ found).unbacked (by simp [pending]))
  | noted id payload current found unsettled body =>
    refine backing.of_kept fun a row there backed => change_keeps_backed
      (fun other => Database.getEvent_update id other (fun row => {row with payload := payload}) fun _ => rfl) ?_ there backed
    intro old here noted
    obtain ⟨stored,told⟩ := noted
    exact absurd ⟨stored,body ▸ told⟩ ((shapes _ _ found).unbacked unsettled)

theorem edits_backing {settings : Settings} {cause : Cause} {db later : Database} (shapes : Shapes db) (backing : Backing db)
    (edits : Edits settings cause db later) : Backing later := by
  induction edits with
  | refl => exact backing
  | tail before edit ih => exact edit_backing (edits_shapes shapes before) ih edit

theorem Grows.backing {db later : Database} (grows : Grows db later) (backing : Backing db) : Backing later := by
  refine backing.of_kept ?_
  intro a row found backed
  cases grows with
  | same rest =>
    unfold Database.getEvent at found ⊢
    rwa [rest.events] at found
  | row known make named before after _ unbacked =>
    have found : (known.insertEvent make named).getEvent a = some row := by
      unfold Database.getEvent at found ⊢
      rwa [after.events] at found
    rw [Database.getEvent_insert,before.events] at found
    split at found
    · obtain ⟨facts,body⟩ := backed
      exact absurd body (Option.some.inj found ▸ unbacked facts)
    · unfold Database.getEvent at found ⊢
      rwa [before.events] at found

theorem Run.backing (settings : Settings) (run : Run) (n : ℕ) : Backing (run.db settings n) := by
  induction n with
  | zero => exact ⟨fun _ _ found => (nomatch found),fun _ _ _ _ found => (nomatch found)⟩
  | succ n ih =>
    rcases changes_grows (run.changes settings n) with finished | grows
    · obtain ⟨_,_,_,_,_,edits⟩ := finished
      exact edits_backing (run.shapes settings n) ih edits
    · exact grows.backing ih

-- Two confirmed events that name one transaction.
structure SharesTransaction (db : Database) (first second : EventRow) : Prop where
  found : db.getEvent first.id = some first
  found' : db.getEvent second.id = some second
  different : first.id ≠ second.id
  confirmed : first.status = .confirmed ∧ second.status = .confirmed
  transaction : ∃ txSig, first.txSig = some txSig ∧ second.txSig = some txSig
  serial : first.serial = second.serial
  type : first.type = second.type
  noScan : first.type ≠ .scan

def EventRow.reported (row : EventRow) : Prop := ∃ source note reportedBy, row.payload.body = .report source note reportedBy

-- One transaction backs one event of a passport and type, but one for each of the seals it attaches; a report that was
-- confirmed with it is no event it backs.
theorem one_transaction_backs_one_event (settings : Settings) (run : Run) (n : ℕ) (first second : EventRow)
    (shares : SharesTransaction (run.db settings n) first second) :
    first.type = .sealAttach ∧ first.sealUidHash ≠ second.sealUidHash ∨
      first.type = .sealDead ∧ (first.reported ∨ second.reported) := by
  have kind (row : EventRow) (found : (run.db settings n).getEvent row.id = some row) (noScan : row.type ≠ .scan) :
      row.backed ∨ row.type = .sealDead ∧ row.reported := by
    cases run.shapes settings n _ _ found with
    | signed _ scan => exact absurd scan noScan
    | sighting _ _ scan => exact absurd scan noScan
    | facts facts _ body => exact .inl ⟨facts,body⟩
    | report source note reportedBy dead body => exact .inr ⟨dead,source,note,reportedBy,body⟩
  rcases kind first shares.found shares.noScan with backed | report
  · rcases kind second shares.found' (shares.type ▸ shares.noScan) with backed' | report'
    · left
      by_contra oneSeal
      refine shares.different ((run.backing settings n).apart _ _ _ _ shares.found shares.found' backed backed' shares.serial
        shares.type ?_)
      unfold SameBacking
      split
      · trivial
      · rename_i attach
        by_contra other
        exact oneSeal ⟨attach,other⟩
      · obtain ⟨txSig,one,two⟩ := shares.transaction
        exact one.trans two.symm
    · exact .inr ⟨shares.type.trans report'.1,.inr report'.2⟩
  · exact .inr ⟨report.1,.inl report.2⟩

-- A passport is minted, and one transaction attaches two seals to it.
namespace Attachments
def serial : String := "FV-1"
def issuer : Pubkey := .keypair 1
def program : Pubkey := .foreign 1
def asset : Bytes32 := hashOf [7]
def passport : Pubkey := .passport (Settings.sample.serialHash serial)
def boxUid : Uid := ⟨[4,0,0,0,0,0,1],by decide⟩
def neckUid : Uid := ⟨[4,0,0,0,0,0,2],by decide⟩
def box : Bytes32 := Settings.sample.uidHash boxUid
def neck : Bytes32 := Settings.sample.uidHash neckUid
def core : Pubkey := Settings.sample.keyOf asset

def minting : TxResult :=
  ⟨["mint"],[issuer,core,passport,program],2,[],[],
    [⟨some 3,[3,2,0,3,1],ixDisc .mintPassport ++ (Settings.sample.serialHash serial).val ++ zero32.val ++ asset.val⟩],[],none,none,[]⟩

def attaching : TxResult :=
  ⟨["attach"],[issuer,passport,.sealOf box,.sealOf neck,program],1,[],[],
    [⟨some 4,[4,1,2,0],ixDisc .attachSeal ++ box.val ++ [0]⟩,⟨some 4,[4,1,3,0],ixDisc .attachSeal ++ neck.val ++ [1]⟩],[],none,none,[]⟩

def reads (res : TxResult) : ChainReads := ⟨.ok res,fun _ => none,fun _ => none⟩

def post (type : EventType) (txSig : Signature) (uid : Option String) : EventBody :=
  ⟨none,some serial,some type,some txSig,none,some (.key issuer),some "Brand",some "Flacon",none,uid,none,none,none,none⟩

def now : I64 := ⟨100,by decide⟩

def run : Run := ⟨fun
  | 0 => .postEvent (post .mint "mint" none) (reads minting) now
  | 2 => .postEvent (post .sealAttach "attach" (some "04000000000001")) (reads attaching) now
  | 4 => .postEvent (post .sealAttach "attach" (some "04000000000002")) (reads attaching) now
  | _ => .finish 0 now⟩

def attached (hash : Bytes32) (kind id : ℕ) : EventRow :=
  ⟨id,serial,.sealAttach,100,some issuer,none,some "attach",.confirmed,some hash,⟨.facts (.sealAttach (some hash) (some kind)),none⟩,
    some Grade.A,none,none,none⟩

theorem shared : SharesTransaction (run.db Settings.sample 6) (attached box 0 2) (attached neck 1 3) where
  found := by decide +kernel
  found' := by decide +kernel
  different := by decide
  confirmed := ⟨rfl,rfl⟩
  transaction := ⟨"attach",rfl,rfl⟩
  serial := rfl
  type := rfl
  noScan := by decide

theorem two_seals_one_transaction : ¬∀ first second, ¬SharesTransaction (run.db Settings.sample 6) first second := by
  intro never
  exact never _ _ shared

theorem seals_apart : (attached box 0 2).type = .sealAttach ∧ (attached box 0 2).sealUidHash ≠ (attached neck 1 3).sealUidHash ∨
    (attached box 0 2).type = .sealDead ∧ ((attached box 0 2).reported ∨ (attached neck 1 3).reported) :=
  one_transaction_backs_one_event Settings.sample run 6 _ _ shared

end Attachments
end FlaconVault.Verifier
