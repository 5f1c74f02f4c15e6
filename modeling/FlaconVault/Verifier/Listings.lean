import FlaconVault.Verifier.Outcomes
import FlaconVault.Verifier.Origins
namespace FlaconVault.Verifier
open Guards

-- The orders a cycle has read, stored one after the other.
def Database.readOrders (ts : Int) (db : Database) : List (Pubkey × ChainOrder) → Except SqlError Database
  | [] => .ok db
  | (orderPda,order) :: rest => do
    let stored ← db.upsertEscrowOrder orderPda order ts
    stored.readOrders ts rest

def decodedOrders (settings : Settings) (found : List (Pubkey × List Byte)) : List (Pubkey × ChainOrder) :=
  found.filterMap fun entry => (decodeOrder settings (some entry.2)).toOption.map fun order => (entry.1,order)

theorem applyOrders_reads (settings : Settings) (ts : Int) (db : Database) (found : List (Pubkey × List Byte)) :
    applyOrders settings ts db found = db.readOrders ts (decodedOrders settings found) := by
  induction found generalizing db with
  | nil => rfl
  | cons entry rest ih =>
    unfold applyOrders decodedOrders
    rw [List.filterMap_cons]
    cases told : decodeOrder settings (some entry.2) with
    | error _ => exact ih db
    | ok order =>
      dsimp only [Except.toOption,Option.map_some]
      unfold Database.readOrders
      exact congrArg (db.upsertEscrowOrder entry.1 order ts >>= ·) (funext fun stored => ih stored)

-- The listings of one Order account, one after the other.
namespace Listings

inductive Ending where
  | released | dispute
  deriving DecidableEq

def Ending.state : Ending → ℕ
  | .released => ORDER_RELEASED
  | .dispute => ORDER_DISPUTE

def Ending.type : Ending → EventType
  | .released => .release
  | .dispute => .dispute

-- The outcome of a reserved listing, and who had reserved it.
structure Finish where
  ending : Ending
  moment : Int
  buyer : Pubkey
  deriving DecidableEq

-- Without a finish it was cancelled, or is not over yet.
structure Listing where
  listedAt : Int
  finish : Option Finish
  deriving DecidableEq

-- An Order is closed before the next one is listed at its address, which belongs to one seller.
structure History where
  seller : Pubkey
  listings : List Listing
  dated : ∀ listing ∈ listings, 0 < listing.listedAt
  ends : ∀ listing ∈ listings, ∀ finish, listing.finish = some finish → listing.listedAt ≤ finish.moment
  in_turn : listings.Pairwise fun earlier later => earlier.listedAt < later.listedAt ∧
    ∀ finish, earlier.finish = some finish → finish.moment ≤ later.listedAt

-- The account as it stands at some moment of a listing.
structure Shows (history : History) (listing : Listing) (order : ChainOrder) : Prop where
  seller : order.seller = history.seller
  listedAt : order.listedAt.val = listing.listedAt
  unfinished : listing.finish = none → order.state.val ≠ ORDER_RELEASED ∧ order.state.val ≠ ORDER_DISPUTE
  buyer : ∀ finish, listing.finish = some finish → order.buyer = none ∨ order.buyer = some finish.buyer
  final : ∀ finish, listing.finish = some finish → order.state.val ∈ ORDER_TERMINAL →
    order.state.val = finish.ending.state ∧ order.buyer = some finish.buyer

-- The verified transaction of an outcome, with its block time and the account as it was read when it was posted.
structure Posts (history : History) (orderPda : Pubkey) (finish : Finish) (job : EventJob) : Prop where
  address : job.vt.orderAddress = some orderPda
  time : job.vt.blockTime.map (·.val) = some finish.moment
  type : job.type = finish.ending.type
  events : ∀ order seller buyer amount moved ts, .orderReleased order seller buyer amount moved ts ∈ job.vt.ownEvents →
    seller = history.seller ∧ buyer = finish.buyer
  seller : ∀ key, job.vt.account .seller = some key → key = history.seller
  buyer : job.vt.account .buyer = some finish.buyer
  order : ∀ order, job.vt.order = some order → ∃ listing ∈ history.listings, Shows history listing order

-- The database, and the finished listings that have been posted.
structure World where
  db : Database
  posted : List (Pubkey × Int)

inductive Action where
  | aside (later : Database)
  | read (ts : Int) (orders : List (Pubkey × ChainOrder))
  | post (orderPda : Pubkey) (listing : Listing) (finish : Finish) (job : EventJob)

-- A cycle that reads orders, the post of an outcome, or a write that has nothing to do with either.
inductive Step (histories : Pubkey → History) (world : World) : Action → World → Prop
  | aside (later : Database) (orders : later.escrowOrders = world.db.escrowOrders)
      (counters : ∀ key, later.escrowCredit key = world.db.escrowCredit key) : Step histories world (.aside later) ⟨later,world.posted⟩
  | read (ts : Int) (orders : List (Pubkey × ChainOrder)) (middle later : Database)
      (shown : ∀ entry ∈ orders, ∃ listing ∈ (histories entry.1).listings, Shows (histories entry.1) listing entry.2)
      (stored : world.db.readOrders ts orders = .ok middle) (counted : middle.syncEscrowCounters none = .ok later) :
      Step histories world (.read ts orders) ⟨later,world.posted⟩
  | post (orderPda : Pubkey) (listing : Listing) (finish : Finish) (job : EventJob) (later : Database)
      (inside : listing ∈ (histories orderPda).listings) (ended : listing.finish = some finish)
      (once : (orderPda,listing.listedAt) ∉ world.posted) (posts : Posts (histories orderPda) orderPda finish job)
      (accepted : recordOutcome world.db job = .ok later) :
      Step histories world (.post orderPda listing finish job) ⟨later,(orderPda,listing.listedAt) :: world.posted⟩

-- The row that a post finds is its own listing's: by the Order read, by the newest known listing, or by a placeholder.
inductive Matched (db : Database) (orderPda : Pubkey) (listing : Listing) (finish : Finish) (job : EventJob) : Prop
  | read (chain : ChainOrder) (given : job.vt.order = some chain) (own : chain.listedAt.val = listing.listedAt)
  | known (unread : ∀ chain, job.vt.order = some chain → finish.moment < chain.listedAt.val)
      (stored : (db.getOrder orderPda listing.listedAt).isSome = true)
      (newest : ∀ row ∈ db.escrowOrders.rows, row.orderPda = orderPda → row.listedAt ≤ finish.moment → row.listedAt ≤ listing.listedAt)
  | unknown (unread : ∀ chain, job.vt.order = some chain → finish.moment < chain.listedAt.val)
      (unlisted : ∀ row ∈ db.escrowOrders.rows, row.orderPda = orderPda → 0 ≤ row.listedAt → finish.moment < row.listedAt)
      (free : db.getOrder orderPda (-finish.moment) = none) (named : (escrowSeller job.vt).isSome = true)

-- The placeholders that a read merges are its own listing's, and the read knows the buyer that they name.
def Merges (posted : List (Pubkey × Int)) (db : Database) (orderPda : Pubkey) (listing : Listing) (order : ChainOrder) : Prop :=
  ∀ row ∈ db.escrowOrders.rows, Database.placeholder orderPda order.listedAt.val row = true → ∃ finish, listing.finish = some finish ∧
    row.listedAt = -finish.moment ∧ (orderPda,listing.listedAt) ∈ posted ∧ db.getOrder orderPda listing.listedAt = none ∧
    order.buyer = some finish.buyer

def CarefulReads (histories : Pubkey → History) (posted : List (Pubkey × Int)) (ts : Int) : Database → List (Pubkey × ChainOrder) → Prop
  | _, [] => True
  | db, (orderPda,order) :: rest =>
    (∀ listing ∈ (histories orderPda).listings, listing.listedAt = order.listedAt.val → Merges posted db orderPda listing order) ∧
      ∀ stored, db.upsertEscrowOrder orderPda order ts = .ok stored → CarefulReads histories posted ts stored rest

def Careful (histories : Pubkey → History) (world : World) : Action → Prop
  | .aside _ => True
  | .read ts orders => CarefulReads histories world.posted ts world.db orders
  | .post orderPda listing finish job => Matched world.db orderPda listing finish job

inductive Run (histories : Pubkey → History) (allowed : World → Action → Prop) (start : World) : World → Prop
  | refl : Run histories allowed start start
  | step {world later : World} {action : Action} (before : Run histories allowed start world)
      (taken : Step histories world action later) (fits : allowed world action) : Run histories allowed start later

-- Nothing is known of any order yet.
structure Fresh (world : World) : Prop where
  orders : world.db.escrowOrders.rows = []
  counters : ∀ key, world.db.escrowCredit key = (0,0)
  posted : world.posted = []

-- Where the outcomes stand: each in a row of its own, with its own state and parties, and no other row of the account
-- counts; no outcome that was posted is missing.
structure Recorded (history : History) (orderPda : Pubkey) (world : World) (place : Listing → Option Int) : Prop where
  own : ∀ listing ∈ history.listings, ∀ key, place listing = some key → ∃ finish row, listing.finish = some finish ∧
    (key = listing.listedAt ∨ key = -finish.moment) ∧ world.db.getOrder orderPda key = some row ∧
    row.seller = history.seller ∧ row.buyer = some finish.buyer ∧ row.state = finish.ending.state
  apart : ∀ a ∈ history.listings, ∀ b ∈ history.listings, ∀ key, place a = some key → place b = some key → a = b
  only : ∀ row ∈ world.db.escrowOrders.rows, row.orderPda = orderPda → row.state = ORDER_RELEASED ∨ row.state = ORDER_DISPUTE →
    ∃ listing ∈ history.listings, place listing = some row.listedAt
  posted : ∀ listing ∈ history.listings, listing.finish.isSome = true → (orderPda,listing.listedAt) ∈ world.posted →
    (place listing).isSome = true

def Complete (history : History) (orderPda : Pubkey) (world : World) : Prop :=
  ∀ listing ∈ history.listings, listing.finish.isSome = true → (orderPda,listing.listedAt) ∈ world.posted

-- What a wallet has by the orders at other addresses, and by the listings at this one.
def endedElsewhere (db : Database) (orderPda : Pubkey) (state : ℕ) (key : Pubkey) : ℕ :=
  (db.escrowOrders.rows.filter (·.orderPda != orderPda)).countP fun row =>
    row.state == state && (row.seller == key || row.buyer == some key)

def History.ended (history : History) (ending : Ending) (key : Pubkey) : ℕ :=
  history.listings.countP fun listing => listing.finish.any fun finish =>
    finish.ending == ending && (history.seller == key || finish.buyer == key)

-- In every state and from there on: no recorded outcome is lost or becomes another's, and with all of them posted the
-- counters have each of them once.
structure Upheld (history : History) (orderPda : Pubkey) (world later : World) : Prop where
  recorded : ∃ place after, Recorded history orderPda world place ∧ Recorded history orderPda later after ∧
    ∀ listing ∈ history.listings, (place listing).isSome = true → (after listing).isSome = true
  counted : Complete history orderPda world → ∀ key, world.db.escrowCredit key =
    (endedElsewhere world.db orderPda ORDER_RELEASED key+history.ended .released key,
      endedElsewhere world.db orderPda ORDER_DISPUTE key+history.ended .dispute key)

-- A cycle that reads orders is a step.
theorem refreshOrders_step {histories : Pubkey → History} {settings : Settings} {ts : Int} {world : World} {later : Database}
    {found : List (Pubkey × List Byte)}
    (shown : ∀ entry ∈ decodedOrders settings found, ∃ listing ∈ (histories entry.1).listings, Shows (histories entry.1) listing entry.2)
    (accepted : refreshOrders settings ts world.db (some found) = .ok later) :
    Step histories world (.read ts (decodedOrders settings found)) ⟨later,world.posted⟩ := by
  obtain ⟨middle,stored,counted⟩ := bind_ok.mp accepted
  rw [applyOrders_reads] at stored
  exact .read ts _ middle later shown stored counted

-- So is the write of a new outcome, between the row of its actor and that of its event.
theorem eventWrite_steps {histories : Pubkey → History} {settings : Settings} {world : World} {later : Database} {row : EventRow}
    {orderPda : Pubkey} {listing : Listing} {finish : Finish} {job : EventJob} (inside : listing ∈ (histories orderPda).listings)
    (ended : listing.finish = some finish) (once : (orderPda,listing.listedAt) ∉ world.posted)
    (posts : Posts (histories orderPda) orderPda finish job) (new : world.db.eventForTx job.txSig job.serial job.type = none)
    (accepted : eventWrite settings world.db job = .ok (later,row)) : ∃ before recorded,
      Step histories world (.aside before) ⟨before,world.posted⟩ ∧
      Step histories ⟨before,world.posted⟩ (.post orderPda listing finish job) ⟨recorded,(orderPda,listing.listedAt) :: world.posted⟩ ∧
      Step histories ⟨recorded,(orderPda,listing.listedAt) :: world.posted⟩ (.aside later)
        ⟨later,(orderPda,listing.listedAt) :: world.posted⟩ := by
  have kind : job.type = .release ∨ job.type = .dispute := by
    rw [posts.type]
    cases finish.ending with
    | released => exact .inl rfl
    | dispute => exact .inr rfl
  have stores : ∃ recorded, recordOutcome (world.db.upsertAttester job.actor job.ts) job = .ok recorded ∧
      ∃ make numbered, later = recorded.insertEvent make numbered := by
    unfold eventWrite at accepted
    dsimp only at accepted
    rw [new] at accepted
    rcases kind with kind | kind
    all_goals
      rw [kind] at accepted
      simp only [reduceCtorEq,or_self,if_false,true_or,or_true,if_true] at accepted
      obtain ⟨_,_,accepted⟩ := bind_ok.mp accepted
      obtain ⟨recorded,written,accepted⟩ := bind_ok.mp accepted
      obtain ⟨_,_,accepted⟩ := bind_ok.mp accepted
      cases accepted
      exact ⟨recorded,sql_ok.mp written,_,_,rfl⟩
  obtain ⟨recorded,written,make,numbered,rfl⟩ := stores
  refine ⟨_,recorded,.aside (world.db.upsertAttester job.actor job.ts) rfl (Database.escrowCredit_upsert world.db job.actor job.ts),
    .post orderPda listing finish job recorded inside ended once posts written,.aside _ rfl fun _ => rfl⟩

end Listings
end FlaconVault.Verifier
