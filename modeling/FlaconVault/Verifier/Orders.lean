import FlaconVault.Verifier.Effects
namespace FlaconVault.Verifier
open Guards

-- The table of escrow orders, listing by listing: what the reconcile job and the recorded outcomes leave of it.
theorem sqlInt_ok {value : Int} {done : Unit} : sqlInt value = .ok done ↔ -2^63 ≤ value ∧ value < 2^63 := require_ok

theorem i64_bound (value : I64) : sqlInt value.val = .ok () := by
  rw [sqlInt_ok]
  exact value.property

namespace Database

def getOrder (db : Database) (orderPda : Pubkey) (listedAt : Int) : Option OrderRow := db.escrowOrders.get (orderPda,listedAt)

theorem getOrder_some {db : Database} {orderPda : Pubkey} {listedAt : Int} {row : OrderRow} :
    db.getOrder orderPda listedAt = some row ↔ row ∈ db.escrowOrders.rows ∧ row.orderPda = orderPda ∧ row.listedAt = listedAt := by
  unfold getOrder
  rw [Table.get_some,Prod.mk.injEq]

theorem getOrder_mem {db : Database} {row : OrderRow} (present : row ∈ db.escrowOrders.rows) :
    db.getOrder row.orderPda row.listedAt = some row := getOrder_some.mpr ⟨present,rfl,rfl⟩

theorem getOrder_congr {db later : Database} (same : later.escrowOrders = db.escrowOrders) (orderPda : Pubkey) (listedAt : Int) :
    later.getOrder orderPda listedAt = db.getOrder orderPda listedAt := by
  unfold getOrder
  rw [same]

-- One row is written: a new one, or the merge with the row that has its key.
structure PutOrder (db : Database) (row : OrderRow) (merge : OrderRow → OrderRow) (later : Database) : Prop where
  rest : later = {db with escrowOrders := later.escrowOrders}
  rows : ∀ orderPda listedAt, later.getOrder orderPda listedAt =
    if (orderPda,listedAt) = (row.orderPda,row.listedAt) then some ((db.getOrder orderPda listedAt).elim row merge)
    else db.getOrder orderPda listedAt

theorem putOrder_parts {db later : Database} {row : OrderRow} {merge : OrderRow → OrderRow}
    {keeps : ∀ old, ((merge old).orderPda,(merge old).listedAt) = (old.orderPda,old.listedAt)}
    (accepted : db.putOrder row merge keeps = .ok later) : PutOrder db row merge later := by
  unfold putOrder at accepted
  obtain ⟨_,_,accepted⟩ := bind_ok.mp accepted
  obtain ⟨_,_,accepted⟩ := bind_ok.mp accepted
  split at accepted
  · rename_i orders inserted
    cases pure_ok.mp accepted
    refine ⟨rfl,?_⟩
    intro orderPda listedAt
    unfold getOrder
    dsimp only
    rw [Table.get_insert inserted]
    by_cases here : (orderPda,listedAt) = (row.orderPda,row.listedAt)
    · rw [if_pos here,if_pos here,here,(Table.insert_some.mp inserted).1]
      rfl
    · rw [if_neg here,if_neg here]
  · rename_i taken
    cases pure_ok.mp accepted
    refine ⟨rfl,?_⟩
    intro orderPda listedAt
    unfold getOrder
    dsimp only
    rw [Table.get_update]
    cases found : db.escrowOrders.get (orderPda,listedAt) with
    | none =>
      have elsewhere : (orderPda,listedAt) ≠ (row.orderPda,row.listedAt) := by
        intro here
        rw [here] at found
        simp [Table.insert,found] at taken
      rw [if_neg elsewhere]
      rfl
    | some old =>
      have named : (old.orderPda,old.listedAt) = (orderPda,listedAt) := (Table.get_some.mp found).2
      rw [← named]
      rw [Option.map_some]
      by_cases here : (old.orderPda,old.listedAt) = (row.orderPda,row.listedAt)
      · rw [if_pos (decide_eq_true here),if_pos here]
        rfl
      · rw [if_neg (by simpa using here),if_neg here]

theorem putOrder_accepted {db : Database} {row : OrderRow} {merge : OrderRow → OrderRow}
    {keeps : ∀ old, ((merge old).orderPda,(merge old).listedAt) = (old.orderPda,old.listedAt)} :
    (∃ later, db.putOrder row merge keeps = .ok later) ↔
      (-2^63 ≤ row.listedAt ∧ row.listedAt < 2^63) ∧ (row.price : Int) < 2^63 := by
  constructor
  · intro ⟨later,accepted⟩
    unfold putOrder at accepted
    obtain ⟨_,first,accepted⟩ := bind_ok.mp accepted
    obtain ⟨_,second,_⟩ := bind_ok.mp accepted
    exact ⟨sqlInt_ok.mp first,(sqlInt_ok.mp second).2⟩
  · intro ⟨time,price⟩
    have first : sqlInt row.listedAt = .ok () := sqlInt_ok.mpr time
    have second : sqlInt row.price = .ok () := sqlInt_ok.mpr ⟨by omega,price⟩
    unfold putOrder
    rw [first,second,ok_bind,ok_bind]
    split <;> exact ⟨_,rfl⟩

def oldestPlaceholder (db : Database) (orderPda : Pubkey) (listedAt : Int) : Option OrderRow :=
  oldestListing (db.escrowOrders.rows.filter (placeholder orderPda listedAt))

theorem oldestListing_some {rows : List OrderRow} {row : OrderRow} (found : oldestListing rows = some row) :
    row ∈ rows ∧ ∀ other ∈ rows, row.listedAt ≤ other.listedAt := by
  obtain ⟨present,least⟩ := Table.first_some 
    (fun _ _ _ => by omega) (fun _ _ _ _ _ => by omega) found
  exact ⟨present,fun other inside => not_lt.mp (least other inside)⟩

theorem newestListing_some {rows : List OrderRow} {row : OrderRow} (found : newestListing rows = some row) :
    row ∈ rows ∧ ∀ other ∈ rows, other.listedAt ≤ row.listedAt := by
  obtain ⟨present,least⟩ := Table.first_some 
    (fun _ _ _ => by omega) (fun _ _ _ _ _ => by omega) found
  exact ⟨present,fun other inside => not_lt.mp (least other inside)⟩

theorem oldestListing_none {rows : List OrderRow} (absent : oldestListing rows = none) : rows = [] :=
  Table.first_none (fun _ _ _ => by omega)
    (fun _ _ _ _ _ => by omega) absent

theorem newestListing_none {rows : List OrderRow} (absent : newestListing rows = none) : rows = [] :=
  Table.first_none (fun _ _ _ => by omega)
    (fun _ _ _ _ _ => by omega) absent

theorem oldestPlaceholder_some {db : Database} {orderPda : Pubkey} {listedAt : Int} {row : OrderRow}
    (found : db.oldestPlaceholder orderPda listedAt = some row) :
    row ∈ db.escrowOrders.rows ∧ row.orderPda = orderPda ∧ row.listedAt < 0 ∧ -row.listedAt ≥ listedAt := by
  obtain ⟨present,chosen⟩ := List.mem_filter.mp (oldestListing_some found).1
  simp only [placeholder,Bool.and_eq_true,beq_iff_eq,decide_eq_true_eq] at chosen
  exact ⟨present,chosen.1.1,chosen.1.2,chosen.2⟩

theorem oldestPlaceholder_none {db : Database} {orderPda : Pubkey} {listedAt : Int} (absent : db.oldestPlaceholder orderPda listedAt = none)
    {row : OrderRow} (present : row ∈ db.escrowOrders.rows) : placeholder orderPda listedAt row = false := by
  have none_left := oldestListing_none absent
  by_contra chosen
  have inside := List.mem_filter.mpr ⟨present,by simpa using chosen⟩
  rw [none_left] at inside
  cases inside

-- The state a read stores: its own if it is final, else that of the placeholder it merges.
def readState (db : Database) (orderPda : Pubkey) (order : ChainOrder) : ℕ :=
  match db.oldestPlaceholder orderPda order.listedAt.val with
  | some row => if order.state.val ∈ ORDER_TERMINAL then order.state.val else row.state
  | none => order.state.val

end Database

def ChainOrder.row (order : ChainOrder) (orderPda : Pubkey) (state : ℕ) (ts : Int) : OrderRow :=
  ⟨orderPda,order.listedAt.val,order.passport,order.seller,order.buyer,order.price.val,state,ts⟩

-- A listing in a final state stays as it is.
def ChainOrder.refresh (order : ChainOrder) (state : ℕ) (ts : Int) (old : OrderRow) : OrderRow :=
  if old.state ∈ ORDER_TERMINAL ∨ (old.state = state ∧ old.buyer = order.buyer ∧ old.price = order.price.val) then old
  else {old with buyer := order.buyer
                 price := order.price.val
                 state := state
                 updatedAt := ts}

namespace Database

structure ReadOrder (db : Database) (orderPda : Pubkey) (order : ChainOrder) (ts : Int) (later : Database) : Prop where
  rest : later = {db with escrowOrders := later.escrowOrders}
  rows : ∀ other time, later.getOrder other time =
    let kept := (db.getOrder other time).filter (!placeholder orderPda order.listedAt.val ·)
    let state := db.readState orderPda order
    if (other,time) = (orderPda,order.listedAt.val) then some (kept.elim (order.row orderPda state ts) (order.refresh state ts)) else kept

theorem upsertEscrowOrder_parts {db later : Database} {orderPda : Pubkey} {order : ChainOrder} {ts : Int}
    (accepted : db.upsertEscrowOrder orderPda order ts = .ok later) : ReadOrder db orderPda order ts later := by
  unfold upsertEscrowOrder at accepted
  dsimp only at accepted
  cases placed : oldestListing (db.escrowOrders.rows.filter (placeholder orderPda order.listedAt.val)) with
  | some row =>
    have state : db.readState orderPda order = if order.state.val ∈ ORDER_TERMINAL then order.state.val else row.state := by
      unfold readState oldestPlaceholder
      rw [placed]
    simp only [placed] at accepted
    have put := putOrder_parts accepted
    refine ⟨put.rest,?_⟩
    intro other time
    rw [put.rows,state]
    rw [show ∀ known : Table fun row : OrderRow => (row.orderPda,row.listedAt), getOrder {db with escrowOrders := known} other time =
      known.get (other,time) from fun _ => rfl,Table.get_delete]
    rfl
  | none =>
    have state : db.readState orderPda order = order.state.val := by
      unfold readState oldestPlaceholder
      rw [placed]
    simp only [placed] at accepted
    have put := putOrder_parts accepted
    refine ⟨put.rest,?_⟩
    intro other time
    have kept : (db.getOrder other time).filter (!placeholder orderPda order.listedAt.val ·) = db.getOrder other time := by
      cases there : db.getOrder other time with
      | none => rfl
      | some row =>
        have clear := oldestPlaceholder_none placed (getOrder_some.mp there).1
        simp [Option.filter,clear]
    rw [put.rows,state,kept]
    rfl

theorem upsertEscrowOrder_accepted {db : Database} {orderPda : Pubkey} {order : ChainOrder} {ts : Int} :
    (∃ later, db.upsertEscrowOrder orderPda order ts = .ok later) ↔ (order.price.val : Int) < 2^63 := by
  unfold upsertEscrowOrder
  dsimp only
  rw [putOrder_accepted]
  dsimp only
  have time := sqlInt_ok.mp (i64_bound order.listedAt)
  exact and_iff_right time

-- SQLite can take the absolute value of every listed_at.
def Dated (db : Database) : Prop := ∀ row ∈ db.escrowOrders.rows, row.listedAt ≠ -2^63

instance (db : Database) : Decidable db.Dated := inferInstanceAs (Decidable (∀ row ∈ db.escrowOrders.rows, row.listedAt ≠ -2^63))

theorem Dated.get {db : Database} (dated : db.Dated) {orderPda : Pubkey} {listedAt : Int} {row : OrderRow}
    (found : db.getOrder orderPda listedAt = some row) : listedAt ≠ -2^63 := by
  obtain ⟨present,_,named⟩ := getOrder_some.mp found
  exact named ▸ dated row present

theorem Dated.of_same {db later : Database} (dated : db.Dated) (same : later.escrowOrders = db.escrowOrders) : later.Dated := by
  unfold Dated
  rw [same]
  exact dated

theorem syncEscrowCounters_accepted {db : Database} {only : Option (List Pubkey)} :
    (∃ later, db.syncEscrowCounters only = .ok later) ↔ db.Dated := by
  constructor
  · intro ⟨later,accepted⟩
    unfold syncEscrowCounters at accepted
    obtain ⟨_,dated,_⟩ := bind_ok.mp accepted
    exact require_ok.mp dated
  · intro dated
    unfold syncEscrowCounters
    rw [require_pass (show ∀ row ∈ db.escrowOrders.rows, row.listedAt ≠ -2^63 from dated)]
    exact ⟨_,rfl⟩

theorem upsertAttesters_only (entries : List (Pubkey × ℕ)) (seen : Pubkey × ℕ → Int) (db : Database) :
    ∃ attesters, entries.foldl (fun known entry => known.upsertAttester entry.1 (seen entry)) db = {db with attesters := attesters} := by
  induction entries generalizing db with
  | nil => exact ⟨db.attesters,rfl⟩
  | cons first rest ih =>
    obtain ⟨attesters,same⟩ := ih (db.upsertAttester first.1 (seen first))
    exact ⟨attesters,same⟩

theorem syncEscrowCounters_only {db later : Database} {only : Option (List Pubkey)} (accepted : db.syncEscrowCounters only = .ok later) :
    db.Dated ∧ later = {db with attesters := later.attesters} := by
  refine ⟨syncEscrowCounters_accepted.mp ⟨later,accepted⟩,?_⟩
  unfold syncEscrowCounters at accepted
  obtain ⟨_,_,accepted⟩ := bind_ok.mp accepted
  cases pure_ok.mp accepted
  obtain ⟨attesters,same⟩ := upsertAttesters_only db.participants (fun entry =>
    ((db.participants.filter (·.1 == entry.1)).map (·.2)).foldr min entry.2) db
  rw [same]

theorem ReadOrder.other {db later : Database} {orderPda other : Pubkey} {order : ChainOrder} {ts : Int}
    (read : db.ReadOrder orderPda order ts later) (elsewhere : other ≠ orderPda) (time : Int) :
    later.getOrder other time = db.getOrder other time := by
  have apart : (other,time) ≠ (orderPda,order.listedAt.val) := fun same => elsewhere (Prod.mk.inj same).1
  rw [read.rows]
  dsimp only
  rw [if_neg apart]
  cases found : db.getOrder other time with
  | none => rfl
  | some row =>
    have named := (getOrder_some.mp found).2.1
    simp [Option.filter,placeholder,named,elsewhere]

theorem ReadOrder.own {db later : Database} {orderPda : Pubkey} {order : ChainOrder} {ts : Int}
    (read : db.ReadOrder orderPda order ts later) : (later.getOrder orderPda order.listedAt.val).isSome := by
  rw [read.rows]
  dsimp only
  rw [if_pos rfl]
  rfl

theorem ReadOrder.dated {db later : Database} {orderPda : Pubkey} {order : ChainOrder} {ts : Int}
    (read : db.ReadOrder orderPda order ts later) (dated : db.Dated) (listed : order.listedAt.val ≠ -2^63) : later.Dated := by
  intro row present
  have found := getOrder_mem present
  rw [read.rows] at found
  dsimp only at found
  split at found
  · rename_i same
    exact (Prod.mk.inj same).2 ▸ listed
  · exact dated.get (Option.filter_eq_some_iff.mp found).1

theorem Dated.of_sync {db later : Database} {only : Option (List Pubkey)} (accepted : db.syncEscrowCounters only = .ok later) :
    later.Dated := by
  obtain ⟨dated,same⟩ := syncEscrowCounters_only accepted
  exact dated.of_same (by rw [same])

-- Every recorded outcome ends with the counters.
theorem Dated.of_outcome {db later : Database} {orderPda : Pubkey} {state : ℕ} {blockTime : Option Int} {ts : Int}
    {order : Option ChainOrder} {passport seller buyer : Option Pubkey} {price : Option ℕ} (dated : db.Dated)
    (accepted : db.recordEscrowOutcome orderPda state blockTime ts order passport seller buyer price = .ok later) : later.Dated := by
  unfold recordEscrowOutcome at accepted
  dsimp only at accepted
  split at accepted
  · obtain ⟨_,_,synced⟩ := bind_ok.mp accepted
    exact .of_sync synced
  · split at accepted
    · exact .of_sync accepted
    · obtain ⟨_,_,synced⟩ := bind_ok.mp accepted
      exact .of_sync synced
    · exact pure_ok.mp accepted ▸ dated

end Database
end FlaconVault.Verifier
