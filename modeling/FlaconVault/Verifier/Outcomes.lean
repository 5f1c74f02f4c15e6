import FlaconVault.Verifier.Orders
import FlaconVault.Verifier.PurgeLaw
import FlaconVault.Lib.Placings
namespace FlaconVault.Verifier
open Guards

-- What a recorded outcome and a count of the orders do, wallet by wallet and row by row.
namespace Database

theorem upsertAttesters_credit (entries : List (Pubkey × ℕ)) (seen : Pubkey × ℕ → Int) (db : Database) (key : Pubkey) :
    (entries.foldl (fun known entry => known.upsertAttester entry.1 (seen entry)) db).escrowCredit key = db.escrowCredit key := by
  induction entries generalizing db with
  | nil => rfl
  | cons first rest ih => exact (ih (db.upsertAttester first.1 (seen first))).trans (escrowCredit_upsert db first.1 _ key)

theorem upsertAttesters_present (entries : List (Pubkey × ℕ)) (seen : Pubkey × ℕ → Int) (db : Database) {key : Pubkey}
    (named : (db.getAttester key).isSome = true ∨ key ∈ entries.map (·.1)) :
    ((entries.foldl (fun known entry => known.upsertAttester entry.1 (seen entry)) db).getAttester key).isSome = true := by
  induction entries generalizing db with
  | nil => simpa using named
  | cons first rest ih =>
    refine ih (db.upsertAttester first.1 (seen first)) ?_
    rcases named with known | later
    · left
      unfold getAttester upsertAttester at *
      dsimp only
      rw [Table.get_ensure]
      split
      · rfl
      · exact known
    · rcases List.mem_cons.mp later with here | there
      · left
        unfold getAttester upsertAttester
        dsimp only
        rw [Table.get_ensure,if_pos (show key = (AttesterRow.fresh first.1 (seen first)).pubkey from here)]
        rfl
      · exact .inr there

theorem participants_named {db : Database} {row : OrderRow} (present : row ∈ db.escrowOrders.rows) {key : Pubkey}
    (part : row.seller = key ∨ row.buyer = some key) : key ∈ db.participants.map (·.1) := by
  unfold participants
  refine List.mem_map.mpr ⟨(key,row.listedAt.natAbs),List.mem_flatMap.mpr ⟨row,present,?_⟩,rfl⟩
  rcases part with sold | bought
  · rw [← sold]
    exact List.mem_cons_self
  · rw [bought]
    exact List.mem_cons_of_mem _ List.mem_cons_self

theorem endedOrders_outside {db : Database} {key : Pubkey} (outside : key ∉ db.participants.map (·.1)) (state : ℕ) :
    db.endedOrders state key = 0 := by
  refine endedOrders_none ?_ state
  unfold SeedAttester.inOrders
  rw [List.any_eq_false]
  intro row present part
  simp only [Bool.or_eq_true,beq_iff_eq] at part
  exact outside (participants_named present part)

-- A count sets the counters of the wallets it is for, and leaves all others.
theorem syncEscrowCounters_credit {db later : Database} {only : Option (List Pubkey)} (accepted : db.syncEscrowCounters only = .ok later)
    (key : Pubkey) : later.escrowCredit key =
      if only.all (·.contains key) then (db.endedOrders ORDER_RELEASED key,db.endedOrders ORDER_DISPUTE key) else db.escrowCredit key := by
  unfold syncEscrowCounters at accepted
  obtain ⟨_,_,accepted⟩ := bind_ok.mp accepted
  cases pure_ok.mp accepted
  let seen (entry : Pubkey × ℕ) : Int := ((db.participants.filter (·.1 == entry.1)).map (·.2)).foldr min entry.2
  have kept := upsertAttesters_credit db.participants seen db key
  have enrolled := @upsertAttesters_present db.participants seen db key
  generalize db.participants.foldl (fun known entry => known.upsertAttester entry.1 (seen entry)) db = known at kept enrolled ⊢
  unfold escrowCredit getAttester at kept ⊢
  rw [← kept]
  dsimp only
  rw [Table.get_update]
  cases found : known.attesters.get key with
  | some row =>
    have named : row.pubkey = key := (Table.get_some.mp found).2
    subst named
    cases only with
    | none => rfl
    | some keys =>
      dsimp only [Option.map_some,Option.all_some]
      by_cases wanted : keys.contains row.pubkey = true
      · rw [if_pos wanted,if_pos wanted]
        rfl
      · rw [if_neg wanted,if_neg wanted]
  | none =>
    have outside : key ∉ db.participants.map (·.1) := by
      intro inside
      have there := enrolled (.inr inside)
      unfold getAttester at there
      rw [found] at there
      cases there
    rw [endedOrders_outside outside,endedOrders_outside outside]
    simp

-- The counters of every wallet count its orders that ended so.
def Synced (db : Database) : Prop :=
  ∀ key, db.escrowCredit key = (db.endedOrders ORDER_RELEASED key,db.endedOrders ORDER_DISPUTE key)

theorem endedOrders_same {db later : Database} (same : later.escrowOrders = db.escrowOrders) (state : ℕ) (key : Pubkey) :
    later.endedOrders state key = db.endedOrders state key := by
  unfold endedOrders
  rw [same]

theorem syncEscrowCounters_orders {db later : Database} {only : Option (List Pubkey)} (accepted : db.syncEscrowCounters only = .ok later) :
    later.escrowOrders = db.escrowOrders := by
  rw [(syncEscrowCounters_only accepted).2]

theorem Synced.of_all {db later : Database} (accepted : db.syncEscrowCounters none = .ok later) : later.Synced := by
  intro key
  have orders := syncEscrowCounters_orders accepted
  rw [endedOrders_same orders,endedOrders_same orders,syncEscrowCounters_credit accepted key]
  exact if_pos rfl

-- One row is written, whatever stood under its key before.
structure SetOrder (db : Database) (orderPda : Pubkey) (listedAt : Int) (row : OrderRow) (later : Database) : Prop where
  rest : later = {db with escrowOrders := later.escrowOrders}
  rows : ∀ other time, later.getOrder other time = if (other,time) = (orderPda,listedAt) then some row else db.getOrder other time

-- A wallet outside an order is not counted with it.
def Outside (key : Pubkey) (row : OrderRow) : Prop := row.seller ≠ key ∧ row.buyer ≠ some key

theorem endedOrders_set {db later : Database} {orderPda : Pubkey} {listedAt : Int} {row : OrderRow}
    (written : db.SetOrder orderPda listedAt row later) {key : Pubkey} (outside : Outside key row)
    (before : ∀ old, db.getOrder orderPda listedAt = some old → Outside key old) (state : ℕ) :
    later.endedOrders state key = db.endedOrders state key := by
  have apart : ∀ other : OrderRow, Outside key other →
      (other.state == state && (other.seller == key || other.buyer == some key)) = false := by
    intro other ⟨sold,bought⟩
    rw [beq_false_of_ne sold,beq_false_of_ne bought]
    simp
  refine Table.countP_congr ?_
  intro ⟨other,time⟩
  have told := written.rows other time
  unfold getOrder at told before
  rw [told]
  split
  · rename_i here
    rw [here]
    rw [Option.any_some,apart row outside]
    cases found : db.escrowOrders.get (orderPda,listedAt) with
    | none => rfl
    | some old => exact (apart old (before old found)).symm
  · rfl

-- A row is written and its parties are counted again: the counters of all others were right already.
theorem Synced.of_set {db middle later : Database} {orderPda : Pubkey} {listedAt : Int} {row : OrderRow} {keys : List Pubkey}
    (synced : db.Synced) (written : db.SetOrder orderPda listedAt row middle)
    (accepted : middle.syncEscrowCounters (some keys) = .ok later) (parties : ∀ key ∉ keys, Outside key row)
    (before : ∀ old, db.getOrder orderPda listedAt = some old → ∀ key ∉ keys, Outside key old) : later.Synced := by
  intro key
  have orders := syncEscrowCounters_orders accepted
  rw [endedOrders_same orders,endedOrders_same orders,syncEscrowCounters_credit accepted key]
  by_cases counted : key ∈ keys
  · exact if_pos (by simpa using counted)
  · rw [if_neg (by simpa using counted)]
    rw [endedOrders_set written (parties key counted) (fun old found => before old found key counted),
      endedOrders_set written (parties key counted) (fun old found => before old found key counted),← synced key]
    rw [written.rest]
    rfl

-- What a recorded outcome writes: the row of the Order read with it, that of the newest known listing, a placeholder,
-- or nothing where not even the seller is known.
inductive Records (db : Database) (orderPda : Pubkey) (state : ℕ) (moment : Int) (order : Option ChainOrder)
    (seller buyer : Option Pubkey) (later : Database) : Prop
  | read (chain : ChainOrder) (row : OrderRow) (middle : Database) (given : order = some chain) (listed : chain.listedAt.val ≤ moment)
      (written : db.SetOrder orderPda chain.listedAt.val row middle) (final : row.state = state)
      (sold : row.seller = (db.getOrder orderPda chain.listedAt.val).elim chain.seller (·.seller))
      (bought : row.buyer = (chain.buyer <|> buyer <|> (db.getOrder orderPda chain.listedAt.val).bind (·.buyer)))
      (counted : middle.syncEscrowCounters (some (chain.seller :: (chain.buyer <|> buyer).toList)) = .ok later)
  | known (old row : OrderRow) (middle : Database) (unread : ∀ chain, order = some chain → moment < chain.listedAt.val)
      (found : db.getOrder orderPda old.listedAt = some old) (since : 0 ≤ old.listedAt) (listed : old.listedAt ≤ moment)
      (newest : ∀ other ∈ db.escrowOrders.rows, other.orderPda = orderPda → 0 ≤ other.listedAt → other.listedAt ≤ moment →
        other.listedAt ≤ old.listedAt)
      (written : db.SetOrder orderPda old.listedAt row middle) (final : row.state = state) (sold : row.seller = old.seller)
      (bought : row.buyer = (old.buyer <|> buyer))
      (counted : middle.syncEscrowCounters (some (old.seller :: (old.buyer <|> buyer).toList)) = .ok later)
  | placed (wallet : Pubkey) (row : OrderRow) (middle : Database) (unread : ∀ chain, order = some chain → moment < chain.listedAt.val)
      (unknown : ∀ other ∈ db.escrowOrders.rows, other.orderPda = orderPda → 0 ≤ other.listedAt → moment < other.listedAt)
      (named : seller = some wallet) (written : db.SetOrder orderPda (-moment) row middle) (final : row.state = state)
      (sold : row.seller = (db.getOrder orderPda (-moment)).elim wallet (·.seller))
      (bought : row.buyer = (db.getOrder orderPda (-moment)).elim buyer (·.buyer))
      (counted : middle.syncEscrowCounters (some (wallet :: buyer.toList)) = .ok later)
  | dropped (unread : ∀ chain, order = some chain → moment < chain.listedAt.val)
      (unknown : ∀ other ∈ db.escrowOrders.rows, other.orderPda = orderPda → 0 ≤ other.listedAt → moment < other.listedAt)
      (unnamed : seller = none) (same : later = db)

theorem PutOrder.written {db later : Database} {row : OrderRow} {merge : OrderRow → OrderRow} (put : db.PutOrder row merge later) :
    db.SetOrder row.orderPda row.listedAt ((db.getOrder row.orderPda row.listedAt).elim row merge) later := by
  refine ⟨put.rest,?_⟩
  intro other time
  rw [put.rows other time]
  split
  · rename_i here
    rw [(Prod.mk.inj here).1,(Prod.mk.inj here).2]
  · rfl

theorem written_update {db : Database} {orderPda : Pubkey} {old : OrderRow} {change : OrderRow → OrderRow}
    {keeps : ∀ row, ((change row).orderPda,(change row).listedAt) = (row.orderPda,row.listedAt)}
    (found : db.getOrder orderPda old.listedAt = some old) :
    db.SetOrder orderPda old.listedAt (change old)
      {db with escrowOrders := db.escrowOrders.update (fun row => (row.orderPda,row.listedAt) = (orderPda,old.listedAt)) change keeps} := by
  refine ⟨rfl,?_⟩
  intro other time
  unfold getOrder at found ⊢
  dsimp only
  rw [Table.get_update]
  by_cases here : (other,time) = (orderPda,old.listedAt)
  · rw [if_pos here,here,found,Option.map_some]
    exact congrArg some (if_pos (decide_eq_true (Table.get_some.mp found).2))
  · rw [if_neg here]
    cases there : db.escrowOrders.get (other,time) with
    | none => rfl
    | some row =>
      have named : (row.orderPda,row.listedAt) = (other,time) := (Table.get_some.mp there).2
      rw [Option.map_some,if_neg]
      rw [named]
      simpa using here

theorem recordEscrowOutcome_cases {db later : Database} {orderPda passport : Pubkey} {state : ℕ} {moment ts : Int}
    {order : Option ChainOrder} {seller buyer : Option Pubkey} {price : Option ℕ}
    (accepted : db.recordEscrowOutcome orderPda state (some moment) ts order (some passport) seller buyer price = .ok later) :
    db.Records orderPda state moment order seller buyer later := by
  unfold recordEscrowOutcome at accepted
  dsimp only at accepted
  split at accepted
  · rename_i chain read
    obtain ⟨given,listed⟩ := Option.filter_eq_some_iff.mp read
    obtain ⟨middle,put,counted⟩ := bind_ok.mp accepted
    have written := (putOrder_parts put).written
    refine .read chain _ middle given (of_decide_eq_true listed) written ?_ ?_ ?_ counted
    · cases db.getOrder orderPda chain.listedAt.val <;> rfl
    · cases db.getOrder orderPda chain.listedAt.val <;> rfl
    · cases db.getOrder orderPda chain.listedAt.val with
      | none => cases chain.buyer <;> cases buyer <;> rfl
      | some old => cases chain.buyer <;> cases buyer <;> rfl
  · rename_i unread
    have since : ∀ chain, order = some chain → moment < chain.listedAt.val := by
      intro chain given
      rw [given] at unread
      by_contra early
      exact absurd unread (by simp [Option.filter,not_lt.mp early])
    have listings : ∀ row ∈ db.escrowOrders.rows, row.orderPda = orderPda → 0 ≤ row.listedAt → row.listedAt ≤ moment →
        row ∈ db.escrowOrders.rows.filter fun row => row.orderPda == orderPda && decide (row.listedAt ≥ 0) && decide (row.listedAt ≤ moment) := by
      intro row present named known listed
      exact List.mem_filter.mpr ⟨present,by simp [named,known,listed]⟩
    have unlisted : ∀ {rows : List OrderRow}, newestListing rows = none →
        rows = (db.escrowOrders.rows.filter fun row => row.orderPda == orderPda && decide (row.listedAt ≥ 0) &&
          decide (row.listedAt ≤ moment)) →
        ∀ row ∈ db.escrowOrders.rows, row.orderPda = orderPda → 0 ≤ row.listedAt → moment < row.listedAt := by
      intro rows absent same row present own known
      by_contra early
      have inside := listings row present own known (not_lt.mp early)
      rw [← same,newestListing_none absent] at inside
      cases inside
    split at accepted
    · rename_i old newest
      obtain ⟨inside,greatest⟩ := newestListing_some newest
      obtain ⟨present,chosen⟩ := List.mem_filter.mp inside
      simp only [Bool.and_eq_true,beq_iff_eq,decide_eq_true_eq] at chosen
      obtain ⟨⟨named,known⟩,listed⟩ := chosen
      have found : db.getOrder orderPda old.listedAt = some old := getOrder_some.mpr ⟨present,named,rfl⟩
      refine .known old _ _ since found known listed ?_ (written_update found) rfl rfl rfl accepted
      exact fun other there same dated early => greatest other (listings other there same dated early)
    · rename_i wallet absent _
      obtain ⟨middle,put,counted⟩ := bind_ok.mp accepted
      have written := (putOrder_parts put).written
      dsimp only [Option.getD_some] at written
      refine .placed wallet _ middle since (unlisted absent rfl) rfl written ?_ ?_ ?_ counted
      · cases db.getOrder orderPda (-moment) <;> rfl
      · cases db.getOrder orderPda (-moment) <;> rfl
      · cases db.getOrder orderPda (-moment) <;> rfl
    · rename_i absent unnamed
      refine .dropped since (unlisted absent rfl) ?_ (pure_ok.mp accepted).symm
      rw [Option.eq_none_iff_forall_ne_some]
      exact fun wallet named => unnamed passport wallet rfl named

end Database

-- Where all that the items name is one value, the first that is named is that value.
theorem findSome_named {α β : Type} {items : List α} {name : α → Option β} {value : β}
    (names : ∀ item ∈ items, ∀ other, name item = some other → other = value) :
    items.findSome? name = none ∨ items.findSome? name = some value := by
  cases told : items.findSome? name with
  | none => exact .inl rfl
  | some other =>
    obtain ⟨item,inside,named⟩ := List.exists_of_findSome?_eq_some told
    exact .inr (congrArg some (names item inside other named))

theorem orElse_named {β : Type} {first fallback : Option β} {value : β} (one : first = none ∨ first = some value)
    (two : fallback = none ∨ fallback = some value) : (first <|> fallback) = none ∨ (first <|> fallback) = some value := by
  rcases one with unnamed | named
  · rw [unnamed]
    exact two
  · rw [named]
    exact .inr rfl

theorem orElse_same {β : Type} {first : Option β} {value : β} (one : first = none ∨ first = some value) :
    (first <|> some value) = some value := by
  rcases one with unnamed | named
  · rw [unnamed]
    rfl
  · rw [named]
    rfl

-- The seller that a post names is that of its own event, else of the Order read, else of its accounts.
theorem escrowSeller_named {vt : VerifiedTx} {seller : Pubkey}
    (events : ∀ order sold bought amount moved ts, .orderReleased order sold bought amount moved ts ∈ vt.ownEvents → sold = seller)
    (order : ∀ chain, vt.order = some chain → chain.seller = seller) (account : ∀ key, vt.account .seller = some key → key = seller) :
    escrowSeller vt = none ∨ escrowSeller vt = some seller := by
  unfold escrowSeller
  dsimp only
  refine orElse_named (findSome_named ?_) (orElse_named ?_ ?_)
  · intro event own sold names
    cases event <;> cases names
    exact events _ _ _ _ _ _ own
  · cases read : vt.order with
    | none => exact .inl rfl
    | some chain => exact .inr (congrArg some (order chain read))
  · cases there : vt.account .seller with
    | none => exact .inl rfl
    | some key => exact .inr (congrArg some (account key there))

theorem recordOutcome_cases {db later : Database} {job : EventJob} {orderPda buyer : Pubkey} {moment : Int}
    (accepted : recordOutcome db job = .ok later) (address : job.vt.orderAddress = some orderPda)
    (time : job.vt.blockTime.map (·.val) = some moment)
    (events : ∀ order sold bought amount moved ts, .orderReleased order sold bought amount moved ts ∈ job.vt.ownEvents → bought = buyer)
    (account : job.vt.account .buyer = some buyer) :
    db.Records orderPda (if job.type = .release then ORDER_RELEASED else ORDER_DISPUTE) moment job.vt.order (escrowSeller job.vt)
      (some buyer) later := by
  unfold recordOutcome at accepted
  rw [address] at accepted
  dsimp only at accepted
  rw [time,account,orElse_same (findSome_named ?_)] at accepted
  · exact Database.recordEscrowOutcome_cases accepted
  · intro event own bought names
    cases event <;> cases names
    exact events _ _ _ _ _ _ own

end FlaconVault.Verifier
