import FlaconVault.Escrow.Effects
namespace FlaconVault.Escrow
open Guards Flacon

def Funded (orders : Cells Pubkey Order) (key : Pubkey) : Prop :=
  ∃ order, orders key = some order ∧ order.isFunded

theorem funded_found (found : orders key = some order) : Funded orders key ↔ order.isFunded := by
  constructor
  · rintro ⟨other,there,funded⟩
    rw [found] at there
    cases Option.some.inj there
    exact funded
  · exact fun funded => ⟨order,found,funded⟩

theorem not_funded_of_none {orders : Cells Pubkey Order} (absent : orders key = none) : ¬Funded orders key := by
  rintro ⟨order,there,-⟩
  rw [absent] at there
  cases there

@[simp] theorem funded_put {orders : Cells Pubkey Order} :
    Funded (orders.put key order) other ↔ (other = key ∧ order.isFunded) ∨ (other ≠ key ∧ Funded orders other) := by
  by_cases same : other = key
  · subst same
    simpa using funded_found (Cells.put_self orders other order)
  · simp [Funded,same]

@[simp] theorem funded_erase {orders : Cells Pubkey Order} :
    Funded (orders.erase key) other ↔ other ≠ key ∧ Funded orders other := by
  by_cases same : other = key
  · subst same
    simp [Funded]
  · simp [Funded,same]

-- The vaults match the orders: a vault exists exactly while its order is funded; it belongs to the Order address and
-- holds at least the price.
structure Backed (orders : Cells Pubkey Order) (tokens : Cells Pubkey TokenAccount) : Prop where
  orderHere : orders.Placed fun order => .order order.passport order.seller
  priced : ∀ key order, orders key = some order → 0 < order.price.val
  backed : ∀ key order, orders key = some order → order.isFunded →
    ∃ vault, tokens (.vault key) = some vault ∧ vault.owner = key ∧ order.price ≤ vault.amount
  hosted : ∀ key vault, tokens (.vault key) = some vault → Funded orders key

theorem Backed.vault_owner (backed : Backed orders tokens) (found : tokens (.vault key) = some vault) : vault.owner = key := by
  obtain ⟨order,there,funded⟩ := backed.hosted key vault found
  obtain ⟨held,here,owner,-⟩ := backed.backed key order there funded
  rw [found] at here
  cases Option.some.inj here
  exact owner

theorem Backed.vault_unsigned (backed : Backed orders tokens) (found : tokens (.vault key) = some vault) :
    ¬vault.owner.canSign := by
  obtain ⟨order,there,-⟩ := backed.hosted key vault found
  rw [backed.vault_owner found,backed.orderHere key order there]
  exact nofun

-- How the balance of an account that nobody but a program can sign for may change.
def Credited (old new : TokenAccount) : Prop := new.mint = old.mint ∧ new.owner = old.owner ∧ old.amount ≤ new.amount

theorem Credited.refl (account : TokenAccount) : Credited account account := ⟨rfl,rfl,le_refl _⟩
theorem Credited.trans (left : Credited a b) (right : Credited b c) : Credited a c :=
  ⟨right.1.trans left.1,right.2.1.trans left.2.1,le_trans left.2.2 right.2.2⟩

-- Two token maps agree on a vault that is not being paid in or out, up to what others send to it.
def Untouched (before after : Cells Pubkey TokenAccount) (vault : Pubkey) : Prop :=
  (before vault = none → after vault = none) ∧
    ∀ old, before vault = some old → ∃ new, after vault = some new ∧ Credited old new

theorem Untouched.of_eq (same : after vault = before vault) : Untouched before after vault :=
  ⟨fun absent => same.trans absent,fun old found => ⟨old,same.trans found,.refl old⟩⟩

theorem Untouched.trans (left : Untouched before middle vault) (right : Untouched middle after vault) :
    Untouched before after vault := by
  refine ⟨fun absent => right.1 (left.1 absent),?_⟩
  intro old found
  obtain ⟨mid,there,credited⟩ := left.2 old found
  obtain ⟨new,present,more⟩ := right.2 mid there
  exact ⟨new,present,credited.trans more⟩

theorem Untouched.put (known : before account = some old) (credited : account = vault → Credited old new) :
    Untouched before (before.put account new) vault := by
  by_cases same : vault = account
  · subst same
    refine ⟨fun absent => (by rw [absent] at known; cases known),?_⟩
    intro other found
    rw [known] at found
    cases Option.some.inj found
    exact ⟨new,Cells.put_self _ _ _,credited rfl⟩
  · exact .of_eq (Cells.put_other _ _ same)

-- A transfer signed by somebody else only adds to a vault.
theorem transferred_untouched (moved : Transferred tokens source destination authority amount after paying paid left total)
    (foreign : source ≠ vault) : Untouched tokens after vault := by
  obtain ⟨apart,sourceFound,destinationFound,-,-,-,adds,rfl⟩ := moved
  have known : tokens.put source {paying with amount := left} destination = some paid := by
    rw [Cells.put_other _ _ (Ne.symm apart)]
    exact destinationFound
  have more : paid.amount ≤ total := Fin.le_def.mpr (by omega)
  exact .trans (.put sourceFound fun same => absurd same foreign) (.put known fun _ => ⟨rfl,rfl,more⟩)

theorem token_call_untouched (accepted : Tokens.handle tokens call = .ok after)
    (unsigned : ∀ held, tokens (.vault key) = some held → ¬held.owner.canSign) : Untouched tokens after (.vault key) := by
  cases call with
  | create account mint owner =>
    simp only [Tokens.handle,bind_ok,require_ok,exists_const,pure_ok] at accepted
    obtain ⟨underived,-,rfl⟩ := accepted
    refine .of_eq (Cells.put_other _ _ ?_)
    rintro rfl
    cases underived
  | mintTo account amount =>
    simp only [Tokens.handle,bind_ok,orRefuse_ok,pure_ok] at accepted
    obtain ⟨minted,found,total,adds,rfl⟩ := accepted
    refine .put found fun _ => ⟨rfl,rfl,?_⟩
    have sum := checkedAdd_some.mp adds
    change minted.amount.val ≤ total.val
    omega
  | transfer source destination authority amount =>
    simp only [Tokens.handle,bind_ok,require_ok,exists_const] at accepted
    obtain ⟨signs,accepted⟩ := accepted
    rcases transfer_parts accepted with ⟨-,rfl⟩ | ⟨paying,paid,left,total,moved⟩
    · exact .of_eq rfl
    · refine transferred_untouched moved ?_
      rintro rfl
      exact unsigned paying moved.sourceFound (moved.authorised ▸ signs)
  | setOwner account authority newOwner =>
    simp only [Tokens.handle,bind_ok,require_ok,orRefuse_ok,exists_const,pure_ok] at accepted
    obtain ⟨signs,changed,found,owner,rfl⟩ := accepted
    refine .put found fun same => ?_
    subst same
    exact absurd (owner ▸ signs) (unsigned changed found)
  | close account authority =>
    simp only [Tokens.handle,bind_ok,require_ok,exists_const] at accepted
    obtain ⟨signs,accepted⟩ := accepted
    obtain ⟨closing,found,-,owner,rfl⟩ := close_parts accepted
    refine .of_eq (Cells.erase_other _ ?_)
    rintro rfl
    exact unsigned closing found (owner ▸ signs)

-- Backing survives whatever leaves the orders alone and every vault untouched.
theorem Backed.credited (backed : Backed orders tokens) (untouched : ∀ key, Untouched tokens after (.vault key)) :
    Backed orders after := by
  refine ⟨backed.orderHere,backed.priced,?_,?_⟩
  · intro key order found funded
    obtain ⟨vault,there,owner,enough⟩ := backed.backed key order found funded
    obtain ⟨new,present,-,sameOwner,more⟩ := (untouched key).2 vault there
    exact ⟨new,present,sameOwner.trans owner,le_trans enough more⟩
  · intro key new present
    cases held : tokens (.vault key) with
    | none =>
      rw [(untouched key).1 held] at present
      cases present
    | some old => exact backed.hosted key old held

-- An order rewritten in place, with the same price and still funded or still unfunded.
theorem Backed.rewrite (backed : Backed orders tokens) (found : orders key = some old)
    (here : key = .order new.passport new.seller) (samePrice : new.price = old.price) (sameFunded : new.isFunded = old.isFunded) :
    Backed (orders.put key new) tokens := by
  refine ⟨backed.orderHere.put here,?_,?_,?_⟩
  · intro other order there
    rcases Cells.put_some.mp there with ⟨-,rfl⟩ | ⟨-,kept⟩
    · rw [samePrice]
      exact backed.priced key old found
    · exact backed.priced other order kept
  · intro other order there funded
    rcases Cells.put_some.mp there with ⟨rfl,rfl⟩ | ⟨-,kept⟩
    · rw [samePrice]
      exact backed.backed _ old found (sameFunded ▸ funded)
    · exact backed.backed other order kept funded
  · intro other vault there
    have funded := backed.hosted other vault there
    rw [funded_put]
    by_cases same : other = key
    · subst same
      exact .inl ⟨rfl,sameFunded ▸ (funded_found found).mp funded⟩
    · exact .inr ⟨same,funded⟩

theorem Backed.insert (backed : Backed orders tokens) (fresh : orders key = none)
    (here : key = .order new.passport new.seller) (positive : 0 < new.price.val) (unfunded : ¬new.isFunded) :
    Backed (orders.put key new) tokens := by
  refine ⟨backed.orderHere.put here,?_,?_,?_⟩
  · intro other order there
    rcases Cells.put_some.mp there with ⟨-,rfl⟩ | ⟨-,kept⟩
    · exact positive
    · exact backed.priced other order kept
  · intro other order there funded
    rcases Cells.put_some.mp there with ⟨-,rfl⟩ | ⟨-,kept⟩
    · exact absurd funded unfunded
    · exact backed.backed other order kept funded
  · intro other vault there
    have funded := backed.hosted other vault there
    rw [funded_put]
    refine .inr ⟨?_,funded⟩
    rintro rfl
    exact not_funded_of_none fresh funded

theorem Backed.remove (backed : Backed orders tokens) (found : orders key = some old) (unfunded : ¬old.isFunded) :
    Backed (orders.erase key) tokens := by
  refine ⟨?_,?_,?_,?_⟩
  · exact fun other order there => backed.orderHere other order (Cells.erase_some.mp there).2
  · exact fun other order there => backed.priced other order (Cells.erase_some.mp there).2
  · exact fun other order there => backed.backed other order (Cells.erase_some.mp there).2
  · intro other vault there
    have funded := backed.hosted other vault there
    rw [funded_erase]
    refine ⟨?_,funded⟩
    rintro rfl
    exact unfunded ((funded_found found).mp funded)

-- A payout closes the vault of an order that is no longer funded; every other vault is left alone.
theorem Backed.paid_out (backed : Backed orders tokens) (found : orders key = some old)
    (here : key = .order new.passport new.seller) (samePrice : new.price = old.price) (unfunded : ¬new.isFunded)
    (closed : after (.vault key) = none) (others : ∀ other, other ≠ key → Untouched tokens after (.vault other)) :
    Backed (orders.put key new) after := by
  refine ⟨backed.orderHere.put here,?_,?_,?_⟩
  · intro other order there
    rcases Cells.put_some.mp there with ⟨-,rfl⟩ | ⟨-,kept⟩
    · rw [samePrice]
      exact backed.priced key old found
    · exact backed.priced other order kept
  · intro other order there funded
    rcases Cells.put_some.mp there with ⟨-,rfl⟩ | ⟨apart,kept⟩
    · exact absurd funded unfunded
    · obtain ⟨vault,held,owner,enough⟩ := backed.backed other order kept funded
      obtain ⟨later,present,-,sameOwner,more⟩ := (others other apart).2 vault held
      exact ⟨later,present,sameOwner.trans owner,le_trans enough more⟩
  · intro other later present
    have apart : other ≠ key := by
      rintro rfl
      rw [closed] at present
      cases present
    rw [funded_put]
    refine .inr ⟨apart,?_⟩
    cases held : tokens (.vault other) with
    | none =>
      rw [(others other apart).1 held] at present
      cases present
    | some vault => exact backed.hosted other vault held

-- A reservation opens the vault of an order that becomes funded.
theorem Backed.paid_in (backed : Backed orders tokens) (found : orders key = some old)
    (here : key = .order new.passport new.seller) (samePrice : new.price = old.price)
    (opened : ∃ vault, after (.vault key) = some vault ∧ vault.owner = key ∧ new.price ≤ vault.amount) (funded : new.isFunded)
    (others : ∀ other, other ≠ key → Untouched tokens after (.vault other)) : Backed (orders.put key new) after := by
  refine ⟨backed.orderHere.put here,?_,?_,?_⟩
  · intro other order there
    rcases Cells.put_some.mp there with ⟨-,rfl⟩ | ⟨-,kept⟩
    · rw [samePrice]
      exact backed.priced key old found
    · exact backed.priced other order kept
  · intro other order there funded
    rcases Cells.put_some.mp there with ⟨rfl,rfl⟩ | ⟨apart,kept⟩
    · exact opened
    · obtain ⟨vault,held,owner,enough⟩ := backed.backed other order kept funded
      obtain ⟨later,present,-,sameOwner,more⟩ := (others other apart).2 vault held
      exact ⟨later,present,sameOwner.trans owner,le_trans enough more⟩
  · intro other later present
    rw [funded_put]
    by_cases same : other = key
    · exact .inl ⟨same,funded⟩
    · refine .inr ⟨same,?_⟩
      cases held : tokens (.vault other) with
      | none =>
        rw [(others other same).1 held] at present
        cases present
      | some vault => exact backed.hosted other vault held

theorem Drained.closed (drained : Drained tokens orderKey vault destination after) : after vault = none := by
  cases drained <;> exact Cells.erase_self _ _

theorem Drained.others (drained : Drained tokens orderKey vault destination after) (apart : other ≠ vault) :
    Untouched tokens after other := by
  cases drained with
  | empty => exact .of_eq (Cells.erase_other _ apart)
  | paid held paid total found owner something distinct destinationFound adds =>
    have more : paid.amount ≤ total := Fin.le_def.mpr (by omega)
    have credited : Credited paid {paid with amount := total} := ⟨rfl,rfl,more⟩
    exact .trans (.put destinationFound fun _ => credited) (.of_eq (Cells.erase_other _ apart))

theorem vault_ne (apart : other ≠ key) : Pubkey.vault other ≠ .vault key := fun same => apart (Pubkey.vault.inj same)

theorem Settlement.backed (backed : Backed s.escrow.orders s.tokens) (unfunded : ∀ held : Order, ¬{held with state := final}.isFunded)
    (settled : Settlement s orderKey order config destination payee assetTo final after) :
    Backed after.escrow.orders after.tokens := by
  obtain ⟨asset,core,tokens,assets,drained,-,rfl⟩ := settled.written
  exact backed.paid_out settled.at_.found settled.at_.here rfl (unfunded {order with assetDeposited := false}) drained.closed
    fun other apart => drained.others (vault_ne apart)

-- What an accepted reservation moves: exactly the price, from the buyer's account into a vault that did not exist.
theorem reserve_moves (backed : Backed orders tokens) (found : orders key = some order) (state : order.state = .listed)
    (paying : tokens source = some buyerToken) (opened : initVault tokens (.vault key) mint key = .ok created)
    (funded : Tokens.transfer created source (.vault key) buyer order.price.val = .ok after) :
    ∃ left : U64, left.val + order.price.val = buyerToken.amount.val ∧ source ≠ .vault key ∧ tokens (.vault key) = none ∧
      after = (tokens.put source {buyerToken with amount := left}).put (.vault key) ⟨mint,key,order.price⟩ := by
  have absent : tokens (.vault key) = none := by
    by_contra present
    obtain ⟨vault,there⟩ := Option.ne_none_iff_exists'.mp present
    have isFunded := (funded_found found).mp (backed.hosted key vault there)
    simp [Order.isFunded,state] at isFunded
  have apart : source ≠ .vault key := by
    rintro rfl
    rw [absent] at paying
    cases paying
  rw [initVault,absent] at opened
  cases opened
  rcases transfer_parts funded with ⟨same,-⟩ | ⟨payer,paid,left,total,moved⟩
  · exact absurd same apart
  obtain ⟨-,sourceFound,destinationFound,-,-,taken,adds,rfl⟩ := moved
  rw [Cells.put_other _ _ apart,paying] at sourceFound
  cases Option.some.inj sourceFound
  rw [Cells.put_self] at destinationFound
  cases Option.some.inj destinationFound
  have whole : total = order.price := Fin.ext (by simpa using adds)
  refine ⟨left,taken,apart,absent,?_⟩
  subst whole
  refine Cells.ext fun probe => ?_
  simp only [Cells.put_apply]
  split
  · rfl
  · rfl

theorem reserve_others (backed : Backed orders tokens) (paying : tokens source = some buyerToken)
    (buyer : buyerToken.owner.canSign) (apart : other ≠ key) :
    Untouched tokens ((tokens.put source {buyerToken with amount := left}).put (.vault key) ⟨mint,key,price⟩) (.vault other) := by
  refine .of_eq ?_
  rw [Cells.put_other _ _ (vault_ne apart),Cells.put_other]
  rintro rfl
  exact backed.vault_unsigned paying buyer

theorem Change.backed (backed : Backed s.escrow.orders s.tokens) (change : Change s now call after) :
    Backed after.escrow.orders after.tokens := by
  cases change with
  | initConfig => exact backed
  | setDisputeWindow => exact backed
  | list a price config passport registry configFound found registryFound signed here fresh positive =>
    exact backed.insert fresh here positive nofun
  | depositAsset a order assets at_ => exact backed.rewrite at_.found at_.here rfl rfl
  | cancel a order assets at_ signed isSeller state =>
    exact backed.rewrite at_.found at_.here rfl (by simp [Order.isFunded,state])
  | closeOrder a order at_ signed isSeller terminal =>
    refine backed.remove at_.found ?_
    intro funded
    cases state : order.state <;> simp [Order.isFunded,Order.isTerminal,state] at terminal funded
  | reserve a expectedPrice config order passport registry buyerToken created tokens configFound at_ signed paying ofMint ofBuyer
      passportFound registryFound state apart agreed valid entitled vault funded =>
    obtain ⟨left,-,-,-,rfl⟩ := reserve_moves backed at_.found state paying vault funded
    exact backed.paid_in at_.found at_.here rfl ⟨_,Cells.put_self _ _ _,rfl,le_refl _⟩ rfl
      fun other distinct => reserve_others backed paying (ofBuyer.symm ▸ signed) distinct
  | recordPreShipScan a order scan at_ signed isSeller state =>
    exact backed.rewrite at_.found at_.here rfl (by simp [Order.isFunded,state])
  | ship a order at_ signed isSeller state => exact backed.rewrite at_.found at_.here rfl (by simp [Order.isFunded,state])
  | recordReceiptScan a order buyerScan sellerScan at_ signed isBuyer state =>
    refine backed.rewrite at_.found at_.here rfl ?_
    by_cases same : matched buyerScan sellerScan <;> simp [Order.isFunded,state,same]
  | release a after config order state settled => exact settled.backed backed fun held => by simp [Order.isFunded]
  | releaseAfterTimeout a after config order state late settled => exact settled.backed backed fun held => by simp [Order.isFunded]
  | dispute a after config order ground signed settled => exact settled.backed backed fun held => by simp [Order.isFunded]
  | resolve a toSeller after config order state signed isAdmin settled =>
    refine settled.backed backed fun held => ?_
    cases toSeller <;> simp [Order.isFunded]

theorem process_backed (backed : Backed s.escrow.orders s.tokens) (accepted : process instruction s = .ok after) :
    Backed after.escrow.orders after.tokens := by
  unfold process at accepted
  split at accepted
  · obtain ⟨-,sameEscrow,sameTokens,-⟩ := process_frame accepted
    rw [sameEscrow,sameTokens]
    exact backed
  · exact (process_change accepted).backed backed
  · simp only [processToken,bind_ok,pure_ok] at accepted
    obtain ⟨tokens,handled,rfl⟩ := accepted
    exact backed.credited fun key => token_call_untouched handled fun held found => backed.vault_unsigned found
  · simp only [processCore,bind_ok,pure_ok] at accepted
    obtain ⟨assets,-,rfl⟩ := accepted
    exact backed

theorem reachable_backed (reachable : Reachable s) : Backed s.escrow.orders s.tokens := by
  refine reachable_invariant (P := fun s => Backed s.escrow.orders s.tokens) ?_
    (fun instruction s after => process_backed) reachable
  intro f e
  refine ⟨?_,?_,?_,?_⟩
  all_goals intro key value found; cases found

-- The order a settling call pays out, and the order a reservation funds.
def payoutOf : EscrowCall → Option Pubkey
  | .release a => some a.order
  | .releaseAfterTimeout a => some a.order
  | .dispute a => some a.order
  | .resolve a _ => some a.order
  | _ => none

def reservationOf : EscrowCall → Option Pubkey
  | .reserve a _ => some a.order
  | _ => none

-- An accepted escrow instruction of the given kind on the given order.
def Performs (kind : EscrowCall → Option Pubkey) (instruction : Instruction) (s : Ledger) (key : Pubkey) : Prop :=
  ∃ call after, instruction.call = .escrow call ∧ kind call = some key ∧ process instruction s = .ok after

-- One payout: the whole vault goes to one token account of the party that the final state names.
structure Payout (s after : Ledger) (key : Pubkey) (order : Order) (vault : TokenAccount) (destination : Pubkey)
    (paid : TokenAccount) (final : OrderState) : Prop where
  orderFound : s.escrow.orders key = some order
  vaultFound : s.tokens (.vault key) = some vault
  enough : order.price ≤ vault.amount
  destinationFound : s.tokens destination = some paid
  apart : destination ≠ .vault key
  recipient : (final = .released ∧ paid.owner = order.seller) ∨ (final = .dispute ∧ paid.owner = order.buyer)
  settled : after.escrow.orders key = some {order with state := final, assetDeposited := false}
  closed : after.tokens (.vault key) = none
  whole : ∃ total : U64, total.val = paid.amount.val + vault.amount.val ∧
    after.tokens destination = some {paid with amount := total}
  others : ∀ other, other ≠ .vault key → other ≠ destination → after.tokens other = s.tokens other

theorem Settlement.payout (backed : Backed s.escrow.orders s.tokens) (funded : order.isFunded)
    (recipient : (final = .released ∧ payee = order.seller) ∨ (final = .dispute ∧ payee = order.buyer))
    (settled : Settlement s key order config destination payee assetTo final after) :
    ∃ vault paid, Payout s after key order vault destination paid final := by
  obtain ⟨asset,core,tokens,assets,drained,-,rfl⟩ := settled.written
  obtain ⟨account,accountFound,-,owner⟩ := settled.recipient
  obtain ⟨vault,vaultFound,-,enough⟩ := backed.backed key order settled.at_.found funded
  have positive := backed.priced key order settled.at_.found
  have closed := drained.closed
  cases drained with
  | empty held found _ nothing =>
    rw [found] at vaultFound
    cases Option.some.inj vaultFound
    have := Fin.le_def.mp enough
    omega
  | paid held paid total found _ something apart destinationFound adds =>
    rw [found] at vaultFound
    obtain rfl : held = vault := Option.some.inj vaultFound
    rw [destinationFound] at accountFound
    obtain rfl : paid = account := Option.some.inj accountFound
    refine ⟨held,paid,settled.at_.found,found,enough,destinationFound,apart,owner.symm ▸ recipient,Cells.put_self _ _ _,closed,
      ⟨total,adds,?_⟩,?_⟩
    · rw [Cells.erase_other _ apart,Cells.put_self]
    · intro other notVault notDestination
      rw [Cells.erase_other _ notVault,Cells.put_other _ _ notDestination]

-- Every payout starts from a funded order.
theorem Change.payout (backed : Backed s.escrow.orders s.tokens) (change : Change s now call after)
    (pays : payoutOf call = some key) :
    ∃ order vault destination paid final, order.isFunded ∧ Payout s after key order vault destination paid final := by
  cases change with
  | release a after config order state settled =>
    cases pays
    have funded : order.isFunded := by simp [Order.isFunded,state]
    obtain ⟨vault,paid,payout⟩ := settled.payout backed funded (.inl ⟨rfl,rfl⟩)
    exact ⟨order,vault,_,paid,_,funded,payout⟩
  | releaseAfterTimeout a after config order state late settled =>
    cases pays
    have funded : order.isFunded := by simp [Order.isFunded,state]
    obtain ⟨vault,paid,payout⟩ := settled.payout backed funded (.inl ⟨rfl,rfl⟩)
    exact ⟨order,vault,_,paid,_,funded,payout⟩
  | dispute a after config order ground signed settled =>
    cases pays
    have funded : order.isFunded := by
      rcases ground with ⟨-,state⟩ | ⟨-,state,-⟩ | ⟨-,state⟩
      · rcases state with state | state | state <;> simp [Order.isFunded,state]
      · rcases state with state | state <;> simp [Order.isFunded,state]
      · rcases state with state | state <;> simp [Order.isFunded,state]
    obtain ⟨vault,paid,payout⟩ := settled.payout backed funded (.inr ⟨rfl,rfl⟩)
    exact ⟨order,vault,_,paid,_,funded,payout⟩
  | resolve a toSeller after config order state signed isAdmin settled =>
    cases pays
    have funded : order.isFunded := by simp [Order.isFunded,state]
    have recipient : ((if toSeller then OrderState.released else .dispute) = .released ∧
          (if toSeller then order.seller else order.buyer) = order.seller) ∨
        ((if toSeller then OrderState.released else .dispute) = .dispute ∧
          (if toSeller then order.seller else order.buyer) = order.buyer) := by
      cases toSeller
      · exact .inr ⟨rfl,rfl⟩
      · exact .inl ⟨rfl,rfl⟩
    obtain ⟨vault,paid,payout⟩ := settled.payout backed funded recipient
    exact ⟨order,vault,_,paid,_,funded,payout⟩
  | _ => cases pays

theorem Settlement.others (settled : Settlement s key order config destination payee assetTo final after)
    (apart : other ≠ key) : Untouched s.tokens after.tokens (.vault other) ∧
      (Funded after.escrow.orders other ↔ Funded s.escrow.orders other) := by
  obtain ⟨asset,core,tokens,assets,drained,-,rfl⟩ := settled.written
  exact ⟨drained.others (vault_ne apart),by simp [apart]⟩

-- Apart from payouts and reservations of the order itself, an instruction neither funds nor unfunds it and never takes
-- from its vault.
theorem Change.quiet (backed : Backed s.escrow.orders s.tokens) (change : Change s now call after)
    (noPayout : payoutOf call ≠ some key) (noReservation : reservationOf call ≠ some key) :
    Untouched s.tokens after.tokens (.vault key) ∧ (Funded after.escrow.orders key ↔ Funded s.escrow.orders key) := by
  have same : Untouched s.tokens s.tokens (.vault key) := .of_eq rfl
  have rewritten : ∀ {target old new}, s.escrow.orders target = some old → new.isFunded = old.isFunded →
      (Funded (s.escrow.orders.put target new) key ↔ Funded s.escrow.orders key) := by
    intro target old new found sameFunded
    rw [funded_put]
    by_cases here : key = target
    · subst here
      simp [sameFunded,funded_found found]
    · simp [here]
  cases change with
  | initConfig => exact ⟨same,.rfl⟩
  | setDisputeWindow => exact ⟨same,.rfl⟩
  | list a price config passport registry configFound found registryFound signed here fresh =>
    refine ⟨same,?_⟩
    rw [funded_put]
    by_cases atOrder : key = a.order
    · subst atOrder
      simp [Order.isFunded,not_funded_of_none fresh]
    · simp [atOrder]
  | depositAsset a order assets at_ => exact ⟨same,rewritten at_.found rfl⟩
  | cancel a order assets at_ signed isSeller state =>
    exact ⟨same,rewritten at_.found (by simp [Order.isFunded,state])⟩
  | closeOrder a order at_ signed isSeller terminal =>
    refine ⟨same,?_⟩
    rw [funded_erase]
    by_cases atOrder : key = a.order
    · subst atOrder
      rw [funded_found at_.found]
      cases state : order.state <;> simp [Order.isFunded,Order.isTerminal,state] at terminal ⊢
    · simp [atOrder]
  | reserve a expectedPrice config order passport registry buyerToken created tokens configFound at_ signed paying ofMint ofBuyer
      passportFound registryFound state apart agreed valid entitled vault funded =>
    obtain ⟨left,-,-,-,rfl⟩ := reserve_moves backed at_.found state paying vault funded
    have elsewhere : key ≠ a.order := fun here => noReservation (congrArg some here.symm)
    exact ⟨reserve_others backed paying (ofBuyer.symm ▸ signed) elsewhere,by simp [elsewhere]⟩
  | recordPreShipScan a order scan at_ signed isSeller state =>
    exact ⟨same,rewritten at_.found (by simp [Order.isFunded,state])⟩
  | ship a order at_ signed isSeller state => exact ⟨same,rewritten at_.found (by simp [Order.isFunded,state])⟩
  | recordReceiptScan a order buyerScan sellerScan at_ signed isBuyer state =>
    refine ⟨same,rewritten at_.found ?_⟩
    by_cases agree : matched buyerScan sellerScan <;> simp [Order.isFunded,state,agree]
  | release a after config order state settled => exact settled.others fun here => noPayout (congrArg some here.symm)
  | releaseAfterTimeout a after config order state late settled =>
    exact settled.others fun here => noPayout (congrArg some here.symm)
  | dispute a after config order ground signed settled => exact settled.others fun here => noPayout (congrArg some here.symm)
  | resolve a toSeller after config order state signed isAdmin settled =>
    exact settled.others fun here => noPayout (congrArg some here.symm)

theorem Change.reservation (backed : Backed s.escrow.orders s.tokens) (change : Change s now call after)
    (reserves : reservationOf call = some key) :
    ∃ order source buyerToken, ∃ left : U64, s.escrow.orders key = some order ∧ ¬order.isFunded ∧ Funded after.escrow.orders key ∧
      s.tokens (.vault key) = none ∧ s.tokens source = some buyerToken ∧ left.val + order.price.val = buyerToken.amount.val ∧
      after.tokens source = some {buyerToken with amount := left} ∧
      ∃ vault, after.tokens (.vault key) = some vault ∧ vault.amount = order.price := by
  cases change with
  | reserve a expectedPrice config order passport registry buyerToken created tokens configFound at_ signed paying ofMint ofBuyer
      passportFound registryFound state apart agreed valid entitled vault funded =>
    cases reserves
    obtain ⟨left,taken,distinct,absent,rfl⟩ := reserve_moves backed at_.found state paying vault funded
    refine ⟨order,a.buyerToken,buyerToken,left,at_.found,by simp [Order.isFunded,state],by simp [Order.isFunded],absent,paying,
      taken,?_,_,Cells.put_self _ _ _,rfl⟩
    change (Cells.put _ _ _) a.buyerToken = _
    rw [Cells.put_other _ _ distinct,Cells.put_self]
  | _ => cases reserves

-- What one instruction does to one order's funding.
theorem execute_funding (backed : Backed s.escrow.orders s.tokens) (instruction : Instruction) (key : Pubkey) :
    Performs payoutOf instruction s key ∨ Performs reservationOf instruction s key ∨
      Untouched s.tokens (execute instruction s).tokens (.vault key) ∧
        (Funded (execute instruction s).escrow.orders key ↔ Funded s.escrow.orders key) := by
  rcases execute_cases instruction s with same | accepted
  · rw [same]
    exact .inr (.inr ⟨.of_eq rfl,.rfl⟩)
  generalize execute instruction s = after at accepted ⊢
  have handled := accepted
  unfold process at handled
  split at handled
  · obtain ⟨-,sameEscrow,sameTokens,-⟩ := process_frame handled
    rw [sameEscrow,sameTokens]
    exact .inr (.inr ⟨.of_eq rfl,.rfl⟩)
  · rename_i call called
    by_cases pays : payoutOf call = some key
    · exact .inl ⟨call,after,called,pays,accepted⟩
    · by_cases reserves : reservationOf call = some key
      · exact .inr (.inl ⟨call,after,called,reserves,accepted⟩)
      · exact .inr (.inr ((process_change handled).quiet backed pays reserves))
  · simp only [processToken,bind_ok,pure_ok] at handled
    obtain ⟨tokens,moved,rfl⟩ := handled
    exact .inr (.inr ⟨token_call_untouched moved fun held found => backed.vault_unsigned found,.rfl⟩)
  · simp only [processCore,bind_ok,pure_ok] at handled
    obtain ⟨assets,-,rfl⟩ := handled
    exact .inr (.inr ⟨.of_eq rfl,.rfl⟩)

theorem performs_change (performs : Performs kind instruction s key) :
    ∃ call, kind call = some key ∧ Change s instruction.now call (execute instruction s) := by
  obtain ⟨call,after,called,ofKind,accepted⟩ := performs
  rw [execute_of_accepted accepted]
  simp only [process,called] at accepted
  exact ⟨call,ofKind,process_change accepted⟩

theorem payout_not_reservation (pays : Performs payoutOf instruction s key) : ¬Performs reservationOf instruction s other := by
  rintro ⟨second,-,called,reserves,-⟩
  obtain ⟨first,-,calledFirst,paysOut,-⟩ := pays
  rw [called] at calledFirst
  cases calledFirst
  cases second <;> cases paysOut <;> cases reserves

section Law
variable (run : Run)

def PaysOutAt (n : ℕ) (key : Pubkey) : Prop :=
  Performs payoutOf (run.schedule n) (run.ledger n) key

def ReservesAt (n : ℕ) (key : Pubkey) : Prop :=
  Performs reservationOf (run.schedule n) (run.ledger n) key

theorem backed_at (n : ℕ) : Backed (run.ledger n).escrow.orders
    (run.ledger n).tokens :=
  reachable_backed ⟨run,n,rfl⟩

theorem payout_at {n : ℕ} {key : Pubkey} (pays : PaysOutAt run n key) :
    ∃ order vault destination paid final, order.isFunded ∧
      Payout (run.ledger n) (run.ledger (n+1)) key
        order vault destination paid final := by
  obtain ⟨call,settles,change⟩ := performs_change pays
  exact change.payout (backed_at run n) settles

theorem funded_switch (n : ℕ) (key : Pubkey) :
    (¬Funded (run.ledger n).escrow.orders key →
      Funded (run.ledger (n+1)).escrow.orders key →
      ReservesAt run n key) ∧
    (PaysOutAt run n key →
      Funded (run.ledger n).escrow.orders key ∧
      ¬Funded (run.ledger (n+1)).escrow.orders key) ∧
    (ReservesAt run n key →
      ¬Funded (run.ledger n).escrow.orders key) := by
  have backed := backed_at run n
  have unfunds : PaysOutAt run n key →
      Funded (run.ledger n).escrow.orders key ∧
      ¬Funded (run.ledger (n+1)).escrow.orders key := by
    intro pays
    obtain ⟨order,vault,destination,paid,final,funded,payout⟩ := payout_at run pays
    refine ⟨(funded_found payout.orderFound).mpr funded,?_⟩
    rw [funded_found payout.settled]
    rcases payout.recipient with ⟨rfl,-⟩ | ⟨rfl,-⟩ <;> simp [Order.isFunded]
  refine ⟨?_,unfunds,?_⟩
  · intro unfunded funded
    rcases execute_funding backed (run.schedule n) key with pays | reserves | ⟨-,same⟩
    · exact absurd funded (unfunds pays).2
    · exact reserves
    · exact absurd (same.mp funded) unfunded
  · intro reserves
    obtain ⟨call,ofKind,change⟩ := performs_change reserves
    obtain ⟨order,source,buyerToken,left,found,unfunded,-⟩ := change.reservation backed ofKind
    rw [funded_found found]
    exact unfunded

-- Between a payout and the reservation that funded it the order has been funded all along, so there is neither another
-- payout nor another reservation between the two.
theorem payout_has_own_reservation {j : ℕ} {key : Pubkey} (pays : PaysOutAt run j key) :
    ∃ r < j, ReservesAt run r key ∧
      ∀ m, r < m → m < j → ¬PaysOutAt run m key ∧
        ¬ReservesAt run m key := by
  have funded := ((funded_switch run j key).2.1 pays).1
  have initially : ¬Funded (run.ledger 0).escrow.orders key :=
    not_funded_of_none rfl
  obtain ⟨r,-,before,off,on⟩ :=
    Runs.switched_on (P := fun s : Ledger => Funded s.escrow.orders key) (Nat.zero_le j) initially funded
  refine ⟨r,before,(funded_switch run r key).1 off (on (r+1) (by omega) before),?_⟩
  intro m after within
  have held := on m after (by omega)
  have next := on (m+1) (by omega) within
  refine ⟨fun paysOut => ?_,fun reserves => ?_⟩
  · exact ((funded_switch run m key).2.1 paysOut).2 next
  · exact (funded_switch run m key).2.2 reserves held

-- Money conservation of the escrow, over every run: the vault of an order exists exactly while the order is funded and
-- covers the price; every payout has a reservation of its own and moves the whole balance to one account of the seller
-- or of the buyer; nothing else ever takes from a vault.
theorem vault_conservation :
    (∀ n key order, (run.ledger n).escrow.orders key = some order →
      ((∃ vault, (run.ledger n).tokens (.vault key) = some vault) ↔ order.isFunded) ∧
      ∀ vault, (run.ledger n).tokens (.vault key) = some vault →
        order.price ≤ vault.amount) ∧
    (∀ n key, ReservesAt run n key →
      ∃ order source buyerToken vault, ∃ left : U64, (run.ledger n).escrow.orders key = some order ∧
        (run.ledger n).tokens (.vault key) = none ∧ (run.ledger (n+1)).tokens (.vault key) = some vault ∧
        vault.amount = order.price ∧ (run.ledger n).tokens source = some buyerToken ∧
        left.val + order.price.val = buyerToken.amount.val ∧
        (run.ledger (n+1)).tokens source = some {buyerToken with amount := left}) ∧
    (∀ n key, PaysOutAt run n key →
      (∃ order vault destination paid final, Payout (run.ledger n)
        (run.ledger (n+1)) key order vault destination paid final) ∧
      ∃ r < n, ReservesAt run r key ∧
        ∀ m, r < m → m < n → ¬PaysOutAt run m key ∧
          ¬ReservesAt run m key) ∧
    (∀ i j key, i < j → PaysOutAt run i key →
      PaysOutAt run j key →
      ∃ r, i < r ∧ r < j ∧ ReservesAt run r key) ∧
    ∀ n key, ¬PaysOutAt run n key →
      ¬ReservesAt run n key →
      Untouched (run.ledger n).tokens
        (run.ledger (n+1)).tokens (.vault key) := by
  refine ⟨?_,?_,?_,?_,?_⟩
  · intro n key order found
    have backed := backed_at run n
    refine ⟨⟨?_,?_⟩,?_⟩
    · rintro ⟨vault,there⟩
      exact (funded_found found).mp (backed.hosted key vault there)
    · intro funded
      obtain ⟨vault,there,-⟩ := backed.backed key order found funded
      exact ⟨vault,there⟩
    · intro vault there
      have funded := (funded_found found).mp (backed.hosted key vault there)
      obtain ⟨held,here,-,enough⟩ := backed.backed key order found funded
      rw [there] at here
      cases Option.some.inj here
      exact enough
  · intro n key reserves
    obtain ⟨call,ofKind,change⟩ := performs_change reserves
    obtain ⟨order,source,buyerToken,left,found,-,-,absent,paying,taken,paid,vault,opened,amount⟩ :=
      change.reservation (backed_at run n) ofKind
    exact ⟨order,source,buyerToken,vault,left,found,absent,opened,amount,paying,taken,paid⟩
  · intro n key pays
    obtain ⟨order,vault,destination,paid,final,-,payout⟩ := payout_at run pays
    exact ⟨⟨order,vault,destination,paid,final,payout⟩,payout_has_own_reservation run pays⟩
  · intro i j key ordered first second
    obtain ⟨r,before,reserves,quiet⟩ := payout_has_own_reservation run second
    refine ⟨r,?_,before,reserves⟩
    rcases Nat.lt_trichotomy i r with earlier | same | later
    · exact earlier
    · subst same
      exact absurd reserves (payout_not_reservation first)
    · exact absurd first (quiet i later ordered).1
  · intro n key noPayout noReservation
    rcases execute_funding (backed_at run n) (run.schedule n) key with
      pays | reserves | ⟨untouched,-⟩
    · exact absurd pays noPayout
    · exact absurd reserves noReservation
    · exact untouched

end Law

end FlaconVault.Escrow
