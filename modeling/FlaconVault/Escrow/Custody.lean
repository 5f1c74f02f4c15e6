import FlaconVault.Escrow.Payments
namespace FlaconVault.Escrow
open Guards Flacon

theorem core_transfer_parts (accepted : Core.transfer assets asset authority newOwner = .ok after) :
    assets asset = some authority ∧ after = assets.put asset newOwner := by
  simp only [Core.transfer,bind_ok,orRefuse_ok,require_ok,exists_const,pure_ok] at accepted
  obtain ⟨owner,found,rfl,rfl⟩ := accepted
  exact ⟨found,rfl⟩

-- What returning a deposited asset does: nothing without one, else the asset leaves the Order address.
theorem returned_parts (returned : returnAsset s orderKey order asset core newOwner = .ok assets) :
    (order.assetDeposited = false ∧ assets = s.assets) ∨
      (order.assetDeposited = true ∧ s.assets order.asset = some orderKey ∧ assets = s.assets.put order.asset newOwner) := by
  unfold returnAsset at returned
  split at returned
  · rename_i deposited
    split at returned
    · rename_i asset core
      simp only [transferV1,bind_ok,require_ok,exists_const] at returned
      obtain ⟨isAsset,-,-,moved⟩ := returned
      obtain ⟨owned,written⟩ := core_transfer_parts moved
      rw [isAsset] at owned written
      exact .inr ⟨deposited,owned,written⟩
    · cases returned
  · rename_i undeposited
    exact .inl ⟨by simpa using undeposited,(Except.ok.inj returned).symm⟩

-- Which assets move: those whose owner signs for them, or the Order address through its own instruction.
def AssetsMoved (s after : Cells Pubkey Pubkey) (key : Option Pubkey) : Prop :=
  after = s ∨ ∃ asset owner value, s asset = some owner ∧ (owner.canSign ∨ key = some owner) ∧ after = s.write asset value

theorem AssetsMoved.kept (moved : AssetsMoved s after key) (owned : s asset = some owner) (unsigned : ¬owner.canSign)
    (apart : key ≠ some owner) : after asset = some owner := by
  rcases moved with rfl | ⟨other,mover,value,held,allowed,rfl⟩
  · exact owned
  · by_cases here : asset = other
    · subst here
      rw [owned] at held
      cases Option.some.inj held
      rcases allowed with signs | same
      · exact absurd signs unsigned
      · exact absurd same apart
    · simp [Cells.write,here,owned]

theorem returned_moved (returned : returnAsset s orderKey order asset core newOwner = .ok assets) :
    AssetsMoved s.assets assets (some orderKey) := by
  rcases returned_parts returned with ⟨-,same⟩ | ⟨-,owned,written⟩
  · exact .inl same
  · exact .inr ⟨_,_,_,owned,.inr rfl,written⟩

theorem Settlement.moved (settled : Settlement s orderKey order config destination payee assetTo final after) :
    AssetsMoved s.assets after.assets (some orderKey) := by
  obtain ⟨asset,core,tokens,assets,-,returned,rfl⟩ := settled.written
  exact returned_moved returned

theorem Change.assets_moved (change : Change s now call after) : AssetsMoved s.assets after.assets (orderOf call) := by
  cases change with
  | depositAsset a order assets at_ signed isSeller state notYet moved =>
    obtain ⟨owned,written⟩ := core_transfer_parts moved
    exact .inr ⟨_,_,_,owned,.inl signed,written⟩
  | cancel a order assets at_ signed isSeller state returned => exact returned_moved returned
  | release a after config order state settled => exact settled.moved
  | releaseAfterTimeout a after config order state late settled => exact settled.moved
  | dispute a after config order ground signed settled => exact settled.moved
  | resolve a toSeller after config order state signed isAdmin settled => exact settled.moved
  | _ => exact .inl rfl

theorem core_call_moved (accepted : Core.handle assets call = .ok after) (key : Option Pubkey) (owned : assets asset = some owner)
    (unsigned : ¬owner.canSign) (apart : key ≠ some owner) : after asset = some owner := by
  cases call with
  | create other newOwner =>
    simp only [Core.handle,bind_ok,require_ok,exists_const,pure_ok] at accepted
    obtain ⟨-,fresh,rfl⟩ := accepted
    rw [Cells.put_other]
    · exact owned
    · rintro rfl
      rw [owned] at fresh
      cases fresh
  | transfer other authority newOwner =>
    simp only [Core.handle,bind_ok,require_ok,exists_const] at accepted
    obtain ⟨signs,moved⟩ := accepted
    obtain ⟨held,written⟩ := core_transfer_parts moved
    refine AssetsMoved.kept ?_ owned unsigned apart
    exact .inr ⟨_,_,_,held,.inl signs,written⟩
  | burn other authority =>
    simp only [Core.handle,bind_ok,orRefuse_ok,require_ok,exists_const,pure_ok] at accepted
    obtain ⟨signs,holder,held,rfl,rfl⟩ := accepted
    refine AssetsMoved.kept ?_ owned unsigned apart
    exact .inr ⟨_,_,_,held,.inl signs,rfl⟩

-- An asset at an address nobody can sign for moves only through an escrow instruction on the order of this address.
theorem asset_kept (accepted : process instruction s = .ok after) (owned : s.assets asset = some owner) (unsigned : ¬owner.canSign) :
    after.assets asset = some owner ∨ ∃ call, instruction.call = .escrow call ∧ orderOf call = some owner := by
  obtain ⟨call,now⟩ := instruction
  cases call with
  | flacon call =>
    obtain ⟨-,-,-,same⟩ := process_frame (show processFlacon s now call = .ok after from accepted)
    exact .inl (same ▸ owned)
  | escrow call =>
    have change := process_change (show processEscrow s now call = .ok after from accepted)
    by_cases here : orderOf call = some owner
    · exact .inr ⟨call,rfl,here⟩
    · exact .inl (change.assets_moved.kept owned unsigned here)
  | token call =>
    simp only [process,processToken,bind_ok,pure_ok] at accepted
    obtain ⟨tokens,-,rfl⟩ := accepted
    exact .inl owned
  | core call =>
    simp only [process,processCore,bind_ok,pure_ok] at accepted
    obtain ⟨assets,handled,rfl⟩ := accepted
    refine .inl (core_call_moved handled none owned unsigned ?_)
    intro same
    cases same

-- Where a deposited asset goes when its order reaches a final state.
def AssetTo (order : Order) (final : OrderState) (recipient : Pubkey) : Prop :=
  final = .released ∧ recipient = order.buyer ∨ (final = .dispute ∨ final = .cancelled) ∧ recipient = order.seller

-- What an escrow instruction does to the order it writes and to the asset of this order.
inductive OrderWrite (s after : Ledger) (call : EscrowCall) (key : Pubkey) : Prop where
  | created (new : Order) (fresh : s.escrow.orders key = none) (written : after.escrow.orders key = some new)
      (listed : new.state = .listed) (bare : new.assetDeposited = false) (passport : Passport)
      (ofPassport : s.flacon.passports new.passport = some passport) (isAsset : new.asset = passport.asset)
  | closed (old : Order) (found : s.escrow.orders key = some old) (terminal : old.isTerminal = true)
      (erased : after.escrow.orders key = none)
  | kept (old new : Order) (found : s.escrow.orders key = some old) (written : after.escrow.orders key = some new)
      (asset : new.asset = old.asset) (passport : new.passport = old.passport) (seller : new.seller = old.seller)
      (flag : new.assetDeposited = old.assetDeposited) (pending : new.isTerminal = false) (still : after.assets = s.assets)
  | deposited (a : DepositAsset) (old : Order) (called : call = .depositAsset a) (isSeller : old.seller = a.seller)
      (found : s.escrow.orders key = some old) (listed : old.state = .listed)
      (written : after.escrow.orders key = some {old with assetDeposited := true}) (held : after.assets old.asset = some key)
  | settled (old : Order) (final : OrderState) (recipient : Pubkey) (found : s.escrow.orders key = some old)
      (written : after.escrow.orders key = some {old with state := final, assetDeposited := false})
      (goes : AssetTo old final recipient) (gone : old.assetDeposited = true → after.assets old.asset = some recipient)

theorem returned_to (returned : returnAsset s orderKey order asset core newOwner = .ok assets) :
    order.assetDeposited = true → assets order.asset = some newOwner := by
  intro deposited
  rcases returned_parts returned with ⟨undeposited,-⟩ | ⟨-,-,rfl⟩
  · rw [deposited] at undeposited
    cases undeposited
  · exact Cells.put_self _ _ _

theorem Settlement.write (settled : Settlement s key order config destination payee assetTo final after)
    (goes : AssetTo order final assetTo) : OrderWrite s after call key := by
  have written := settled.order_settled
  obtain ⟨asset,core,tokens,assets,-,returned,rfl⟩ := settled.written
  exact .settled order final assetTo settled.at_.found written goes (returned_to returned)

theorem Change.order_write (change : Change s now call after) (here : orderOf call = some key) : OrderWrite s after call key := by
  cases change with
  | initConfig => cases here
  | setDisputeWindow => cases here
  | list a price config passport registry configFound found registryFound signed at_ fresh =>
    cases here
    exact .created _ fresh (Cells.put_self _ _ _) rfl rfl passport found rfl
  | depositAsset a order assets at_ signed isSeller state notYet moved =>
    cases here
    obtain ⟨-,written⟩ := core_transfer_parts moved
    exact .deposited a order rfl isSeller at_.found state (Cells.put_self _ _ _) (by rw [written]; exact Cells.put_self _ _ _)
  | cancel a order assets at_ signed isSeller state returned =>
    cases here
    exact .settled order .cancelled order.seller at_.found (Cells.put_self _ _ _) (.inr ⟨.inr rfl,rfl⟩)
      (isSeller ▸ returned_to returned)
  | closeOrder a order at_ signed isSeller terminal =>
    cases here
    exact .closed order at_.found terminal (Cells.erase_self _ _)
  | reserve a expectedPrice config order passport registry buyerToken created tokens configFound at_ =>
    cases here
    exact .kept order _ at_.found (Cells.put_self _ _ _) rfl rfl rfl rfl rfl rfl
  | recordPreShipScan a order scan at_ =>
    cases here
    exact .kept order _ at_.found (Cells.put_self _ _ _) rfl rfl rfl rfl rfl rfl
  | ship a order at_ =>
    cases here
    exact .kept order _ at_.found (Cells.put_self _ _ _) rfl rfl rfl rfl rfl rfl
  | recordReceiptScan a order buyerScan sellerScan at_ =>
    cases here
    refine .kept order _ at_.found (Cells.put_self _ _ _) rfl rfl rfl rfl ?_ rfl
    by_cases same : matched buyerScan sellerScan <;> simp [Order.isTerminal,same]
  | release a after config order state settled =>
    cases here
    exact settled.write (.inl ⟨rfl,rfl⟩)
  | releaseAfterTimeout a after config order state late settled =>
    cases here
    exact settled.write (.inl ⟨rfl,rfl⟩)
  | dispute a after config order ground signed settled =>
    cases here
    exact settled.write (.inr ⟨.inl rfl,rfl⟩)
  | resolve a toSeller after config order state signed isAdmin settled =>
    cases here
    cases toSeller with
    | true => exact settled.write (.inl ⟨rfl,rfl⟩)
    | false => exact settled.write (.inr ⟨.inl rfl,rfl⟩)

-- Custody: the flag says truly that the Order address owns the asset, and a final order never has it set.
structure InCustody (key : Pubkey) (order : Order) (assets : Cells Pubkey Pubkey) : Prop where
  held : order.assetDeposited = true → assets order.asset = some key
  clear : order.isTerminal = true → order.assetDeposited = false

theorem OrderWrite.custody (write : OrderWrite s after call key)
    (custody : ∀ order, s.escrow.orders key = some order → InCustody key order s.assets) :
    ∀ order, after.escrow.orders key = some order → InCustody key order after.assets := by
  intro order there
  cases write with
  | created new fresh written listed bare =>
    cases Option.some.inj (written.symm.trans there)
    exact ⟨fun deposited => absurd (bare.symm.trans deposited) Bool.false_ne_true,fun _ => bare⟩
  | closed old found terminal erased =>
    rw [erased] at there
    cases there
  | kept old new found written asset passport seller flag pending still =>
    cases Option.some.inj (written.symm.trans there)
    refine ⟨?_,fun terminal => absurd (pending.symm.trans terminal) Bool.false_ne_true⟩
    intro deposited
    rw [still,asset]
    exact (custody old found).held (flag ▸ deposited)
  | deposited a old called isSeller found listed written held =>
    cases Option.some.inj (written.symm.trans there)
    exact ⟨fun _ => held,fun terminal => by simp [Order.isTerminal,listed] at terminal⟩
  | settled old final recipient found written goes gone =>
    cases Option.some.inj (written.symm.trans there)
    constructor
    · intro deposited
      cases deposited
    · intro _
      rfl

-- A step that does not write the order leaves it in custody.
def UnwrittenAt (run : Run) (n : ℕ) (key : Pubkey) : Prop :=
  (run.ledger (n+1)).escrow.orders key = (run.ledger n).escrow.orders key ∧
    ∀ asset, ¬key.canSign → (run.ledger n).assets asset = some key → (run.ledger (n+1)).assets asset = some key

theorem unwritten_or_write (run : Run) (n : ℕ) (key : Pubkey) :
    UnwrittenAt run n key ∨ ∃ call, Executes run n call ∧ orderOf call = some key ∧
      OrderWrite (run.ledger n) (run.ledger (n+1)) call key := by
  by_cases writes : ∃ call, Executes run n call ∧ orderOf call = some key
  · obtain ⟨call,executes,here⟩ := writes
    exact .inr ⟨call,executes,here,executes.2.order_write here⟩
  · refine .inl ⟨?_,?_⟩
    · rcases order_step run n key with same | written
      · exact same
      · exact absurd written writes
    · intro asset unsigned owned
      rw [run.ledger_succ]
      rcases execute_cases (run.schedule n) (run.ledger n) with same | accepted
      · rw [same]
        exact owned
      · rcases asset_kept accepted owned unsigned with kept | ⟨call,called,here⟩
        · exact kept
        · exact absurd ⟨call,Executes.intro called accepted,here⟩ writes

theorem order_unsigned (run : Run) (n : ℕ) (found : (run.ledger n).escrow.orders key = some order) : ¬key.canSign := by
  rw [(backed_at run n).orderHere key order found]
  exact nofun

theorem custody_at (run : Run) (n : ℕ) (key : Pubkey) :
    ∀ order, (run.ledger n).escrow.orders key = some order → InCustody key order (run.ledger n).assets := by
  induction n with
  | zero =>
    intro order found
    cases found
  | succ n ih =>
    rcases unwritten_or_write run n key with ⟨same,kept⟩ | ⟨call,-,-,write⟩
    · intro order found
      rw [same] at found
      obtain ⟨held,clear⟩ := ih order found
      exact ⟨fun deposited => kept _ (order_unsigned run n found) (held deposited),clear⟩
    · exact write.custody ih

-- What can happen to a deposited asset in one step: it stays in custody, or its order is settled and it goes to the
-- one who is entitled to it.
inductive CustodyStep (run : Run) (n : ℕ) (key : Pubkey) (order : Order) : Prop where
  | stays (later : Order) (found : (run.ledger (n+1)).escrow.orders key = some later) (deposited : later.assetDeposited = true)
      (asset : later.asset = order.asset) (pending : later.isTerminal = false)
      (held : (run.ledger (n+1)).assets order.asset = some key)
  | settled (final : OrderState) (recipient : Pubkey)
      (found : (run.ledger (n+1)).escrow.orders key = some {order with state := final, assetDeposited := false})
      (goes : AssetTo order final recipient) (held : (run.ledger (n+1)).assets order.asset = some recipient)

theorem custody_step (run : Run) (n : ℕ) (found : (run.ledger n).escrow.orders key = some order)
    (deposited : order.assetDeposited = true) : CustodyStep run n key order := by
  have custody := custody_at run n key order found
  have pending : order.isTerminal = false := by
    by_contra terminal
    exact absurd ((custody.clear (by simpa using terminal)).symm.trans deposited) Bool.false_ne_true
  rcases unwritten_or_write run n key with ⟨same,kept⟩ | ⟨call,-,-,write⟩
  · exact .stays order (same.trans found) deposited rfl pending (kept _ (order_unsigned run n found) (custody.held deposited))
  · cases write with
    | created new fresh =>
      rw [found] at fresh
      cases fresh
    | closed old there terminal =>
      cases Option.some.inj (found.symm.trans there)
      exact absurd (pending.symm.trans terminal) Bool.false_ne_true
    | kept old new there written asset passport seller flag open_ still =>
      cases Option.some.inj (found.symm.trans there)
      exact .stays new written (flag.trans deposited) asset open_ (by rw [still]; exact custody.held deposited)
    | deposited a old called isSeller there listed written held =>
      cases Option.some.inj (found.symm.trans there)
      exact .stays _ written rfl rfl (by simp [Order.isTerminal,listed]) held
    | settled old final recipient there written goes gone =>
      cases Option.some.inj (found.symm.trans there)
      exact .settled final recipient written goes (gone deposited)

-- Asset custody over every run.
theorem asset_custody (run : Run) :
    (∀ n key order, (run.ledger n).escrow.orders key = some order → order.assetDeposited = true →
      (run.ledger n).assets order.asset = some key) ∧
    (∀ n key other first second, (run.ledger n).escrow.orders key = some first → (run.ledger n).escrow.orders other = some second →
      first.assetDeposited = true → second.assetDeposited = true → first.asset = second.asset → key = other) ∧
    (∀ n key order, (run.ledger n).escrow.orders key = some order → order.isTerminal = true → order.assetDeposited = false) ∧
    (∀ n a order, Executes run n (.closeOrder a) → (run.ledger n).escrow.orders a.order = some order → order.assetDeposited = false) ∧
    ∀ n key order, (run.ledger n).escrow.orders key = some order → order.assetDeposited = true → CustodyStep run n key order := by
  refine ⟨?_,?_,?_,?_,?_⟩
  · intro n key order found deposited
    exact (custody_at run n key order found).held deposited
  · intro n key other first second found found' deposited deposited' same
    have held := (custody_at run n key first found).held deposited
    rw [same,(custody_at run n other second found').held deposited'] at held
    exact (Option.some.inj held).symm
  · intro n key order found terminal
    exact (custody_at run n key order found).clear terminal
  · intro n a order executes found
    obtain ⟨-,change⟩ := executes
    generalize run.ledger (n+1) = after at change
    cases change with
    | closeOrder _ old at_ signed isSeller terminal =>
      cases Option.some.inj (found.symm.trans at_.found)
      exact (custody_at run n a.order order found).clear terminal
  · intro n key order found deposited
    exact custody_step run n found deposited

-- The seller put the asset into the custody of this order at instruction number `m`, and it has been there since.
structure DepositedSince (run : Run) (n : ℕ) (key : Pubkey) (order : Order) (m : ℕ) : Prop where
  before : m < n
  deposit : ∃ a, Executes run m (.depositAsset a) ∧ a.order = key ∧ a.seller = order.seller ∧ a.seller.canSign
  held : ∀ i, m < i → i ≤ n → (run.ledger i).assets order.asset = some key

theorem DepositedSince.next (since : DepositedSince run n key order m) (asset : later.asset = order.asset)
    (seller : later.seller = order.seller) (held : (run.ledger (n+1)).assets later.asset = some key) :
    DepositedSince run (n+1) key later m := by
  refine ⟨Nat.lt_succ_of_lt since.before,?_,?_⟩
  · obtain ⟨a,executes,here,isSeller,signed⟩ := since.deposit
    exact ⟨a,executes,here,isSeller.trans seller.symm,signed⟩
  · intro i above within
    rcases Nat.lt_or_ge n i with beyond | inside
    · have last : i = n+1 := by omega
      exact last ▸ held
    · exact asset ▸ since.held i above inside

theorem deposit_signed (executes : Executes run n (.depositAsset a)) : a.seller.canSign := by
  obtain ⟨-,change⟩ := executes
  generalize run.ledger (n+1) = after at change
  cases change with
  | depositAsset _ order assets at_ signed => exact signed

theorem deposited_since (run : Run) (n : ℕ) (key : Pubkey) : ∀ order, (run.ledger n).escrow.orders key = some order →
    order.assetDeposited = true → ∃ m, DepositedSince run n key order m := by
  induction n with
  | zero =>
    intro order found
    cases found
  | succ n ih =>
    intro order found deposited
    have held := (custody_at run (n+1) key order found).held deposited
    rcases unwritten_or_write run n key with ⟨same,-⟩ | ⟨call,executes,here,write⟩
    · rw [same] at found
      obtain ⟨m,since⟩ := ih order found deposited
      exact ⟨m,since.next rfl rfl held⟩
    · cases write with
      | created new fresh written listed bare =>
        cases Option.some.inj (written.symm.trans found)
        exact absurd (bare.symm.trans deposited) Bool.false_ne_true
      | closed old there terminal erased =>
        rw [erased] at found
        cases found
      | kept old new there written asset passport seller flag pending still =>
        cases Option.some.inj (written.symm.trans found)
        obtain ⟨m,since⟩ := ih old there (flag ▸ deposited)
        exact ⟨m,since.next asset seller held⟩
      | deposited a old called isSeller there listed written owned =>
        cases Option.some.inj (written.symm.trans found)
        subst called
        refine ⟨n,Nat.lt_succ_self n,⟨a,executes,Option.some.inj here,isSeller.symm,deposit_signed executes⟩,?_⟩
        intro i above within
        have last : i = n+1 := by omega
        exact last ▸ held
      | settled old final recipient there written =>
        cases Option.some.inj (written.symm.trans found)
        cases deposited

-- An order is about the asset of its passport.
theorem order_asset (run : Run) (n : ℕ) (key : Pubkey) : ∀ order, (run.ledger n).escrow.orders key = some order →
    ∃ passport, (run.ledger n).flacon.passports order.passport = some passport ∧ order.asset = passport.asset := by
  have later : ∀ {n : ℕ} {order : Order}, (∃ passport, (run.ledger n).flacon.passports order.passport = some passport ∧
      order.asset = passport.asset) →
      ∃ passport, (run.ledger (n+1)).flacon.passports order.passport = some passport ∧ order.asset = passport.asset := by
    intro n order ⟨passport,known,isAsset⟩
    obtain ⟨kept,still,-,-,same,-⟩ := (grows_at (Nat.le_succ n)).passports _ passport known
    exact ⟨kept,still,isAsset.trans same.symm⟩
  induction n with
  | zero =>
    intro order found
    cases found
  | succ n ih =>
    intro order found
    rcases unwritten_or_write run n key with ⟨same,-⟩ | ⟨call,-,-,write⟩
    · exact later (ih order (same ▸ found))
    · cases write with
      | created new fresh written listed bare passport ofPassport isAsset =>
        cases Option.some.inj (written.symm.trans found)
        exact later ⟨passport,ofPassport,isAsset⟩
      | closed old there terminal erased =>
        rw [erased] at found
        cases found
      | kept old new there written asset passport seller flag pending still =>
        cases Option.some.inj (written.symm.trans found)
        have known := later (ih old there)
        rw [← passport,← asset] at known
        exact known
      | deposited a old called isSeller there listed written held =>
        cases Option.some.inj (written.symm.trans found)
        exact later (ih old there)
      | settled old final recipient there written goes gone =>
        cases Option.some.inj (written.symm.trans found)
        exact later (ih old there)

-- Why the seller of an order may sell at the moment of a reservation.
inductive Rightful (run : Run) (n : ℕ) (key : Pubkey) (order : Order) (passport : Passport) (registry : Registry) : Prop where
  | owner (owned : (run.ledger n).assets passport.asset = some order.seller) : Rightful run n key order passport registry
  | custody (m : ℕ) (deposited : order.assetDeposited = true) (isAsset : order.asset = passport.asset)
      (since : DepositedSince run n key order m) (held : (run.ledger n).assets passport.asset = some key) :
      Rightful run n key order passport registry
  | issuer (uncored : (run.ledger n).assets passport.asset = none) (issued : passport.issuer = order.seller)
      (active : registry.isPartnerOrAuthority order.seller = true) : Rightful run n key order passport registry

theorem check_seller_parts (accepted : checkSellerOf s seller passport asset registry = .ok done) :
    s.assets asset = some seller ∨ s.assets asset = none ∧ passport.issuer = seller ∧ registry.isPartnerOrAuthority seller = true := by
  simp only [checkSellerOf,checkSeller,require_ok] at accepted
  cases owned : s.assets asset with
  | some owner =>
    rw [owned] at accepted
    exact .inl (congrArg some (by simpa using accepted))
  | none =>
    rw [owned] at accepted
    simp only [Bool.and_eq_true,beq_iff_eq] at accepted
    exact .inr ⟨rfl,accepted.1,accepted.1 ▸ accepted.2⟩

-- What a successful reservation has checked.
structure RightfulReserve (run : Run) (n : ℕ) (a : Reserve) (price : U64) (order : Order) (passport : Passport)
    (registry : Registry) : Prop where
  orderFound : (run.ledger n).escrow.orders a.order = some order
  passportFound : (run.ledger n).flacon.passports order.passport = some passport
  registryFound : (run.ledger n).flacon.registry = some registry
  signed : a.buyer.canSign = true
  apart : a.buyer ≠ order.seller
  agreed : order.price = price
  valid : passport.void = false ∧ passport.grade ≠ .void
  rightful : Rightful run n a.order order passport registry

theorem reserve_rightful {run : Run} {n : ℕ} {a : Reserve} {price : U64} (executes : Executes run n (.reserve a price)) :
    ∃ order passport registry, RightfulReserve run n a price order passport registry := by
  obtain ⟨-,change⟩ := executes
  generalize run.ledger (n+1) = after at change
  cases change with
  | reserve _ _ config order passport registry buyerToken created tokens configFound at_ signed buyerTokenFound ofMint ofBuyer
      passportFound registryFound state apart agreed valid entitled vault funded =>
    refine ⟨order,passport,registry,at_.found,passportFound,registryFound,signed,apart,agreed,⟨by simpa using valid.1,valid.2⟩,?_⟩
    obtain ⟨known,there,isAsset⟩ := order_asset run n a.order order at_.found
    cases Option.some.inj (passportFound.symm.trans there)
    rcases entitled with deposited | checked
    · obtain ⟨m,since⟩ := deposited_since run n a.order order at_.found deposited
      have held := (custody_at run n a.order order at_.found).held deposited
      exact .custody m deposited isAsset since (isAsset ▸ held)
    · rw [isAsset] at checked
      rcases check_seller_parts checked with owned | ⟨uncored,issued,active⟩
      · exact .owner owned
      · exact .issuer uncored issued active

-- Only a rightful seller's order can be bought, over every run; in particular not that of a seller who gave the asset
-- away after listing, nor that of a removed partner without a Core asset.
theorem only_rightful_sellers (run : Run) :
    (∀ n a price, Executes run n (.reserve a price) →
      ∃ order passport registry, RightfulReserve run n a price order passport registry) ∧
    (∀ n a price order passport owner, (run.ledger n).escrow.orders a.order = some order →
      (run.ledger n).flacon.passports order.passport = some passport → (run.ledger n).assets passport.asset = some owner →
      owner ≠ order.seller → owner ≠ a.order → ¬Executes run n (.reserve a price)) ∧
    ∀ n a price order passport registry, (run.ledger n).escrow.orders a.order = some order →
      (run.ledger n).flacon.passports order.passport = some passport → (run.ledger n).flacon.registry = some registry →
      (run.ledger n).assets passport.asset = none → registry.isPartnerOrAuthority order.seller = false →
      ¬Executes run n (.reserve a price) := by
  refine ⟨fun n a price => reserve_rightful,?_,?_⟩
  · intro n a price order passport owner found known owned notSeller notOrder executes
    obtain ⟨order',passport',registry,checked⟩ := reserve_rightful executes
    cases Option.some.inj (found.symm.trans checked.orderFound)
    cases Option.some.inj (known.symm.trans checked.passportFound)
    cases checked.rightful with
    | owner there => exact notSeller (Option.some.inj (owned.symm.trans there))
    | custody m deposited isAsset since held => exact notOrder (Option.some.inj (owned.symm.trans held))
    | issuer uncored =>
      rw [owned] at uncored
      cases uncored
  · intro n a price order passport registry found known there uncored inactive executes
    obtain ⟨order',passport',registry',checked⟩ := reserve_rightful executes
    cases Option.some.inj (found.symm.trans checked.orderFound)
    cases Option.some.inj (known.symm.trans checked.passportFound)
    cases Option.some.inj (there.symm.trans checked.registryFound)
    cases checked.rightful with
    | owner owned =>
      rw [uncored] at owned
      cases owned
    | custody m deposited isAsset since held =>
      rw [uncored] at held
      cases held
    | issuer _ issued active =>
      rw [inactive] at active
      cases active

end FlaconVault.Escrow
