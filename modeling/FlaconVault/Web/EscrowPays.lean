import FlaconVault.Web.EscrowIx
namespace FlaconVault.Web
open Guards Escrow
open Flacon (requireSigner requireSigner_ok)

def balance (s : Ledger) (account : Pubkey) : ℕ := (s.tokens account).elim 0 (·.amount.val)

theorem balance_found {s : Ledger} (found : s.tokens account = some token) : balance s account = token.amount.val := by
  rw [balance,found]
  rfl

theorem TokenLibrary.not_vault (library : TokenLibrary) (owner mint key : Pubkey) : library.ata owner mint ≠ .vault key := by
  intro same
  have outside := library.outside owner mint
  rw [same] at outside
  cases outside

section Transactions
variable {library : TokenLibrary}

-- What the idempotent creation leaves.
inductive Created (library : TokenLibrary) (s : Ledger) (owner mint : Pubkey) : Ledger → Prop where
  | fresh (absent : s.tokens (library.ata owner mint) = none) :
      Created library s owner mint {s with tokens := s.tokens.put (library.ata owner mint) ⟨mint,owner,0⟩}
  | present (existing : TokenAccount) (found : s.tokens (library.ata owner mint) = some existing) (own : existing.owner = owner)
      (ofMint : existing.mint = mint) : Created library s owner mint s

theorem create_ok : createIdempotent library s payer owner mint = .ok middle ↔ payer.canSign ∧ Created library s owner mint middle := by
  simp only [createIdempotent,bind_ok,requireSigner_ok,exists_const]
  refine and_congr_right fun _ => ?_
  cases found : s.tokens (library.ata owner mint) with
  | none =>
    constructor
    · intro created
      cases pure_ok.mp created
      exact .fresh found
    · intro created
      cases created with
      | fresh => rfl
      | present existing there => cases found.symm.trans there
  | some existing =>
    simp only [bind_ok,require_ok,exists_const,pure_ok]
    constructor
    · rintro ⟨own,ofMint,rfl⟩
      exact .present existing found own ofMint
    · intro created
      cases created with
      | fresh absent => cases found.symm.trans absent
      | present other there own ofMint =>
        cases found.symm.trans there
        exact ⟨own,ofMint,rfl⟩

section Creation
variable {s middle : Ledger} {owner mint : Pubkey} (created : Created library s owner mint middle)
include created

theorem Created.reachable (reachable : Reachable s) : Reachable middle := by
  cases created with
  | present => exact reachable
  | fresh absent =>
    have accepted : process ⟨.token (.create (library.ata owner mint) mint owner),.zero⟩ s =
        .ok {s with tokens := s.tokens.put (library.ata owner mint) ⟨mint,owner,0⟩} := by
      simp only [process,processToken,Tokens.handle,require_pass (library.outside owner mint),require_pass absent,ok_bind]
      rfl
    exact reachable_process reachable accepted

theorem Created.account : ∃ paid, middle.tokens (library.ata owner mint) = some paid ∧ paid.owner = owner ∧ paid.mint = mint ∧
    paid.amount.val = balance s (library.ata owner mint) := by
  cases created with
  | present existing found own ofMint => exact ⟨existing,found,own,ofMint,(balance_found found).symm⟩
  | fresh absent =>
    refine ⟨⟨mint,owner,0⟩,Cells.put_self _ _ _,rfl,rfl,?_⟩
    rw [balance,absent]
    rfl

theorem Created.others (apart : other ≠ library.ata owner mint) : middle.tokens other = s.tokens other := by
  cases created with
  | present => rfl
  | fresh absent => exact Cells.put_other _ _ apart

theorem Created.frame : middle = {s with tokens := middle.tokens} := by
  cases created <;> rfl

theorem Created.vault (key : Pubkey) : middle.tokens (.vault key) = s.tokens (.vault key) :=
  created.others (library.not_vault owner mint key).symm

end Creation

theorem send_ok : sendSigned library wallet tx now s = .ok after ↔
    (∀ ix ∈ tx, ix.signer = wallet) ∧ tx.foldlM (processIx library now) s = .ok after := by
  simp only [sendSigned,bind_ok,require_ok,exists_const]

theorem send_one : sendSigned library wallet [.escrow call] now s = .ok after ↔
    signerOf call = wallet ∧ processEscrow s now call = .ok after := by
  simp only [send_ok,List.mem_singleton,forall_eq,Ix.signer,List.foldlM_cons,List.foldlM_nil,processIx,bind_ok,pure_ok,
    exists_eq_right]

theorem send_two : sendSigned library wallet [escrowIx.ensureAtaIx payer owner mint,.escrow call] now s = .ok after ↔
    (payer = wallet ∧ signerOf call = wallet) ∧ payer.canSign ∧
      ∃ middle, Created library s owner mint middle ∧ processEscrow middle now call = .ok after := by
  simp only [send_ok,escrowIx.ensureAtaIx,List.mem_cons,List.not_mem_nil,or_false,forall_eq_or_imp,forall_eq,Ix.signer,
    List.foldlM_cons,List.foldlM_nil,processIx,bind_ok,pure_ok,exists_eq_right,create_ok,and_assoc,exists_and_left]

end Transactions

-- Where an order stands there is a config, and a funded order has parties that can sign.
section Standing
variable {run : Run} {n : ℕ} {key : Pubkey} {order : Order}

theorem listed_config (run : Run) (n : ℕ) (key : Pubkey) : ∀ order, (run.ledger n).escrow.orders key = some order →
    ∃ config, (run.ledger n).escrow.config = some config := by
  induction n with
  | zero =>
    intro order found
    cases found
  | succ n ih =>
    intro order found
    have known : ∃ config, (run.ledger n).escrow.config = some config := by
      cases before : (run.ledger n).escrow.orders key with
      | some old => exact ih old before
      | none =>
        have missing {old : Order} (at_ : OrderAt (run.ledger n) key old) : False := by cases before.symm.trans at_.found
        rcases order_step run n key with same | ⟨call,executes,here⟩
        · cases (same.trans before).symm.trans found
        · obtain ⟨-,change⟩ := executes
          generalize run.ledger (n+1) = after at change
          cases change with
          | initConfig => cases here
          | setDisputeWindow => cases here
          | list a price config passport registry configFound => exact ⟨config,configFound⟩
          | depositAsset a old assets at_ => cases here; exact (missing at_).elim
          | cancel a old assets at_ => cases here; exact (missing at_).elim
          | closeOrder a old at_ => cases here; exact (missing at_).elim
          | reserve a price config old passport registry buyerToken created tokens configFound => exact ⟨config,configFound⟩
          | recordPreShipScan a old scan at_ => cases here; exact (missing at_).elim
          | ship a old at_ => cases here; exact (missing at_).elim
          | recordReceiptScan a old buyerScan sellerScan at_ => cases here; exact (missing at_).elim
          | release a after config old state settled => exact ⟨config,settled.configFound⟩
          | releaseAfterTimeout a after config old state late settled => exact ⟨config,settled.configFound⟩
          | dispute a after config old ground signed settled => exact ⟨config,settled.configFound⟩
          | resolve a toSeller after config old state signed isAdmin settled => exact ⟨config,settled.configFound⟩
    obtain ⟨config,configFound⟩ := known
    obtain ⟨later,there,-⟩ := config_kept run configFound
    exact ⟨later,there⟩

theorem buyer_can_sign (found : (run.ledger n).escrow.orders key = some order) (funded : order.isFunded) : order.buyer.canSign := by
  obtain ⟨r,since⟩ := (history_at run n key order found).reservation funded
  exact buyer_signs since

theorem seller_can_sign (found : (run.ledger n).escrow.orders key = some order)
    (state : order.state = .shipped ∨ order.state = .receiptScanned ∨ order.state = .mismatch) : order.seller.canSign := by
  obtain ⟨p,q,shipped⟩ := shipped_of_history (history_at run n key order found) state
  exact seller_signs shipped

-- The scan of a shipped order is there.
theorem seller_scan_found (found : (run.ledger n).escrow.orders key = some order) (state : order.state = .shipped) :
    ∃ scan, (run.ledger n).flacon.scans order.sellerScan = some scan := by
  obtain ⟨r,p,q,scan,since,ship,shipped⟩ := (history_at run n key order found).of_state state
  exact ⟨scan,(linked_at_end ship.linked (le_of_lt ship.before)).1⟩

end Standing

theorem nz_some {key : Pubkey} (present : key ≠ .default) : nz key = some key := if_neg present

theorem signs_not_default {key : Pubkey} (signs : key.canSign) : key ≠ .default := by
  rintro rfl
  cases signs

-- What a payout leaves: the vault's balance is in the payee's own token account, the vault is closed, a deposited asset is
-- handed over, the order is settled, and nothing else changed.
structure PaidOut (library : TokenLibrary) (s after : Ledger) (key : Pubkey) (order : Order) (usdcMint payee assetTo : Pubkey)
    (final : FlaconVault.OrderState) : Prop where
  paid : ∃ vault account, s.tokens (.vault key) = some vault ∧ order.price ≤ vault.amount ∧
    after.tokens (library.ata payee usdcMint) = some account ∧ account.owner = payee ∧ account.mint = usdcMint ∧
    account.amount.val = balance s (library.ata payee usdcMint) + vault.amount.val
  closed : after.tokens (.vault key) = none
  others : ∀ other, other ≠ library.ata payee usdcMint → other ≠ .vault key → after.tokens other = s.tokens other
  rest : after = {s with
    tokens := after.tokens
    assets := if order.assetDeposited then s.assets.put order.asset assetTo else s.assets
    escrow.orders := s.escrow.orders.put key {order with state := final, assetDeposited := false}}

-- The payee's associated token account can take the payment: it is missing, or it is the payee's, of the mint, and has room.
def CanTake (library : TokenLibrary) (s : Ledger) (owner usdcMint : Pubkey) (incoming : ℕ) : Prop :=
  ∀ existing, s.tokens (library.ata owner usdcMint) = some existing →
    existing.owner = owner ∧ existing.mint = usdcMint ∧ existing.amount.val + incoming < 2^64

-- An escrow instruction that pays an order out, once the payee's account is there.
structure Pays (library : TokenLibrary) (s : Ledger) (key : Pubkey) (order : Order) (config : EscrowConfig) (now : I64) (call : EscrowCall)
    (payee assetTo : Pubkey) (final : FlaconVault.OrderState) : Prop where
  signs : payee.canSign
  recipient : (final = .released ∧ payee = order.seller) ∨ (final = .dispute ∧ payee = order.buyer)
  accepts : ∀ middle paid, middle.escrow = s.escrow → middle.flacon = s.flacon →
    Settles middle key order config (library.ata payee config.usdcMint) paid → paid.owner = payee →
    ∃ after, processEscrow middle now call = .ok after
  settles : ∀ middle after, middle.escrow = s.escrow → processEscrow middle now call = .ok after →
    Settlement middle key order config (library.ata payee config.usdcMint) payee assetTo final after

section Payouts
variable {library : TokenLibrary} {s middle after : Ledger} {key me payee assetTo : Pubkey} {order : Order} {config : EscrowConfig}
  {now : I64} {call : EscrowCall} {final : FlaconVault.OrderState}

theorem returned_assets (returned : returnAsset s key order asset core newOwner = .ok assets) :
    assets = if order.assetDeposited then s.assets.put order.asset newOwner else s.assets := by
  rcases returned_parts returned with ⟨kept,rfl⟩ | ⟨deposited,-,rfl⟩
  · simp [kept]
  · simp [deposited]

theorem Pays.paid_out (pays : Pays library s key order config now call payee assetTo final) (reachable : Reachable s)
    (funded : order.isFunded) (created : Created library s payee config.usdcMint middle)
    (accepted : processEscrow middle now call = .ok after) : PaidOut library s after key order config.usdcMint payee assetTo final := by
  have frame := created.frame
  have settled := pays.settles middle after (by rw [frame]) accepted
  have backed := reachable_backed (created.reachable reachable)
  obtain ⟨vault,paid,payout⟩ := settled.payout backed funded pays.recipient
  obtain ⟨total,adds,there⟩ := payout.whole
  obtain ⟨account,accountFound,own,ofMint,amount⟩ := created.account
  cases Option.some.inj (accountFound.symm.trans payout.destinationFound)
  have vaultFound := payout.vaultFound
  rw [created.vault] at vaultFound
  refine ⟨⟨vault,_,vaultFound,payout.enough,there,own,ofMint,?_⟩,payout.closed,?_,?_⟩
  · rw [adds,amount]
  · intro other notAccount notVault
    rw [payout.others other notVault notAccount,created.others notAccount]
  · obtain ⟨asset,core,tokens,assets,-,returned,rfl⟩ := settled.written
    rw [returned_assets returned,frame]

theorem paid_reachable (reachable : Reachable s) (created : Created library s payee config.usdcMint middle)
    (accepted : processEscrow middle now call = .ok after) : Reachable after := by
  have processed : process ⟨.escrow call,now⟩ middle = .ok after := accepted
  exact reachable_process (created.reachable reachable) processed

-- The two instructions go through exactly if the payee's account can take the vault's balance.
theorem Pays.accepted_iff (pays : Pays library s key order config now call payee assetTo final) (reachable : Reachable s)
    (found : s.escrow.orders key = some order) (funded : order.isFunded) (configFound : s.escrow.config = some config) :
    (∃ middle after, Created library s payee config.usdcMint middle ∧ processEscrow middle now call = .ok after) ↔
      CanTake library s payee config.usdcMint (balance s (.vault key)) := by
  constructor
  · rintro ⟨middle,after,created,accepted⟩ existing there
    obtain ⟨vault,account,vaultFound,-,-,-,-,amount⟩ := (pays.paid_out reachable funded created accepted).paid
    cases created with
    | fresh absent => cases absent.symm.trans there
    | present other found' own ofMint =>
      cases Option.some.inj (found'.symm.trans there)
      refine ⟨own,ofMint,?_⟩
      rw [balance_found there] at amount
      rw [balance_found vaultFound,← amount]
      exact account.amount.isLt
  · intro takes
    obtain ⟨middle,created⟩ : ∃ middle, Created library s payee config.usdcMint middle := by
      cases there : s.tokens (library.ata payee config.usdcMint) with
      | none => exact ⟨_,.fresh there⟩
      | some existing =>
        obtain ⟨own,ofMint,-⟩ := takes existing there
        exact ⟨s,.present existing there own ofMint⟩
    have frame := created.frame
    obtain ⟨paid,accountFound,own,ofMint,amount⟩ := created.account
    obtain ⟨run,n,reached⟩ := created.reachable reachable
    have receives : CanReceive middle key payee (library.ata payee config.usdcMint) paid := by
      refine ⟨accountFound,own,?_,?_⟩
      · intro other there
        have same : middle.escrow = s.escrow := by rw [frame]
        rw [same,configFound] at there
        cases there
        exact ofMint
      · intro held heldFound
        rw [created.vault] at heldFound
        rw [amount]
        cases there : s.tokens (library.ata payee config.usdcMint) with
        | none =>
          have nothing : balance s (library.ata payee config.usdcMint) = 0 := by
            rw [balance,there]
            rfl
          rw [nothing,Nat.zero_add]
          exact held.amount.isLt
        | some existing =>
          obtain ⟨-,-,room⟩ := takes existing there
          rw [balance_found heldFound] at room
          rwa [balance_found there]
    have foundThere : middle.escrow.orders key = some order := by
      rw [frame]
      exact found
    subst reached
    obtain ⟨read,settles⟩ := settles_at run n foundThere funded receives pays.signs
    have sameConfig : read = config := by
      have there := settles.configFound
      rw [frame,configFound] at there
      exact (Option.some.inj there).symm
    subst sameConfig
    obtain ⟨after,accepted⟩ := pays.accepts _ paid (by rw [frame]) (by rw [frame]) settles own
    exact ⟨_,after,created,accepted⟩

end Payouts

-- Whether a payout instruction brings the asset accounts or not, the program returns the asset as if it did.
theorem returned_custody (s : Ledger) (key : Pubkey) (order : Order) (newOwner : Pubkey) :
    returnAsset s key order (custody (toView key order).toIxOrder).1 (custody (toView key order).toIxOrder).2 newOwner =
      returnAsset s key order (some order.asset) (some MPL_CORE_PROGRAM_ID) newOwner := by
  unfold returnAsset
  by_cases deposited : order.assetDeposited
  · simp [custody,toView,deposited]
  · simp [deposited]

-- The account lists of the payout builders, for an order as the page shows it.
section Accounts
variable (library : TokenLibrary) (key : Pubkey) (order : Order) (usdcMint me : Pubkey)

def shownRelease : Release :=
  ⟨.config,key,.vault key,library.ata order.seller usdcMint,order.buyer,me,(custody (toView key order).toIxOrder).1,
    (custody (toView key order).toIxOrder).2⟩

def shownDispute (sealKey : Option Pubkey) : Dispute :=
  ⟨.config,key,.vault key,library.ata order.buyer usdcMint,order.buyer,order.seller,me,sealKey,
    (custody (toView key order).toIxOrder).1,(custody (toView key order).toIxOrder).2⟩

def shownResolve (toSeller : Bool) : Resolve :=
  ⟨.config,key,.vault key,library.ata (if toSeller then order.seller else order.buyer) usdcMint,order.buyer,order.seller,me,
    (custody (toView key order).toIxOrder).1,(custody (toView key order).toIxOrder).2⟩

end Accounts

-- The program takes these accounts wherever it would take the asset accounts.
section Shown
variable {library : TokenLibrary} {s : Ledger} {key me : Pubkey} {order : Order} {config : EscrowConfig} {now : I64}

theorem shown_settles_seller (settles : Settles s key order config (library.ata order.seller config.usdcMint) paid) :
    ∃ after, settleToSeller s (shownRelease library key order config.usdcMint me) order = .ok after := by
  obtain ⟨tokens,drained⟩ := settles.drains
  obtain ⟨assets,returned⟩ := settles.returns order.buyer
  rw [← returned_custody] at returned
  simp only [settleToSeller,shownRelease,drained,returned,ok_bind]
  exact ⟨_,rfl⟩

theorem shown_release (settles : Settles s key order config (library.ata order.seller config.usdcMint) paid)
    (owner : paid.owner = order.seller) (signs : me.canSign) (state : order.state = .receiptScanned) :
    ∃ after, handleRelease s (shownRelease library key order config.usdcMint me) = .ok after := by
  have loads : loadRelease s (shownRelease library key order config.usdcMint me) = .ok order := settles.release_loads owner signs
  simp only [handleRelease,loads,ok_bind,require_pass state]
  exact shown_settles_seller settles

theorem shown_release_late (settles : Settles s key order config (library.ata order.seller config.usdcMint) paid)
    (owner : paid.owner = order.seller) (signs : me.canSign)
    (late : checkReleaseAfterTimeout order.state order.shippedAt order.disputeAfterS now = .ok ()) :
    ∃ after, handleReleaseAfterTimeout s (shownRelease library key order config.usdcMint me) now = .ok after := by
  have loads : loadRelease s (shownRelease library key order config.usdcMint me) = .ok order := settles.release_loads owner signs
  simp only [handleReleaseAfterTimeout,loads,ok_bind,late]
  exact shown_settles_seller settles

theorem shown_dispute (settles : Settles s key order config (library.ata order.buyer config.usdcMint) paid)
    (owner : paid.owner = order.buyer) (signs : me.canSign) (reason : disputeReason s config order me sealKey now = .ok ground) :
    ∃ after, handleDispute s (shownDispute library key order config.usdcMint me sealKey) now = .ok after := by
  have loadedConfig : loadConfig s .config = .ok config := loadConfig_ok.mpr ⟨rfl,settles.configFound⟩
  have loadedOrder : loadOrder s key = .ok order := loadOrder_ok.mpr ⟨settles.orderFound,settles.orderHere⟩
  obtain ⟨tokens,drained⟩ := settles.drains
  obtain ⟨assets,returned⟩ := settles.returns order.seller
  rw [← returned_custody] at returned
  simp only [handleDispute,shownDispute,loadedConfig,loadedOrder,settles.token,ok_bind,require_pass,owner,requireSigner,signs,reason,
    drained,returned]
  exact ⟨_,rfl⟩

theorem shown_resolve (toSeller : Bool)
    (settles : Settles s key order config (library.ata (if toSeller then order.seller else order.buyer) config.usdcMint) paid)
    (owner : paid.owner = if toSeller then order.seller else order.buyer) (signs : config.admin.canSign)
    (state : order.state = .mismatch) :
    ∃ after, handleResolve s (shownResolve library key order config.usdcMint config.admin toSeller) toSeller = .ok after := by
  have loadedConfig : loadAdminConfig s .config config.admin = .ok config :=
    loadAdminConfig_ok.mpr ⟨rfl,settles.configFound,signs,rfl⟩
  have loadedOrder : loadOrder s key = .ok order := loadOrder_ok.mpr ⟨settles.orderFound,settles.orderHere⟩
  obtain ⟨tokens,drained⟩ := settles.drains
  obtain ⟨assets,returned⟩ := settles.returns (if toSeller then order.buyer else order.seller)
  rw [← returned_custody] at returned
  simp only [handleResolve,shownResolve,loadedConfig,loadedOrder,settles.token,ok_bind,require_pass,owner,state,drained,returned]
  exact ⟨_,rfl⟩

end Shown

-- Each payout instruction of the page pays.
section Instances
variable {library : TokenLibrary} {s : Ledger} {key me : Pubkey} {order : Order} {config : EscrowConfig} {now : I64}
  (found : s.escrow.orders key = some order) (configFound : s.escrow.config = some config)
include found configFound

theorem same_settlement {middle after : Ledger} {old : Order} {read : EscrowConfig} (sameEscrow : middle.escrow = s.escrow)
    (settled : Settlement middle key old read destination payee assetTo final after) : old = order ∧ read = config := by
  have there := settled.at_.found
  have configThere := settled.configFound
  rw [sameEscrow] at there configThere
  exact ⟨Option.some.inj (there.symm.trans found),Option.some.inj (configThere.symm.trans configFound)⟩

theorem release_pays (seller : order.seller.canSign) (signs : me.canSign) (state : order.state = .receiptScanned) :
    Pays library s key order config now (.release (shownRelease library key order config.usdcMint me)) order.seller order.buyer
      .released where
  signs := seller
  recipient := .inl ⟨rfl,rfl⟩
  accepts _ _ _ _ settles own := shown_release settles own signs state
  settles := by
    intro middle after sameEscrow accepted
    cases process_change accepted with
    | release a _ read old stateThen settled =>
      obtain ⟨rfl,rfl⟩ := same_settlement found configFound sameEscrow settled
      exact settled

theorem release_late_pays (seller : order.seller.canSign) (signs : me.canSign)
    (late : checkReleaseAfterTimeout order.state order.shippedAt order.disputeAfterS now = .ok ()) :
    Pays library s key order config now (.releaseAfterTimeout (shownRelease library key order config.usdcMint me)) order.seller
      order.buyer .released where
  signs := seller
  recipient := .inl ⟨rfl,rfl⟩
  accepts _ _ _ _ settles own := shown_release_late settles own signs late
  settles := by
    intro middle after sameEscrow accepted
    cases process_change accepted with
    | releaseAfterTimeout a _ read old stateThen lateThen settled =>
      obtain ⟨rfl,rfl⟩ := same_settlement found configFound sameEscrow settled
      exact settled

theorem dispute_pays (buyer : order.buyer.canSign) (signs : me.canSign)
    (reason : ∀ middle : Ledger, middle.flacon = s.flacon → ∃ ground, disputeReason middle config order me sealKey now = .ok ground) :
    Pays library s key order config now (.dispute (shownDispute library key order config.usdcMint me sealKey)) order.buyer
      order.seller .dispute where
  signs := buyer
  recipient := .inr ⟨rfl,rfl⟩
  accepts := by
    intro middle paid sameEscrow sameFlacon settles own
    obtain ⟨ground,decided⟩ := reason middle sameFlacon
    exact shown_dispute settles own signs decided
  settles := by
    intro middle after sameEscrow accepted
    cases process_change accepted with
    | dispute a _ read old ground signed settled =>
      obtain ⟨rfl,rfl⟩ := same_settlement found configFound sameEscrow settled
      exact settled

theorem resolve_pays (toSeller : Bool) (seller : order.seller.canSign) (buyer : order.buyer.canSign) (signs : config.admin.canSign)
    (state : order.state = .mismatch) :
    Pays library s key order config now (.resolve (shownResolve library key order config.usdcMint config.admin toSeller) toSeller)
      (if toSeller then order.seller else order.buyer) (if toSeller then order.buyer else order.seller)
      (if toSeller then .released else .dispute) where
  signs := by
    cases toSeller
    · exact buyer
    · exact seller
  recipient := by cases toSeller <;> simp
  accepts _ _ _ _ settles own := shown_resolve toSeller settles own signs state
  settles := by
    intro middle after sameEscrow accepted
    cases process_change accepted with
    | resolve a _ _ read old stateThen signed isAdmin settled =>
      obtain ⟨rfl,rfl⟩ := same_settlement found configFound sameEscrow settled
      exact settled

end Instances

end FlaconVault.Web
