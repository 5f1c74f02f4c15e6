import FlaconVault.Flacon.Counting
import FlaconVault.Escrow.Vaults
namespace FlaconVault.Escrow
open Guards Flacon

-- The order an escrow instruction writes.
def orderOf : EscrowCall → Option Pubkey
  | .list a _ => some a.order
  | .depositAsset a => some a.order
  | .cancel a => some a.order
  | .closeOrder a => some a.order
  | .reserve a _ => some a.order
  | .recordPreShipScan a => some a.order
  | .ship a => some a.order
  | .recordReceiptScan a => some a.order
  | .release a => some a.order
  | .releaseAfterTimeout a => some a.order
  | .dispute a => some a.order
  | .resolve a _ => some a.order
  | _ => none

theorem Settlement.orders_other (settled : Settlement s orderKey order config destination payee assetTo final after)
    (apart : key ≠ orderKey) : after.escrow.orders key = s.escrow.orders key := by
  obtain ⟨asset,core,tokens,assets,-,-,rfl⟩ := settled.written
  exact Cells.put_other _ _ apart

theorem Settlement.order_settled (settled : Settlement s orderKey order config destination payee assetTo final after) :
    after.escrow.orders orderKey = some {order with state := final, assetDeposited := false} := by
  obtain ⟨asset,core,tokens,assets,-,-,rfl⟩ := settled.written
  exact Cells.put_self _ _ _

theorem Change.orders_other (change : Change s now call after) (apart : orderOf call ≠ some key) :
    after.escrow.orders key = s.escrow.orders key := by
  have elsewhere : ∀ {target}, orderOf call = some target → key ≠ target := by
    rintro target written rfl
    exact apart written
  cases change with
  | initConfig => rfl
  | setDisputeWindow => rfl
  | closeOrder => exact Cells.erase_other _ (elsewhere rfl)
  | release a after config order state settled => exact settled.orders_other (elsewhere rfl)
  | releaseAfterTimeout a after config order state late settled => exact settled.orders_other (elsewhere rfl)
  | dispute a after config order ground signed settled => exact settled.orders_other (elsewhere rfl)
  | resolve a toSeller after config order state signed isAdmin settled => exact settled.orders_other (elsewhere rfl)
  | _ => exact Cells.put_other _ _ (elsewhere rfl)

-- An escrow instruction that number `n` of the run executes successfully.
def Executes (run : Run) (n : ℕ) (call : EscrowCall) : Prop :=
  (run.schedule n).call = .escrow call ∧ Change (run.ledger n) (run.schedule n).now call (run.ledger (n+1))

theorem Executes.intro (called : (run.schedule n).call = .escrow call)
    (accepted : process (run.schedule n) (run.ledger n) = .ok after) : Executes run n call := by
  refine ⟨called,?_⟩
  rw [run.ledger_succ,execute_of_accepted accepted]
  simp only [process,called] at accepted
  exact process_change accepted

-- An order changes only through an escrow instruction that names it.
theorem order_step (run : Run) (n : ℕ) (key : Pubkey) :
    (run.ledger (n+1)).escrow.orders key = (run.ledger n).escrow.orders key ∨
      ∃ call, Executes run n call ∧ orderOf call = some key := by
  rw [run.ledger_succ]
  rcases execute_cases (run.schedule n) (run.ledger n) with same | accepted
  · exact .inl (congrArg (fun s : Ledger => s.escrow.orders key) same)
  cases called : (run.schedule n).call with
  | escrow call =>
    have executes := Executes.intro called accepted
    by_cases here : orderOf call = some key
    · exact .inr ⟨call,executes,here⟩
    · exact .inl (executes.2.orders_other here)
  | flacon call =>
    simp only [process,called] at accepted
    exact .inl (congrArg (fun e : EscrowAccounts => e.orders key) (process_frame accepted).2.1)
  | token call =>
    simp only [process,called,processToken,bind_ok,pure_ok] at accepted
    obtain ⟨tokens,-,written⟩ := accepted
    exact .inl (by rw [←written])
  | core call =>
    simp only [process,called,processCore,bind_ok,pure_ok] at accepted
    obtain ⟨assets,-,written⟩ := accepted
    exact .inl (by rw [←written])

-- The stages of one reservation, as facts about the instructions that led to the order as it stands before number `n`.
structure ReservedSince (run : Run) (n : ℕ) (key : Pubkey) (order : Order) (r : ℕ) : Prop where
  before : r < n
  reserved : ∃ a price, Executes run r (.reserve a price) ∧ a.order = key ∧ a.buyer = order.buyer
  clock : (run.schedule r).now = order.reservedAt
  parties : order.buyer ≠ order.seller
  since : ∀ m, r < m → m ≤ n → Funded (run.ledger m).escrow.orders key

structure ShipScan (run : Run) (n : ℕ) (key : Pubkey) (order : Order) (r p : ℕ) (scan : ScanProof) : Prop where
  after : r < p
  before : p < n
  recorded : ∃ a, Executes run p (.recordPreShipScan a) ∧ a.order = key ∧ a.seller = order.seller ∧ a.scanProof = order.sellerScan
  linked : ScanLinked (run.ledger p) order order.sellerScan order.seller order.reservedAt scan

structure ShippedAt (run : Run) (n : ℕ) (key : Pubkey) (order : Order) (p q : ℕ) : Prop where
  after : p < q
  before : q < n
  shipped : ∃ a, Executes run q (.ship a) ∧ a.order = key ∧ a.seller = order.seller
  clock : (run.schedule q).now = order.shippedAt

structure ReceiptScan (run : Run) (n : ℕ) (key : Pubkey) (order : Order) (q b : ℕ) (shipScan scan : ScanProof) : Prop where
  after : q < b
  before : b < n
  recorded : ∃ a, Executes run b (.recordReceiptScan a) ∧ a.order = key ∧ a.buyer = order.buyer ∧ a.scanProof = order.buyerScan
  linked : ScanLinked (run.ledger b) order order.buyerScan order.buyer order.shippedAt scan
  newer : scan.sealKey = shipScan.sealKey → shipScan.counter < scan.counter

-- How an order that stands before number `n` came into its state, all within one reservation.
def HistoryIn (run : Run) (n : ℕ) (key : Pubkey) (order : Order) (state : OrderState) : Prop :=
  match state with
  | .reserved => ∃ r, ReservedSince run n key order r
  | .preshipScanned => ∃ r p shipScan, ReservedSince run n key order r ∧ ShipScan run n key order r p shipScan
  | .shipped => ∃ r p q shipScan, ReservedSince run n key order r ∧ ShipScan run n key order r p shipScan ∧
      ShippedAt run n key order p q
  | .receiptScanned => ∃ r p q b shipScan scan, ReservedSince run n key order r ∧ ShipScan run n key order r p shipScan ∧
      ShippedAt run n key order p q ∧ ReceiptScan run n key order q b shipScan scan ∧ matched scan shipScan
  | .mismatch => ∃ r p q b shipScan scan, ReservedSince run n key order r ∧ ShipScan run n key order r p shipScan ∧
      ShippedAt run n key order p q ∧ ReceiptScan run n key order q b shipScan scan ∧ ¬matched scan shipScan
  | _ => True

def History (run : Run) (n : ℕ) (key : Pubkey) (order : Order) : Prop := HistoryIn run n key order order.state

-- A stage stays true while the order keeps the fields it is about.
theorem ReservedSince.next (stage : ReservedSince run n key order r) (funded : Funded (run.ledger (n+1)).escrow.orders key)
    (buyer : later.buyer = order.buyer) (seller : later.seller = order.seller) (time : later.reservedAt = order.reservedAt) :
    ReservedSince run (n+1) key later r := by
  obtain ⟨before,reserved,clock,parties,since⟩ := stage
  refine ⟨by omega,buyer.symm ▸ reserved,clock.trans time.symm,by rwa [buyer,seller],?_⟩
  intro m after within
  rcases Nat.lt_or_ge n m with beyond | inside
  · have : m = n+1 := by omega
    exact this ▸ funded
  · exact since m after inside

theorem ScanLinked.same_passport (linked : ScanLinked s order scanKey attester stepAt scan)
    (passport : later.passport = order.passport) : ScanLinked s later scanKey attester stepAt scan := by
  obtain ⟨found,ofPassport,attested,dated⟩ := linked
  exact ⟨found,passport.symm ▸ ofPassport,attested,dated⟩

theorem ShipScan.next (stage : ShipScan run n key order r p scan) (passport : later.passport = order.passport)
    (seller : later.seller = order.seller) (time : later.reservedAt = order.reservedAt)
    (sellerScan : later.sellerScan = order.sellerScan) : ShipScan run (n+1) key later r p scan := by
  obtain ⟨after,before,recorded,linked⟩ := stage
  refine ⟨after,by omega,by rwa [seller,sellerScan],?_⟩
  rw [sellerScan,seller,time]
  exact linked.same_passport passport

theorem ShippedAt.next (stage : ShippedAt run n key order p q) (seller : later.seller = order.seller)
    (time : later.shippedAt = order.shippedAt) : ShippedAt run (n+1) key later p q := by
  obtain ⟨after,before,shipped,clock⟩ := stage
  exact ⟨after,by omega,by rwa [seller],clock.trans time.symm⟩

theorem ReceiptScan.next (stage : ReceiptScan run n key order q b shipScan scan) :
    ReceiptScan run (n+1) key order q b shipScan scan := by
  obtain ⟨after,before,recorded,linked,newer⟩ := stage
  exact ⟨after,by omega,recorded,linked,newer⟩

theorem History.next (history : History run n key order) (still : (run.ledger (n+1)).escrow.orders key = some order) :
    History run (n+1) key order := by
  have funded : order.isFunded → Funded (run.ledger (n+1)).escrow.orders key := (funded_found still).mpr
  unfold History HistoryIn Order.isFunded at *
  cases state : order.state with
  | reserved =>
    rw [state] at history funded
    obtain ⟨r,since⟩ := history
    exact ⟨r,since.next (funded rfl) rfl rfl rfl⟩
  | preshipScanned =>
    rw [state] at history funded
    obtain ⟨r,p,shipScan,since,ship⟩ := history
    exact ⟨r,p,shipScan,since.next (funded rfl) rfl rfl rfl,ship.next rfl rfl rfl rfl⟩
  | shipped =>
    rw [state] at history funded
    obtain ⟨r,p,q,shipScan,since,ship,shipped⟩ := history
    exact ⟨r,p,q,shipScan,since.next (funded rfl) rfl rfl rfl,ship.next rfl rfl rfl rfl,shipped.next rfl rfl⟩
  | receiptScanned =>
    rw [state] at history funded
    obtain ⟨r,p,q,b,shipScan,scan,since,ship,shipped,receipt,agree⟩ := history
    exact ⟨r,p,q,b,shipScan,scan,since.next (funded rfl) rfl rfl rfl,ship.next rfl rfl rfl rfl,shipped.next rfl rfl,
      receipt.next,agree⟩
  | mismatch =>
    rw [state] at history funded
    obtain ⟨r,p,q,b,shipScan,scan,since,ship,shipped,receipt,differ⟩ := history
    exact ⟨r,p,q,b,shipScan,scan,since.next (funded rfl) rfl rfl rfl,ship.next rfl rfl rfl rfl,shipped.next rfl rfl,
      receipt.next,differ⟩
  | _ => trivial

theorem History.of_state (history : History run n key order) (state : order.state = held) :
    HistoryIn run n key order held := state ▸ history

theorem History.of_found (history : ∀ order, (run.ledger n).escrow.orders key = some order → History run n key order)
    (executes : Executes run n call) (writes : orderOf call = some key)
    (found : (run.ledger (n+1)).escrow.orders key = some later) : History run (n+1) key later := by
  have funded : later.isFunded → Funded (run.ledger (n+1)).escrow.orders key := (funded_found found).mpr
  have executed := executes
  obtain ⟨called,change⟩ := executes
  generalize written : run.ledger (n+1) = after at change found
  cases change with
  | initConfig => cases writes
  | setDisputeWindow => cases writes
  | list a price config passport registry configFound present registryFound signed here fresh positive =>
    cases writes
    obtain rfl := Option.some.inj ((Cells.put_self _ _ _).symm.trans found)
    trivial
  | depositAsset a order assets at_ signed isSeller state =>
    cases writes
    obtain rfl := Option.some.inj ((Cells.put_self _ _ _).symm.trans found)
    exact state ▸ trivial
  | cancel a order assets at_ signed isSeller state =>
    cases writes
    obtain rfl := Option.some.inj ((Cells.put_self _ _ _).symm.trans found)
    trivial
  | closeOrder a order at_ signed isSeller terminal =>
    cases writes
    cases (Cells.erase_self _ _).symm.trans found
  | reserve a expectedPrice config order passport registry buyerToken created tokens configFound at_ signed paying ofMint ofBuyer
      passportFound registryFound state apart agreed valid entitled vault paid =>
    cases writes
    obtain rfl := Option.some.inj ((Cells.put_self _ _ _).symm.trans found)
    refine ⟨n,Nat.lt_succ_self n,⟨a,expectedPrice,executed,rfl,rfl⟩,rfl,apart,?_⟩
    intro m after within
    have : m = n+1 := by omega
    rw [this]
    exact funded rfl
  | recordPreShipScan a order scan at_ signed isSeller state linked =>
    cases writes
    obtain rfl := Option.some.inj ((Cells.put_self _ _ _).symm.trans found)
    obtain ⟨r,since⟩ := (history order at_.found).of_state state
    exact ⟨r,n,scan,since.next (funded rfl) rfl rfl rfl,since.before,Nat.lt_succ_self n,
      ⟨a,executed,rfl,isSeller.symm,rfl⟩,linked.same_passport rfl⟩
  | ship a order at_ signed isSeller state =>
    cases writes
    obtain rfl := Option.some.inj ((Cells.put_self _ _ _).symm.trans found)
    obtain ⟨r,p,shipScan,since,ship⟩ := (history order at_.found).of_state state
    exact ⟨r,p,n,shipScan,since.next (funded rfl) rfl rfl rfl,ship.next rfl rfl rfl rfl,ship.before,
      Nat.lt_succ_self n,⟨a,executed,rfl,isSeller.symm⟩,rfl⟩
  | recordReceiptScan a order buyerScan sellerScan at_ signed isBuyer state linked sellerScanFound newer =>
    cases writes
    obtain rfl := Option.some.inj ((Cells.put_self _ _ _).symm.trans found)
    obtain ⟨r,p,q,shipScan,since,ship,shipped⟩ := (history order at_.found).of_state state
    -- the ScanProof compared now is the one linked before shipping: nothing rewrites it
    obtain ⟨kept,still,rfl⟩ := (grows_at (le_of_lt ship.before)).scans _ _ ship.linked.scanFound
    obtain rfl := Option.some.inj (sellerScanFound.symm.trans still)
    have receipt : ∀ state, ReceiptScan run (n+1) a.order {order with buyerScan := a.scanProof, state := state} q n sellerScan
        buyerScan :=
      fun state => ⟨shipped.before,Nat.lt_succ_self n,⟨a,executed,rfl,isBuyer.symm,rfl⟩,linked.same_passport rfl,newer⟩
    have isFunded : {order with
        buyerScan := a.scanProof
        state := if matched buyerScan sellerScan then OrderState.receiptScanned else .mismatch}.isFunded := by
      by_cases agree : matched buyerScan sellerScan <;> simp [Order.isFunded,agree]
    change HistoryIn _ _ _ _ (if matched buyerScan sellerScan then .receiptScanned else .mismatch)
    split
    · rename_i agree
      exact ⟨r,p,q,n,sellerScan,buyerScan,since.next (funded isFunded) rfl rfl rfl,ship.next rfl rfl rfl rfl,
        shipped.next rfl rfl,receipt _,agree⟩
    · rename_i differ
      exact ⟨r,p,q,n,sellerScan,buyerScan,since.next (funded isFunded) rfl rfl rfl,ship.next rfl rfl rfl rfl,
        shipped.next rfl rfl,receipt _,differ⟩
  | release a after config order state settled =>
    cases writes
    obtain rfl := Option.some.inj (settled.order_settled.symm.trans found)
    trivial
  | releaseAfterTimeout a after config order state late settled =>
    cases writes
    obtain rfl := Option.some.inj (settled.order_settled.symm.trans found)
    trivial
  | dispute a after config order ground signed settled =>
    cases writes
    obtain rfl := Option.some.inj (settled.order_settled.symm.trans found)
    trivial
  | resolve a toSeller after config order state signed isAdmin settled =>
    cases writes
    obtain rfl := Option.some.inj (settled.order_settled.symm.trans found)
    cases toSeller <;> trivial

theorem history_at (run : Run) (n : ℕ) (key : Pubkey) :
    ∀ order, (run.ledger n).escrow.orders key = some order → History run n key order := by
  induction n with
  | zero => exact fun order found => nomatch found
  | succ n ih =>
    intro order found
    rcases order_step run n key with same | ⟨call,executes,writes⟩
    · exact (ih order (same ▸ found)).next found
    · exact History.of_found ih executes writes found

-- The three ways the money of a reservation reaches the seller.
inductive SellerPaid (run : Run) (n : ℕ) (key : Pubkey) (order : Order) (r : ℕ) : Prop where
  | release (a : Release) (executes : Executes run n (.release a)) (here : a.order = key) (p q b : ℕ)
      (shipped received : ScanProof) (inOrder : r < p ∧ p < q ∧ q < b ∧ b < n)
      (preShip : ∃ a, Executes run p (.recordPreShipScan a) ∧ a.order = key ∧ a.seller = order.seller ∧
        a.scanProof = order.sellerScan)
      (ship : ∃ a, Executes run q (.ship a) ∧ a.order = key ∧ (run.schedule q).now = order.shippedAt)
      (receipt : ∃ a, Executes run b (.recordReceiptScan a) ∧ a.order = key ∧ a.buyer = order.buyer ∧
        a.scanProof = order.buyerScan)
      (shippedScan : (run.ledger n).flacon.scans order.sellerScan = some shipped)
      (shippedSeal : ∃ found, (run.ledger n).flacon.seals shipped.sealKey = some found ∧ found.passport = order.passport)
      (shippedBy : shipped.attester = order.seller) (shippedDated : shipped.ts.1 ≥ order.reservedAt.1 - 600)
      (receivedScan : (run.ledger n).flacon.scans order.buyerScan = some received)
      (receivedSeal : ∃ found, (run.ledger n).flacon.seals received.sealKey = some found ∧ found.passport = order.passport)
      (receivedBy : received.attester = order.buyer) (receivedDated : received.ts.1 ≥ order.shippedAt.1 - 600)
      (different : order.buyerScan ≠ order.sellerScan) (heat : received.heat = shipped.heat) (hum : received.hum = shipped.hum)
      (fill : |(received.fill.val : Int) - shipped.fill.val| ≤ 5)
      (newer : received.sealKey = shipped.sealKey → shipped.counter < received.counter)
  | releaseAfterTimeout (a : Release) (executes : Executes run n (.releaseAfterTimeout a)) (here : a.order = key)
      (state : order.state = .shipped) (q : ℕ) (inOrder : r < q ∧ q < n)
      (ship : ∃ a, Executes run q (.ship a) ∧ a.order = key ∧ (run.schedule q).now = order.shippedAt)
      (late : (run.schedule n).now.1 > order.shippedAt.1 + max 3600 (min order.disputeAfterS.1 5184000))
  | resolve (a : Resolve) (executes : Executes run n (.resolve a true)) (here : a.order = key)
      (state : order.state = .mismatch) (config : EscrowConfig) (configFound : (run.ledger n).escrow.config = some config)
      (byAdmin : a.admin = config.admin)

-- The four ways it goes back to the buyer.
inductive BuyerRefunded (run : Run) (n : ℕ) (key : Pubkey) (order : Order) : Prop where
  | admin (a : Dispute) (executes : Executes run n (.dispute a)) (here : a.order = key)
      (state : order.state = .reserved ∨ order.state = .preshipScanned ∨ order.state = .shipped) (config : EscrowConfig)
      (configFound : (run.ledger n).escrow.config = some config) (byAdmin : a.signer = config.admin)
  | notShipped (a : Dispute) (executes : Executes run n (.dispute a)) (here : a.order = key)
      (state : order.state = .reserved ∨ order.state = .preshipScanned) (byBuyer : a.signer = order.buyer)
      (late : (run.schedule n).now.1 > order.reservedAt.1 + max 3600 (min order.disputeAfterS.1 5184000))
  | deadSeal (a : Dispute) (executes : Executes run n (.dispute a)) (here : a.order = key)
      (state : order.state = .reserved ∨ order.state = .preshipScanned) (byBuyer : a.signer = order.buyer) (sealKey : Pubkey)
      (found : Seal) (there : (run.ledger n).flacon.seals sealKey = some found) (attached : found.passport = order.passport)
      (dead : found.dead)
  | resolve (a : Resolve) (executes : Executes run n (.resolve a false)) (here : a.order = key)
      (state : order.state = .mismatch) (config : EscrowConfig) (configFound : (run.ledger n).escrow.config = some config)
      (byAdmin : a.admin = config.admin)

theorem matched_parts (agree : matched received shipped) :
    received.heat = shipped.heat ∧ received.hum = shipped.hum ∧ |(received.fill.val : Int) - shipped.fill.val| ≤ 5 := by
  simp only [matched,Bool.and_eq_true,beq_iff_eq] at agree
  obtain ⟨⟨heat,hum⟩,within⟩ := agree
  have fill := of_decide_eq_true within
  unfold FILL_TOLERANCE at fill
  refine ⟨heat,hum,abs_le.mpr ⟨?_,?_⟩⟩ <;> omega

theorem linked_at_end {run : Run} (linked : ScanLinked (run.ledger m) order scanKey attester stepAt scan) (ordered : m ≤ n) :
    (run.ledger n).flacon.scans scanKey = some scan ∧
      ∃ found, (run.ledger n).flacon.seals scan.sealKey = some found ∧ found.passport = order.passport := by
  obtain ⟨scanFound,⟨found,there,attached⟩,-,-⟩ := linked
  have grows : Grows (run.ledger m).flacon (run.ledger n).flacon := grows_at ordered
  obtain ⟨kept,still,rfl⟩ := grows.scans _ _ scanFound
  obtain ⟨later,present,same,-⟩ := grows.seals _ _ there
  exact ⟨still,later,present,same.trans attached⟩

theorem release_pays {run : Run} {a : Release} (executes : Executes run n (.release a)) (here : a.order = key)
    (stage : ReservedSince run n key order r) (ship : ShipScan run n key order r p shipScan)
    (shipped : ShippedAt run n key order p q) (receipt : ReceiptScan run n key order q b shipScan scan)
    (agree : matched scan shipScan) : SellerPaid run n key order r := by
  obtain ⟨shipFound,shipSeal⟩ := linked_at_end ship.linked (le_of_lt ship.before)
  obtain ⟨receiptFound,receiptSeal⟩ := linked_at_end receipt.linked (le_of_lt receipt.before)
  obtain ⟨heat,hum,fill⟩ := matched_parts agree
  -- buyer and seller differ, so their ScanProofs do too
  have different : order.buyerScan ≠ order.sellerScan := by
    intro same
    rw [same,shipFound] at receiptFound
    obtain rfl := Option.some.inj receiptFound
    exact stage.parties (receipt.linked.attested.symm.trans ship.linked.attested)
  obtain ⟨sa,executed,shipHere,-⟩ := shipped.shipped
  exact .release a executes here p q b shipScan scan ⟨ship.after,shipped.after,receipt.after,receipt.before⟩ ship.recorded
    ⟨sa,executed,shipHere,shipped.clock⟩ receipt.recorded shipFound shipSeal ship.linked.attested ship.linked.dated receiptFound
    receiptSeal receipt.linked.attested receipt.linked.dated different heat hum fill receipt.newer

theorem ReservedSince.quiet {run : Run} (stage : ReservedSince run n key order r) :
    ∀ m, r < m → m < n → ¬PaysOutAt run m key ∧ ¬ReservesAt run m key := by
  intro m after within
  have held := stage.since m after (by omega)
  have next := stage.since (m+1) (by omega) within
  exact ⟨fun pays => ((funded_switch run m key).2.1 pays).2 next,fun reserves => (funded_switch run m key).2.2 reserves held⟩

theorem History.reservation (history : History run n key order) (funded : order.isFunded) :
    ∃ r, ReservedSince run n key order r := by
  unfold History HistoryIn at history
  cases state : order.state <;> rw [state] at history
  case reserved => exact history
  case preshipScanned =>
    obtain ⟨r,p,shipScan,since,-⟩ := history
    exact ⟨r,since⟩
  case shipped =>
    obtain ⟨r,p,q,shipScan,since,-⟩ := history
    exact ⟨r,since⟩
  case receiptScanned =>
    obtain ⟨r,p,q,b,shipScan,scan,since,-⟩ := history
    exact ⟨r,since⟩
  case mismatch =>
    obtain ⟨r,p,q,b,shipScan,scan,since,-⟩ := history
    exact ⟨r,since⟩
  all_goals simp [Order.isFunded,state] at funded

-- A payout on the given grounds, together with the reservation it ends.
structure PaidFrom (run : Run) (n : ℕ) (key : Pubkey) (order : Order) (r : ℕ) : Prop where
  before : r < n
  reserved : ∃ a price, Executes run r (.reserve a price) ∧ a.order = key ∧ a.buyer = order.buyer
  clock : (run.schedule r).now = order.reservedAt
  parties : order.buyer ≠ order.seller
  quiet : ∀ m, r < m → m < n → ¬PaysOutAt run m key ∧ ¬ReservesAt run m key

theorem ReservedSince.paidFrom (stage : ReservedSince run n key order r) : PaidFrom run n key order r :=
  ⟨stage.before,stage.reserved,stage.clock,stage.parties,stage.quiet⟩

theorem seller_paid {run : Run} (settled : Settlement (run.ledger n) key order config destination order.seller order.buyer
      .released (run.ledger (n+1)))
    (funded : order.isFunded) (stage : ReservedSince run n key order r) (ground : SellerPaid run n key order r) :
    ∃ order vault destination paid final r, Payout (run.ledger n) (run.ledger (n+1)) key order vault destination paid final ∧
      PaidFrom run n key order r ∧
      (final = .released ∧ paid.owner = order.seller ∧ SellerPaid run n key order r ∨
        final = .dispute ∧ paid.owner = order.buyer ∧ BuyerRefunded run n key order) := by
  obtain ⟨vault,paid,payout⟩ := settled.payout (backed_at run n) funded (.inl ⟨rfl,rfl⟩)
  have owner : paid.owner = order.seller := by
    rcases payout.recipient with ⟨-,owner⟩ | ⟨other,-⟩
    · exact owner
    · cases other
  exact ⟨order,vault,destination,paid,.released,r,payout,stage.paidFrom,.inl ⟨rfl,owner,ground⟩⟩

theorem buyer_refunded {run : Run} (settled : Settlement (run.ledger n) key order config destination order.buyer order.seller
      .dispute (run.ledger (n+1)))
    (funded : order.isFunded) (ground : BuyerRefunded run n key order) :
    ∃ order vault destination paid final r, Payout (run.ledger n) (run.ledger (n+1)) key order vault destination paid final ∧
      PaidFrom run n key order r ∧
      (final = .released ∧ paid.owner = order.seller ∧ SellerPaid run n key order r ∨
        final = .dispute ∧ paid.owner = order.buyer ∧ BuyerRefunded run n key order) := by
  obtain ⟨vault,paid,payout⟩ := settled.payout (backed_at run n) funded (.inr ⟨rfl,rfl⟩)
  obtain ⟨r,stage⟩ := (history_at run n key order settled.at_.found).reservation funded
  have owner : paid.owner = order.buyer := by
    rcases payout.recipient with ⟨other,-⟩ | ⟨-,owner⟩
    · cases other
    · exact owner
  exact ⟨order,vault,destination,paid,.dispute,r,payout,stage.paidFrom,.inr ⟨rfl,owner,ground⟩⟩

-- Who gets paid, over every run of the two programs: each payout belongs to one reservation, and it goes to the seller or
-- back to the buyer only on the grounds listed.
theorem who_gets_paid (run : Run) (n : ℕ) (key : Pubkey) (pays : PaysOutAt run n key) :
    ∃ order vault destination paid final r, Payout (run.ledger n) (run.ledger (n+1)) key order vault destination paid final ∧
      PaidFrom run n key order r ∧
      (final = .released ∧ paid.owner = order.seller ∧ SellerPaid run n key order r ∨
        final = .dispute ∧ paid.owner = order.buyer ∧ BuyerRefunded run n key order) := by
  obtain ⟨call,accepted,called,settles,processed⟩ := pays
  have executes := Executes.intro called processed
  have history := history_at run n key
  obtain ⟨-,change⟩ := executes
  generalize written : run.ledger (n+1) = after at change
  cases change with
  | release a after config order state settled =>
    cases settles
    subst written
    obtain ⟨r,p,q,b,shipScan,scan,since,ship,shipped,receipt,agree⟩ := (history order settled.at_.found).of_state state
    exact seller_paid settled (by simp [Order.isFunded,state]) since
      (release_pays (Executes.intro called processed) rfl since ship shipped receipt agree)
  | releaseAfterTimeout a after config order state late settled =>
    cases settles
    subst written
    obtain ⟨r,p,q,shipScan,since,ship,shipped⟩ := (history order settled.at_.found).of_state state
    obtain ⟨sa,executed,shipHere,-⟩ := shipped.shipped
    refine seller_paid settled (by simp [Order.isFunded,state]) since (.releaseAfterTimeout a
      (Executes.intro called processed) rfl state q ⟨by have := ship.after; have := shipped.after; omega,shipped.before⟩
      ⟨sa,executed,shipHere,shipped.clock⟩ late)
  | dispute a after config order ground signed settled =>
    cases settles
    subst written
    have executes := Executes.intro called processed
    rcases ground with ⟨byAdmin,state⟩ | ⟨byBuyer,state,late⟩ | ⟨byBuyer,state,sealKey,found,there,attached,dead⟩
    · refine buyer_refunded settled ?_ (.admin a executes rfl state config settled.configFound byAdmin)
      rcases state with state | state | state <;> simp [Order.isFunded,state]
    · refine buyer_refunded settled ?_ (.notShipped a executes rfl state byBuyer late)
      rcases state with state | state <;> simp [Order.isFunded,state]
    · refine buyer_refunded settled ?_ (.deadSeal a executes rfl state byBuyer sealKey found there attached dead)
      rcases state with state | state <;> simp [Order.isFunded,state]
  | resolve a toSeller after config order state signed isAdmin settled =>
    cases settles
    subst written
    have funded : order.isFunded := by simp [Order.isFunded,state]
    have executes := Executes.intro called processed
    obtain ⟨r,since⟩ := (history order settled.at_.found).reservation funded
    cases toSeller with
    | true => exact seller_paid settled funded since (.resolve a executes rfl state config settled.configFound isAdmin.symm)
    | false => exact buyer_refunded settled funded (.resolve a executes rfl state config settled.configFound isAdmin.symm)
  | _ => cases settles

-- One complete sale: the seller lists and ships a scanned bottle, the buyer's receipt scan matches, and the order is
-- released.
namespace Sale

def hash (fill : Byte) : Bytes32 := ⟨List.replicate 32 fill,by simp⟩
def admin : Pubkey := .keypair 0
def seller : Pubkey := .keypair 1
def buyer : Pubkey := .keypair 2
def asset : Pubkey := .keypair 10
def usdcMint : Pubkey := .foreign 5
def sellerToken : Pubkey := .keypair 11
def buyerToken : Pubkey := .keypair 12
def passport : Pubkey := .passport (hash 7)
def sealKey : Pubkey := .sealOf (hash 8)
def order : Pubkey := .order passport seller

def scanArgs (counter : U32) : RecordScanArgs :=
  ⟨counter,1,0,3,3,0,0,0,92,0,hash 0,hash 0,hash 0,.zero,1⟩

-- The Ed25519 instruction of the server key over the signed message, with the offsets the client library writes.
def signature (counter : U32) : List Byte :=
  [1,0,48,0,255,255,16,0,255,255,112,0,152,0,255,255] ++ (hash 9).1 ++ List.replicate 64 0 ++
    buildScanMessage ⟨hash 7,hash 8,counter,3,3,0,0,92,hash 0,hash 0,.zero⟩

def scan (counter : U32) (attester : Pubkey) : Call :=
  .flacon (.recordScan ⟨.registry,passport,sealKey,.scan sealKey counter,attester,[⟨ED25519_PROGRAM_ID,signature counter⟩],1⟩
    (scanArgs counter))

def calls : List Call := [
  .flacon (.initRegistry ⟨.registry,admin⟩),
  .flacon (.addPartner ⟨.registry,admin⟩ seller),
  .flacon (.addServerKey ⟨.registry,admin⟩ 1 (hash 9) .zero .zero),
  .escrow (.initConfig ⟨.config,admin,usdcMint⟩ ⟨3600,by decide⟩),
  .core (.create asset seller),
  .flacon (.mintPassport ⟨.registry,passport,seller,asset⟩ (hash 7) (hash 0) asset),
  .flacon (.attachSeal ⟨.registry,passport,sealKey,seller⟩ (hash 8) SEAL_KIND_BOX),
  .token (.create buyerToken usdcMint buyer),
  .token (.create sellerToken usdcMint seller),
  .token (.mintTo buyerToken 100),
  .escrow (.list ⟨.config,passport,order,seller,asset,.registry⟩ 100),
  .escrow (.reserve ⟨.config,order,buyer,buyerToken,usdcMint,.vault order,passport,asset,.registry⟩ 100),
  scan 1 seller,
  .escrow (.recordPreShipScan ⟨order,seller,.scan sealKey 1,sealKey⟩),
  .escrow (.ship ⟨order,seller⟩),
  scan 2 buyer,
  .escrow (.recordReceiptScan ⟨order,buyer,.scan sealKey 2,sealKey,.scan sealKey 1⟩),
  .escrow (.release ⟨.config,order,.vault order,sellerToken,buyer,admin,none,none⟩)]

def run : Run := ⟨some admin,some admin,fun n => ⟨calls.getD n (.core (.burn asset buyer)),.zero⟩⟩

end Sale

theorem sale_pays_out : PaysOutAt Sale.run 17 Sale.order := by
  have accepted : (process (Sale.run.schedule 17) (Sale.run.ledger 17)).toOption.isSome := by decide +kernel
  obtain ⟨after,outcome⟩ := exists_ok accepted
  exact ⟨_,after,rfl,rfl,outcome⟩

theorem sale_who_gets_paid :
    ∃ order vault destination paid final r,
      Payout (Sale.run.ledger 17) (Sale.run.ledger 18) Sale.order order vault destination paid final ∧
      PaidFrom Sale.run 17 Sale.order order r ∧
      (final = .released ∧ paid.owner = order.seller ∧ SellerPaid Sale.run 17 Sale.order order r ∨
        final = .dispute ∧ paid.owner = order.buyer ∧ BuyerRefunded Sale.run 17 Sale.order order) :=
  who_gets_paid Sale.run 17 Sale.order sale_pays_out

end FlaconVault.Escrow
