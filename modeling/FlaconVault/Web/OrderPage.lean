import FlaconVault.Web.EscrowPays
namespace FlaconVault.Web
open Guards Escrow

-- The order page of a connected wallet. It was loaded at one point of a run, and a button is pressed at a later one at which
-- the order is still the one shown. The page has its own clock and the verifier's word about the history.
structure Visit where
  run : Run
  opened : ℕ
  pressed : ℕ
  later : opened ≤ pressed
  key : Pubkey
  order : Order
  found : (run.ledger opened).escrow.orders key = some order
  still : (run.ledger pressed).escrow.orders key = some order
  me : Pubkey
  signs : me.canSign
  sealHashes : List Bytes32
  events : List PassportEvent
  scanChoice : Option Pubkey
  page : OrderPage
  loaded : OrderPage.load me key sealHashes events scanChoice (run.ledger opened) = some page
  shown : Int
  now : I64

-- Once dead, a seal stays dead.
def DeadLater (old new : Seal) : Prop := new.passport = old.passport ∧ (old.dead = true → new.dead = true)

theorem DeadLater.refl (found : Seal) : DeadLater found found := ⟨rfl,id⟩
theorem DeadLater.trans (left : DeadLater a b) (right : DeadLater b c) : DeadLater a c :=
  ⟨right.1.trans left.1,fun dead => right.2 (left.2 dead)⟩

theorem dead_later (change : Flacon.Change s after) : s.seals.Extends DeadLater after.seals := by
  cases change with
  | registry => exact .refl .refl _
  | minted => exact .refl .refl _
  | attached passport uidHash kind sealCount now known fresh => exact .put_fresh .refl fresh
  | died passport found known there => exact .put_update .refl there ⟨rfl,fun _ => rfl⟩
  | scanned passport found attester args scanCount known there => exact .put_update .refl there ⟨rfl,id⟩

theorem dead_later_at (run : Run) {n m : ℕ} (later : n ≤ m) :
    (run.ledger n).flacon.seals.Extends DeadLater (run.ledger m).flacon.seals := by
  refine Runs.related (R := fun s after : Ledger => s.flacon.seals.Extends DeadLater after.flacon.seals) (fun s => .refl .refl _)
    (.trans .trans) ?_ later
  intro n
  rcases Flacon.flacon_at n with same | change
  · exact (congrArg (fun accounts : FlaconAccounts => (run.ledger n).flacon.seals.Extends DeadLater accounts.seals) same).mpr
      (.refl .refl _)
  · exact dead_later change

theorem config_later (run : Run) {n m : ℕ} (later : n ≤ m) {config : EscrowConfig}
    (found : (run.ledger n).escrow.config = some config) :
    ∃ now, (run.ledger m).escrow.config = some now ∧ now.usdcMint = config.usdcMint ∧ now.admin = config.admin := by
  induction m, later using Nat.le_induction with
  | base => exact ⟨config,found,rfl,rfl⟩
  | succ m _ ih =>
    obtain ⟨middle,there,mint,admin⟩ := ih
    obtain ⟨now,present,sameMint,sameAdmin⟩ := config_kept run there
    exact ⟨now,present,sameMint.trans mint,sameAdmin.trans admin⟩

theorem fetched_dead (found : (fetchSealStates s sealHashes).find? (fun state => state.dead && state.passport == some passport) =
    some state) : ∃ other, s.flacon.seals state.pda = some other ∧ other.passport = passport ∧ other.dead = true := by
  have inside := List.mem_of_find?_eq_some found
  have passes := List.find?_some found
  simp only [Bool.and_eq_true,beq_iff_eq] at passes
  obtain ⟨dead,ofPassport⟩ := passes
  obtain ⟨uidHash,-,rfl⟩ := List.mem_map.mp inside
  cases there : s.flacon.seals (.sealOf uidHash) with
  | none =>
    simp only [there] at dead
    cases dead
  | some other =>
    simp only [there] at dead ofPassport ⊢
    exact ⟨other,rfl,Option.some.inj ofPassport,dead⟩

namespace Visit
variable (visit : Visit)

def ledger : Ledger := visit.run.ledger visit.pressed

-- What the page holds, next to the config of the ledger.
structure Holds (config : EscrowConfig) (shown : EscrowConfigView) (page : OrderPage) : Prop where
  sameMe : page.me = visit.me
  sameOrder : page.order = toView visit.key visit.order
  configShown : page.config = some shown
  admin : shown.admin = config.admin
  mint : shown.usdcMint = config.usdcMint
  configFound : visit.ledger.escrow.config = some config
  dead : ∀ sealKey, page.deadSeal = some sealKey → ∃ found, visit.ledger.flacon.seals sealKey = some found ∧
    found.passport = visit.order.passport ∧ found.dead = true
  events : page.events = visit.events

theorem reachable : Reachable visit.ledger := ⟨visit.run,visit.pressed,rfl⟩

theorem linked : Flacon.Linked visit.ledger.flacon := by
  have there : Flacon.Linked (visit.run.ledger visit.pressed).flacon := Flacon.linked_at visit.pressed
  exact there

theorem holds : ∃ config shown, visit.Holds config shown visit.page := by
  obtain ⟨old,configFound⟩ := listed_config visit.run visit.opened visit.key visit.order visit.found
  obtain ⟨config,configNow,mint,admin⟩ := config_later visit.run visit.later configFound
  have loaded := visit.loaded
  simp only [OrderPage.load,fetchOrder,visit.found,Option.map_some,Option.bind_eq_bind,Option.bind_some,Option.some.injEq,
    Option.pure_def] at loaded
  refine ⟨config,⟨old.admin,old.usdcMint,old.disputeAfterS.1⟩,?_⟩
  rw [← loaded]
  refine ⟨rfl,rfl,?_,admin.symm,mint.symm,configNow,?_,rfl⟩
  · simp only [fetchConfig,configFound,Option.map_some]
  · intro sealKey picked
    obtain ⟨state,first,rfl⟩ := Option.map_eq_some_iff.mp picked
    obtain ⟨found,there,ofPassport,dead⟩ := fetched_dead first
    obtain ⟨now,present,same,stays⟩ := dead_later_at visit.run visit.later _ _ there
    exact ⟨now,present,same.trans ofPassport,stays dead⟩

section Shown
variable {visit} {config : EscrowConfig} {shown : EscrowConfigView} (holds : visit.Holds config shown visit.page)
include holds

theorem Holds.like : visit.page.like = orderLike visit.order := by
  rw [OrderPage.like,holds.sameOrder]
  rfl

theorem Holds.viewer : visit.page.viewer = viewerOf visit.order config.admin visit.me visit.page.deadSeal.isSome := by
  have buyer : (nz visit.order.buyer == some visit.me) = (visit.me == visit.order.buyer) := by
    unfold nz
    split
    · rename_i missing
      have apart := signs_not_default visit.signs
      rw [missing,beq_eq_false_iff_ne.mpr apart]
      rfl
    · rw [Bool.eq_iff_iff,beq_iff_eq,beq_iff_eq,Option.some.injEq]
      exact eq_comm
  simp only [OrderPage.viewer,viewerOf,holds.sameOrder,holds.sameMe,holds.configShown,Option.any_some,holds.admin,toView,buyer,
    Viewer.mk.injEq,and_true,true_and]
  exact ⟨BEq.comm,BEq.comm⟩

theorem Holds.offered (offered : action ∈ visit.page.actions visit.shown) :
    Offered (orderLike visit.order) (viewerOf visit.order config.admin visit.me visit.page.deadSeal.isSome) visit.shown action := by
  rw [OrderPage.actions,offered_iff,holds.like,holds.viewer] at offered
  exact offered

-- But for the two deadlines, a button that the page offers is one whose instruction passes its guards.
theorem Holds.guards (offered : action ∈ visit.page.actions visit.shown)
    (untimed : action ≠ .refundNotShipped ∧ action ≠ .releaseAfterTimeout) :
    GuardsPass visit.order config.admin visit.me visit.now (callOf action) :=
  shown_guards (holds.offered offered) (fun same => absurd same untimed.1) fun same => absurd same untimed.2

end Shown

end Visit

-- What comes of a transaction: it goes through exactly if it is ready, and then does what it should.
structure Comes (library : TokenLibrary) (s : Ledger) (me : Pubkey) (now : I64) (tx : List Ix) (ready : Prop) (does : Ledger → Prop) :
    Prop where
  accepted : (∃ after, sendSigned library me tx now s = .ok after) ↔ ready
  reachable : ∀ after, sendSigned library me tx now s = .ok after → Reachable after
  does : ∀ after, sendSigned library me tx now s = .ok after → does after

-- A condition that the program asks for before everything else.
theorem Comes.given {stands ready : Prop} {does : Ledger → Prop} (comes : stands → Comes library s me now tx ready does)
    (asked : ∀ after, sendSigned library me tx now s = .ok after → stands) : Comes library s me now tx (stands ∧ ready) does := by
  refine ⟨⟨?_,?_⟩,?_,?_⟩
  · rintro ⟨after,sent⟩
    exact ⟨asked after sent,(comes (asked after sent)).accepted.mp ⟨after,sent⟩⟩
  · rintro ⟨held,isReady⟩
    exact (comes held).accepted.mpr isReady
  · intro after sent
    exact (comes (asked after sent)).reachable after sent
  · intro after sent
    exact (comes (asked after sent)).does after sent

theorem Comes.always {ready : Prop} {does : Ledger → Prop} (comes : Comes library s me now tx ready does) :
    Comes library s me now tx (True ∧ ready) does := Comes.given (fun _ => comes) fun _ _ => trivial

section Transactions
variable {library : TokenLibrary} {s : Ledger} {key me : Pubkey} {order : Order} {config : EscrowConfig} {now : I64} {call : EscrowCall}

theorem Pays.comes (pays : Pays library s key order config now call payee assetTo final) (reachable : Reachable s)
    (found : s.escrow.orders key = some order) (funded : order.isFunded) (configFound : s.escrow.config = some config)
    (signs : me.canSign) (signer : signerOf call = me) :
    Comes library s me now [escrowIx.ensureAtaIx me payee config.usdcMint,.escrow call]
      (CanTake library s payee config.usdcMint (balance s (.vault key)))
      (fun after => PaidOut library s after key order config.usdcMint payee assetTo final) := by
  refine ⟨?_,?_,?_⟩
  · rw [← pays.accepted_iff reachable found funded configFound]
    constructor
    · rintro ⟨after,sent⟩
      obtain ⟨-,-,middle,created,accepted⟩ := send_two.mp sent
      exact ⟨middle,after,created,accepted⟩
    · rintro ⟨middle,after,created,accepted⟩
      exact ⟨after,send_two.mpr ⟨⟨rfl,signer⟩,signs,middle,created,accepted⟩⟩
  · intro after sent
    obtain ⟨-,-,middle,created,accepted⟩ := send_two.mp sent
    exact paid_reachable reachable created accepted
  · intro after sent
    obtain ⟨-,-,middle,created,accepted⟩ := send_two.mp sent
    exact pays.paid_out reachable funded created accepted

theorem one_comes {ready : Prop} {does : Ledger → Prop} (reachable : Reachable s) (signer : signerOf call = me)
    (accepts : ready → ∃ after, processEscrow s now call = .ok after)
    (changes : ∀ after, processEscrow s now call = .ok after → ready ∧ does after) :
    Comes library s me now [.escrow call] ready does := by
  refine ⟨⟨?_,?_⟩,?_,?_⟩
  · rintro ⟨after,sent⟩
    exact (changes after (send_one.mp sent).2).1
  · intro isReady
    obtain ⟨after,accepted⟩ := accepts isReady
    exact ⟨after,send_one.mpr ⟨signer,accepted⟩⟩
  · intro after sent
    have accepted : process ⟨.escrow call,now⟩ s = .ok after := (send_one.mp sent).2
    exact reachable_process reachable accepted
  · intro after sent
    exact (changes after (send_one.mp sent).2).2

end Transactions

-- The passport of the order can be sold now, and by its seller.
def Sellable (s : Ledger) (order : Order) : Prop :=
  ∃ passport registry, s.flacon.passports order.passport = some passport ∧ s.flacon.registry = some registry ∧
    (¬passport.void ∧ passport.grade ≠ .void) ∧
    (order.assetDeposited ∨ checkSellerOf s order.seller passport order.asset registry = .ok ())

-- The associated token account of the buyer holds the price.
def HasFunds (library : TokenLibrary) (s : Ledger) (buyer usdcMint : Pubkey) (price : U64) : Prop :=
  ∃ paying, s.tokens (library.ata buyer usdcMint) = some paying ∧ paying.mint = usdcMint ∧ paying.owner = buyer ∧ price ≤ paying.amount

namespace Visit
variable (visit : Visit) (library : TokenLibrary) (config : EscrowConfig) (toSeller : Bool)

-- The ledger with another order at the address, and nothing else changed.
def wrote (order : Order) : Ledger := {visit.ledger with escrow.orders := visit.ledger.escrow.orders.put visit.key order}

def PayeeCanTake (payee : Pubkey) : Prop := CanTake library visit.ledger payee config.usdcMint (balance visit.ledger (.vault visit.key))

def PaidSeller (after : Ledger) : Prop :=
  PaidOut library visit.ledger after visit.key visit.order config.usdcMint visit.order.seller visit.order.buyer .released

def PaidBuyer (after : Ledger) : Prop :=
  PaidOut library visit.ledger after visit.key visit.order config.usdcMint visit.order.buyer visit.order.seller .dispute

-- What the page checks on its own clock and on the history it was given, as the program checks it: that the chosen scan can be
-- linked to the step, and that a deadline is over.
def Stands : EscrowAction → Prop
  | .preShip => ∃ scan proof, visit.page.chosen = some scan ∧
    ScanLinked visit.ledger visit.order scan.pda visit.me visit.order.reservedAt proof
  | .receipt => ∃ scan proof, visit.page.chosen = some scan ∧
    ScanLinked visit.ledger visit.order scan.pda visit.me visit.order.shippedAt proof
  | .refundNotShipped => visit.me = config.admin ∨ elapsed visit.order.reservedAt visit.order.disputeAfterS visit.now = .ok true
  | .releaseAfterTimeout => elapsed visit.order.shippedAt visit.order.disputeAfterS visit.now = .ok true
  | _ => True

-- What a button needs that the page does not check.
def Needs : EscrowAction → Prop
  | .reserve => Sellable visit.ledger visit.order ∧ HasFunds library visit.ledger visit.me config.usdcMint visit.order.price
  | .receipt => ∀ scan buyerScan sellerScan, visit.page.chosen = some scan → visit.ledger.flacon.scans scan.pda = some buyerScan →
    visit.ledger.flacon.scans visit.order.sellerScan = some sellerScan → buyerScan.sealKey = sellerScan.sealKey →
    sellerScan.counter < buyerScan.counter
  | .release | .releaseAfterTimeout => visit.PayeeCanTake library config visit.order.seller
  | .refundNotShipped | .disputeSealDead | .adminRefund => visit.PayeeCanTake library config visit.order.buyer
  | .resolve => visit.PayeeCanTake library config (if toSeller then visit.order.seller else visit.order.buyer)
  | .preShip | .ship | .cancel | .close => True

-- What a button does.
def Does (after : Ledger) : EscrowAction → Prop
  | .reserve => ∃ paying left, visit.ledger.tokens (library.ata visit.me config.usdcMint) = some paying ∧
    left.val + visit.order.price.val = paying.amount.val ∧
    after = {visit.wrote {visit.order with buyer := visit.me, reservedAt := visit.now, state := .reserved} with
      tokens := (visit.ledger.tokens.put (library.ata visit.me config.usdcMint) {paying with amount := left}).put (.vault visit.key)
        ⟨config.usdcMint,visit.key,visit.order.price⟩}
  | .preShip => ∃ scan, visit.page.chosen = some scan ∧
    after = visit.wrote {visit.order with sellerScan := scan.pda, state := .preshipScanned}
  | .ship => after = visit.wrote {visit.order with shippedAt := visit.now, state := .shipped}
  | .receipt => ∃ scan buyerScan sellerScan, visit.page.chosen = some scan ∧ visit.ledger.flacon.scans scan.pda = some buyerScan ∧
    visit.ledger.flacon.scans visit.order.sellerScan = some sellerScan ∧
    after = visit.wrote {visit.order with
      buyerScan := scan.pda
      state := if matched buyerScan sellerScan then .receiptScanned else .mismatch}
  | .release | .releaseAfterTimeout => visit.PaidSeller library config after
  | .refundNotShipped | .disputeSealDead | .adminRefund => visit.PaidBuyer library config after
  | .resolve => if toSeller then visit.PaidSeller library config after else visit.PaidBuyer library config after
  | .cancel => after = {visit.wrote {visit.order with state := .cancelled, assetDeposited := false} with
    assets := if visit.order.assetDeposited then visit.ledger.assets.put visit.order.asset visit.me else visit.ledger.assets}
  | .close => after = {visit.ledger with escrow.orders := visit.ledger.escrow.orders.erase visit.key}

-- The button builds a transaction, and what comes of it.
def Works (action : EscrowAction) : Prop :=
  ∃ tx, visit.page.act library toSeller action = some tx ∧
    Comes library visit.ledger visit.me visit.now tx (visit.Stands config action ∧ visit.Needs library config toSeller action)
      (fun after => visit.Does library config toSeller after action)

theorem buyer_shown (funded : visit.order.isFunded) : (toView visit.key visit.order).buyer = some visit.order.buyer :=
  nz_some (signs_not_default (buyer_can_sign visit.still funded))

theorem order_here : visit.key = .order visit.order.passport visit.order.seller :=
  (backed_at visit.run visit.pressed).orderHere visit.key visit.order visit.still

theorem seller_loads (isSeller : visit.order.seller = visit.me) :
    loadSellerOrder visit.ledger visit.key visit.order.seller = .ok visit.order :=
  loadSellerOrder_ok.mpr ⟨visit.still,visit.order_here,isSeller ▸ visit.signs,rfl⟩

theorem before_shipping_funded {order : Order} (state : order.state = .reserved ∨ order.state = .preshipScanned) : order.isFunded := by
  rcases state with state | state <;> simp [Order.isFunded,state]

theorem chosen_usable (chosen : (stepScanChoice o step scans choice).chosen = some scan) :
    scan ∈ scans ∧ ∃ now, step = some now ∧ scanFitsStep o now scan.ts = true := by
  simp only [stepScanChoice,Option.or_eq_some_iff] at chosen
  have usable := chosen.elim List.mem_of_find?_eq_some fun first => List.mem_of_head? first.2
  have offered := (List.mem_filter.mp usable).1
  cases step with
  | none => cases offered
  | some now =>
    obtain ⟨inside,fits⟩ := List.mem_filter.mp offered
    exact ⟨inside,now,rfl,fits⟩

theorem my_scan (inside : scan ∈ myScans visit.me visit.events) : ∃ e ∈ visit.events, e.type = .scan ∧ e.status = .confirmed ∧
    e.actor = some visit.me ∧ ∃ uidHash counter, e.sealUidHash = some uidHash ∧ e.counter = some counter ∧ e.ts = scan.ts ∧
      scan.sealKey = .sealOf uidHash ∧ scan.pda = .scan (.sealOf uidHash) counter := by
  simp only [myScans,List.mem_reverse,List.mem_filterMap,List.mem_filter,decide_eq_true_eq] at inside
  obtain ⟨e,⟨listed,isScan,actor,confirmed⟩,shown⟩ := inside
  simp only [scanOpt,Option.bind_eq_bind,Option.bind_eq_some_iff,Option.pure_def,Option.some.injEq] at shown
  obtain ⟨uidHash,uid,counter,counted,rfl⟩ := shown
  exact ⟨e,listed,isScan,confirmed,actor,uidHash,counter,uid,counted,rfl,rfl,rfl⟩

-- A linked scan is on the seal that its address names, so the program's check accepts it.
theorem linked_checked (inside : scan ∈ myScans visit.me visit.events) {stepAt : I64}
    (scanned : ScanLinked visit.ledger visit.order scan.pda visit.me stepAt proof) :
    ∃ attached, visit.ledger.flacon.seals scan.sealKey = some attached ∧
      checkScan visit.order proof scan.sealKey attached visit.me stepAt = .ok () := by
  obtain ⟨-,-,-,-,-,uidHash,counter,-,-,-,sealKey,pda⟩ := visit.my_scan inside
  have placed := visit.linked.scanHere _ _ scanned.scanFound
  rw [pda] at placed
  have same : proof.sealKey = scan.sealKey := (Pubkey.scan.inj placed).1.symm.trans sealKey.symm
  obtain ⟨attached,there,ofPassport⟩ := scanned.ofPassport
  have dated : checkScanNotBefore proof.ts stepAt = .ok () := by
    refine require_pass ?_
    have bounded := proof.ts.2
    have late := scanned.dated
    omega
  refine ⟨attached,same ▸ there,?_⟩
  simp only [checkScan,require_pass same,require_pass ofPassport,require_pass scanned.attested,ok_bind,dated]

-- What a page can count on where its clock is not ahead of the cluster's, the times of the order are no extreme ones, and the
-- confirmed scans of the history are on chain as it shows them.
structure InOrder : Prop where
  clock : visit.shown ≤ visit.now.1
  reservedAt : Moderate visit.order.reservedAt
  shippedAt : Moderate visit.order.shippedAt
  reported : ∀ e ∈ visit.events, e.type = .scan → e.status = .confirmed → ∀ actor, e.actor = some actor →
    ∀ uidHash, e.sealUidHash = some uidHash → ∀ counter, e.counter = some counter →
      ∃ scan found, (visit.run.ledger visit.opened).flacon.scans (.scan (.sealOf uidHash) counter) = some scan ∧
        scan.attester = actor ∧ scan.ts.1 = e.ts ∧
        (visit.run.ledger visit.opened).flacon.seals (.sealOf uidHash) = some found ∧ found.passport = visit.order.passport

theorem InOrder.linked {visit : Visit} (inOrder : visit.InOrder) (inside : scan ∈ myScans visit.me visit.events) {stepAt : I64}
    (fits : scan.ts ≥ stepAt.1 - SCAN_TS_SKEW_S) : ∃ proof, ScanLinked visit.ledger visit.order scan.pda visit.me stepAt proof := by
  obtain ⟨e,listed,isScan,confirmed,actor,uidHash,counter,uid,counted,time,sealKey,pda⟩ := visit.my_scan inside
  obtain ⟨proof,attached,written,attester,dated,there,ofPassport⟩ :=
    inOrder.reported e listed isScan confirmed visit.me actor uidHash uid counter counted
  have grows : Flacon.Grows (visit.run.ledger visit.opened).flacon (visit.run.ledger visit.pressed).flacon :=
    Flacon.grows_at visit.later
  obtain ⟨kept,still,rfl⟩ := grows.scans _ _ written
  obtain ⟨later,present,same,-⟩ := grows.seals _ _ there
  have placed := visit.linked.scanHere _ _ still
  have onSeal : proof.sealKey = .sealOf uidHash := (Pubkey.scan.inj placed).1.symm
  refine ⟨proof,pda ▸ still,⟨later,onSeal ▸ present,same.trans ofPassport⟩,attester,?_⟩
  rw [dated,time]
  exact fits

theorem vault_fresh (state : visit.order.state = .listed) : visit.ledger.tokens (.vault visit.key) = none := by
  by_contra present
  obtain ⟨vault,there⟩ := Option.ne_none_iff_exists'.mp present
  have funded := (funded_found visit.still).mp ((backed_at visit.run visit.pressed).hosted visit.key vault there)
  simp [Order.isFunded,state] at funded

theorem reserve_accepted (state : visit.order.state = .listed) (foreign : visit.me ≠ visit.order.seller)
    (configFound : visit.ledger.escrow.config = some config) (sellable : Sellable visit.ledger visit.order)
    (funds : HasFunds library visit.ledger visit.me config.usdcMint visit.order.price) :
    ∃ after, handleReserve visit.ledger ⟨.config,visit.key,visit.me,library.ata visit.me config.usdcMint,config.usdcMint,
      .vault visit.key,visit.order.passport,visit.order.asset,.registry⟩ visit.order.price visit.now = .ok after := by
  obtain ⟨passport,registry,passportFound,registryFound,valid,entitled⟩ := sellable
  obtain ⟨paying,payingFound,mint,owner,enough⟩ := funds
  have loadedConfig : loadConfig visit.ledger .config = .ok config := loadConfig_ok.mpr ⟨rfl,configFound⟩
  have loadedOrder : loadOrder visit.ledger visit.key = .ok visit.order := loadOrder_ok.mpr ⟨visit.still,visit.order_here⟩
  have loadedToken : loadTokenOf visit.ledger (library.ata visit.me config.usdcMint) config.usdcMint = .ok paying :=
    loadTokenOf_ok.mpr ⟨payingFound,mint⟩
  have opened : initVault visit.ledger.tokens (.vault visit.key) config.usdcMint visit.key =
      .ok (visit.ledger.tokens.put (.vault visit.key) ⟨config.usdcMint,visit.key,0⟩) := by
    simp only [initVault,visit.vault_fresh state]
  have apart : library.ata visit.me config.usdcMint ≠ .vault visit.key := library.not_vault _ _ _
  have funded := transfer_accepted ((Cells.put_other visit.ledger.tokens ⟨config.usdcMint,visit.key,0⟩ apart).trans payingFound)
    (Cells.put_self _ _ _) enough mint owner apart (by simp)
  simp only [handleReserve,loadedConfig,loadedOrder,loadedToken,opened,ok_bind,Flacon.requireSigner,visit.signs,require_pass,owner,
    Flacon.loadRegistry,orRefuse,state,passportFound,registryFound,require_pass foreign,require_pass valid]
  split
  · rename_i kept
    rw [entitled.resolve_left kept,ok_bind,funded,ok_bind]
    exact ⟨_,rfl⟩
  · rw [funded,ok_bind]
    exact ⟨_,rfl⟩

section Buttons
variable {visit} {library} {config} {toSeller} {shown : EscrowConfigView} (holds : visit.Holds config shown visit.page)
include holds

theorem release_works (offered : .release ∈ visit.page.actions visit.shown) : visit.Works library config toSeller .release := by
  have state : visit.order.state = .receiptScanned := holds.guards offered (by decide)
  have funded : visit.order.isFunded := by simp [Order.isFunded,state]
  have buyer := visit.buyer_shown funded
  refine ⟨[escrowIx.ensureAtaIx visit.me visit.order.seller config.usdcMint,
    .escrow (.release (shownRelease library visit.key visit.order config.usdcMint visit.me))],?_,?_⟩
  · simp only [OrderPage.act,holds.configShown,holds.sameOrder,holds.sameMe,holds.mint,escrowIx.release,buyer,Option.bind_eq_bind,Option.bind_some]
    rfl
  · exact ((release_pays visit.still holds.configFound (seller_can_sign visit.still (.inr (.inl state))) visit.signs state).comes
      visit.reachable visit.still funded holds.configFound visit.signs rfl).always

theorem release_late_works (offered : .releaseAfterTimeout ∈ visit.page.actions visit.shown) :
    visit.Works library config toSeller .releaseAfterTimeout := by
  have state : visit.order.state = .shipped := (state_same visit.order .shipped).mp (holds.offered offered).1
  have funded : visit.order.isFunded := by simp [Order.isFunded,state]
  have buyer := visit.buyer_shown funded
  refine ⟨[escrowIx.ensureAtaIx visit.me visit.order.seller config.usdcMint,
    .escrow (.releaseAfterTimeout (shownRelease library visit.key visit.order config.usdcMint visit.me))],?_,?_⟩
  · simp only [OrderPage.act,holds.configShown,holds.sameOrder,holds.sameMe,holds.mint,escrowIx.releaseAfterTimeout,buyer,
      Option.bind_eq_bind,Option.bind_some]
    rfl
  · refine Comes.given ?_ ?_
    · intro late
      exact (release_late_pays visit.still holds.configFound (seller_can_sign visit.still (.inl state)) visit.signs
        (release_late state late)).comes visit.reachable visit.still funded holds.configFound visit.signs rfl
    · intro after sent
      obtain ⟨-,-,middle,created,accepted⟩ := send_two.mp sent
      have there : middle.escrow.orders visit.key = some visit.order := by
        rw [created.frame]
        exact visit.still
      have passed := release_after_timeout_guarded (a := shownRelease library visit.key visit.order config.usdcMint visit.me)
        there accepted
      simp only [checkReleaseAfterTimeout,bind_ok,require_ok,exists_const] at passed
      obtain ⟨-,late,within,isLate⟩ := passed
      rw [isLate] at within
      exact within

-- The three buttons that dispute differ in the seal they pass, which decides what the guard sees.
theorem dispute_works (sealKey : Option Pubkey) (refunds : action = .refundNotShipped ∨ action = .disputeSealDead ∨ action = .adminRefund)
    (sends : visit.page.act library toSeller action =
      escrowIx.dispute library visit.page.order.toIxOrder visit.page.me shown.usdcMint sealKey)
    (passed : ∀ middle : Ledger, middle.flacon = visit.ledger.flacon → passedSealDead middle visit.order sealKey = .ok sealDead)
    (guard : (∃ reason, disputeGuard visit.order config.admin visit.me sealDead visit.now = .ok reason) ↔ visit.Stands config action)
    (funded : visit.order.isFunded) : visit.Works library config toSeller action := by
  have buyer := visit.buyer_shown funded
  have signs := buyer_can_sign visit.still funded
  have comes (stands : visit.Stands config action) : Comes library visit.ledger visit.me visit.now
      [escrowIx.ensureAtaIx visit.me visit.order.buyer config.usdcMint,
        .escrow (.dispute (shownDispute library visit.key visit.order config.usdcMint visit.me sealKey))]
      (visit.PayeeCanTake library config visit.order.buyer) (visit.PaidBuyer library config) := by
    obtain ⟨reason,decided⟩ := guard.mpr stands
    have pays : Pays library visit.ledger visit.key visit.order config visit.now
        (.dispute (shownDispute library visit.key visit.order config.usdcMint visit.me sealKey)) visit.order.buyer visit.order.seller
          .dispute :=
      dispute_pays visit.still holds.configFound signs visit.signs
        fun middle same => ⟨reason,(disputeReason_passed (passed middle same)).trans decided⟩
    exact pays.comes visit.reachable visit.still funded holds.configFound visit.signs rfl
  have given := Comes.given comes fun after sent => by
    obtain ⟨-,-,middle,created,accepted⟩ := send_two.mp sent
    have there : middle.escrow.orders visit.key = some visit.order := by
      rw [created.frame]
      exact visit.still
    have configThere : middle.escrow.config = some config := by
      rw [created.frame]
      exact holds.configFound
    have known : passedSealDead middle visit.order sealKey = .ok sealDead := passed middle (by rw [created.frame])
    exact guard.mp (dispute_guarded (a := shownDispute library visit.key visit.order config.usdcMint visit.me sealKey)
      there configThere known accepted)
  refine ⟨[escrowIx.ensureAtaIx visit.me visit.order.buyer config.usdcMint,
    .escrow (.dispute (shownDispute library visit.key visit.order config.usdcMint visit.me sealKey))],?_,?_⟩
  · rw [sends,holds.sameOrder,holds.sameMe,holds.mint]
    simp only [escrowIx.dispute,payoutRecipient,buyer]
    rfl
  · rcases refunds with rfl | rfl | rfl
    · exact given
    · exact given
    · exact given

theorem refund_works (offered : .refundNotShipped ∈ visit.page.actions visit.shown) :
    visit.Works library config toSeller .refundNotShipped := by
  obtain ⟨shownState,isBuyer,-⟩ := holds.offered offered
  have state := pre_shipping.mp shownState
  have isBuyer : visit.order.buyer = visit.me := viewer_buyer.mp isBuyer
  refine dispute_works holds none (.inl rfl) ?_ (fun _ _ => rfl) ⟨?_,?_⟩ (before_shipping_funded state)
  · simp only [OrderPage.act,holds.configShown,Option.bind_eq_bind,Option.bind_some]
  · intro decided
    by_cases isAdmin : visit.me = config.admin
    · exact .inl isAdmin
    · rw [← isBuyer] at decided isAdmin
      rcases ((dispute_guard_buyer isAdmin).mp decided).2 with dead | late
      · cases dead
      · exact .inr late.2
  · intro stands
    exact dispute_passes state isBuyer (stands.imp_right fun late => .inr ⟨rfl,late⟩)

theorem seal_dead_works (offered : .disputeSealDead ∈ visit.page.actions visit.shown) :
    visit.Works library config toSeller .disputeSealDead := by
  obtain ⟨state,-,known⟩ := holds.offered offered
  have guard : GuardsPass visit.order config.admin visit.me visit.now (.dispute (some true)) := holds.guards offered (by decide)
  obtain ⟨sealKey,picked⟩ := Option.isSome_iff_exists.mp known
  obtain ⟨found,there,ofPassport,dead⟩ := holds.dead sealKey picked
  refine dispute_works holds (some sealKey) (.inr (.inl rfl)) ?_ ?_ (iff_of_true guard trivial)
    (before_shipping_funded (pre_shipping.mp state))
  · simp only [OrderPage.act,holds.configShown,picked,Option.bind_eq_bind,Option.bind_some]
  · intro middle same
    simp only [passedSealDead,same,there,orRefuse,ok_bind,require_pass ofPassport,dead]
    rfl

theorem admin_refund_works (offered : .adminRefund ∈ visit.page.actions visit.shown) :
    visit.Works library config toSeller .adminRefund := by
  obtain ⟨state,-⟩ := holds.offered offered
  have guard : GuardsPass visit.order config.admin visit.me visit.now (.dispute none) := holds.guards offered (by decide)
  have funded : visit.order.isFunded := by
    rcases state with state | state
    · exact before_shipping_funded (pre_shipping.mp state)
    · simp [Order.isFunded,(state_same visit.order .shipped).mp state]
  refine dispute_works holds none (.inr (.inr rfl)) ?_ (fun _ _ => rfl) (iff_of_true guard trivial) funded
  simp only [OrderPage.act,holds.configShown,Option.bind_eq_bind,Option.bind_some]

theorem resolve_works (offered : .resolve ∈ visit.page.actions visit.shown) : visit.Works library config toSeller .resolve := by
  obtain ⟨isAdmin,state⟩ : config.admin = visit.me ∧ visit.order.state = .mismatch := holds.guards offered (by decide)
  have funded : visit.order.isFunded := by simp [Order.isFunded,state]
  have buyer := visit.buyer_shown funded
  have admin : config.admin.canSign := isAdmin ▸ visit.signs
  have pays : Pays library visit.ledger visit.key visit.order config visit.now
      (.resolve (shownResolve library visit.key visit.order config.usdcMint config.admin toSeller) toSeller)
        (if toSeller then visit.order.seller else visit.order.buyer) (if toSeller then visit.order.buyer else visit.order.seller)
        (if toSeller then .released else .dispute) :=
    resolve_pays visit.still holds.configFound toSeller (seller_can_sign visit.still (.inr (.inr state)))
      (buyer_can_sign visit.still funded) admin state
  have comes := (pays.comes visit.reachable visit.still funded holds.configFound visit.signs isAdmin).always
  refine ⟨[escrowIx.ensureAtaIx visit.me (if toSeller then visit.order.seller else visit.order.buyer) config.usdcMint,
    .escrow (.resolve (shownResolve library visit.key visit.order config.usdcMint config.admin toSeller) toSeller)],?_,?_⟩
  · rw [isAdmin]
    cases toSeller <;>
      simp only [OrderPage.act,holds.configShown,holds.sameOrder,holds.sameMe,holds.mint,escrowIx.resolve,payoutRecipient,buyer,
        Option.bind_eq_bind,Option.bind_some] <;> rfl
  · cases toSeller
    · exact comes
    · exact comes

theorem ship_works (offered : .ship ∈ visit.page.actions visit.shown) : visit.Works library config toSeller .ship := by
  obtain ⟨isSeller,state⟩ : visit.order.seller = visit.me ∧ visit.order.state = .preshipScanned := holds.guards offered (by decide)
  have loaded := visit.seller_loads isSeller
  refine ⟨[.escrow (.ship ⟨visit.key,visit.order.seller⟩)],?_,?_⟩
  · simp only [OrderPage.act,holds.sameOrder]
    rfl
  · refine Comes.always (one_comes visit.reachable isSeller ?_ ?_)
    · intro _
      simp only [processEscrow,handleShip,loaded,ok_bind,require_pass state]
      exact ⟨_,rfl⟩
    · intro after accepted
      cases process_change accepted with
      | ship _ old at_ =>
        cases Option.some.inj (at_.found.symm.trans visit.still)
        exact ⟨trivial,rfl⟩

theorem cancel_works (offered : .cancel ∈ visit.page.actions visit.shown) : visit.Works library config toSeller .cancel := by
  obtain ⟨isSeller,state⟩ : visit.order.seller = visit.me ∧ visit.order.state = .listed := holds.guards offered (by decide)
  have loaded := visit.seller_loads isSeller
  refine ⟨[.escrow (.cancel ⟨visit.key,visit.order.seller,(custody (toView visit.key visit.order).toIxOrder).1,
    (custody (toView visit.key visit.order).toIxOrder).2⟩)],?_,?_⟩
  · simp only [OrderPage.act,holds.sameOrder]
    rfl
  · refine Comes.always (one_comes visit.reachable isSeller ?_ ?_)
    · intro _
      obtain ⟨assets,returned⟩ := return_accepted (custody_at visit.run visit.pressed visit.key visit.order visit.still).held
        visit.order.seller
      rw [← returned_custody] at returned
      have returnedHere : returnAsset visit.ledger visit.key visit.order (custody (toView visit.key visit.order).toIxOrder).1
        (custody (toView visit.key visit.order).toIxOrder).2 visit.order.seller = .ok assets := returned
      simp only [processEscrow,handleCancel,loaded,ok_bind,require_pass state,returnedHere]
      exact ⟨_,rfl⟩
    · intro after accepted
      cases process_change accepted with
      | cancel _ old assets at_ signed sold stateThen returned =>
        cases Option.some.inj (at_.found.symm.trans visit.still)
        refine ⟨trivial,?_⟩
        rw [returned_assets returned]
        simp only [Does,wrote,isSeller]

theorem close_works (offered : .close ∈ visit.page.actions visit.shown) : visit.Works library config toSeller .close := by
  obtain ⟨isSeller,terminal⟩ : visit.order.seller = visit.me ∧ visit.order.isTerminal := holds.guards offered (by decide)
  have loaded := visit.seller_loads isSeller
  refine ⟨[.escrow (.closeOrder ⟨visit.key,visit.order.seller⟩)],?_,?_⟩
  · simp only [OrderPage.act,holds.sameOrder]
    rfl
  · refine Comes.always (one_comes visit.reachable isSeller ?_ ?_)
    · intro _
      simp only [processEscrow,handleCloseOrder,loaded,ok_bind,require_pass terminal]
      exact ⟨_,rfl⟩
    · intro after accepted
      cases process_change accepted with
      | closeOrder _ old at_ =>
        cases Option.some.inj (at_.found.symm.trans visit.still)
        exact ⟨trivial,rfl⟩

theorem reserve_works (offered : .reserve ∈ visit.page.actions visit.shown) : visit.Works library config toSeller .reserve := by
  obtain ⟨state,foreign⟩ : visit.order.state = .listed ∧ visit.me ≠ visit.order.seller := holds.guards offered (by decide)
  refine ⟨[.escrow (.reserve ⟨.config,visit.key,visit.me,library.ata visit.me config.usdcMint,config.usdcMint,.vault visit.key,
    visit.order.passport,visit.order.asset,.registry⟩ visit.order.price)],?_,?_⟩
  · simp only [OrderPage.act,holds.configShown,holds.sameOrder,holds.sameMe,holds.mint,Option.bind_eq_bind,Option.bind_some]
    rfl
  · refine Comes.always (one_comes visit.reachable rfl ?_ ?_)
    · rintro ⟨sellable,funds⟩
      exact visit.reserve_accepted library config state foreign holds.configFound sellable funds
    · intro after accepted
      cases process_change accepted with
      | reserve _ _ read old passport registry paying created tokens configFound at_ signed payingFound mint owner passportFound
          registryFound stateThen apart agreed valid entitled opened funded =>
        cases Option.some.inj (at_.found.symm.trans visit.still)
        cases Option.some.inj (configFound.symm.trans holds.configFound)
        obtain ⟨left,total,-,-,rfl⟩ := reserve_moves (backed_at visit.run visit.pressed) visit.still state payingFound opened funded
        refine ⟨⟨⟨passport,registry,passportFound,registryFound,valid,entitled⟩,paying,payingFound,mint,owner,?_⟩,
          paying,left,payingFound,total,rfl⟩
        rw [Fin.le_def]
        omega

theorem chosen_mine (chosen : visit.page.chosen = some scan) : scan ∈ myScans visit.me visit.events ∧
    ∃ step, visit.page.step = some step ∧ scanFitsStep (orderLike visit.order) step scan.ts = true := by
  obtain ⟨inside,step,now,fits⟩ := chosen_usable chosen
  rw [holds.sameMe,holds.events] at inside
  rw [holds.like] at fits
  exact ⟨inside,step,now,fits⟩

theorem pre_ship_step (state : visit.order.state = .reserved) : visit.page.step = some .preShip := by
  have code : visit.page.order.state = OrderState.RESERVED := by
    rw [holds.sameOrder]
    exact congrArg stateCode state
  rw [OrderPage.step,if_pos code]

theorem receipt_step (state : visit.order.state = .shipped) : visit.page.step = some .receipt := by
  have code : visit.page.order.state = OrderState.SHIPPED := by
    rw [holds.sameOrder]
    exact congrArg stateCode state
  have other : ¬visit.page.order.state = OrderState.RESERVED := by
    rw [code]
    decide
  rw [OrderPage.step,if_neg other,if_pos code]

theorem pre_ship_works (offered : .preShip ∈ visit.page.actions visit.shown) (chosen : visit.page.chosen = some scan) :
    visit.Works library config toSeller .preShip := by
  obtain ⟨isSeller,state⟩ : visit.order.seller = visit.me ∧ visit.order.state = .reserved := holds.guards offered (by decide)
  have loaded := visit.seller_loads isSeller
  have inside := (chosen_mine holds chosen).1
  refine ⟨[.escrow (.recordPreShipScan ⟨visit.key,visit.order.seller,scan.pda,scan.sealKey⟩)],?_,?_⟩
  · simp only [OrderPage.act,chosen,holds.sameOrder,Option.bind_eq_bind,Option.bind_some]
    rfl
  · refine one_comes visit.reachable isSeller ?_ ?_
    · rintro ⟨⟨other,proof,picked,scanned⟩,-⟩
      cases Option.some.inj (picked.symm.trans chosen)
      obtain ⟨attached,sealFound,checked⟩ := visit.linked_checked inside scanned
      rw [← isSeller] at checked
      simp only [processEscrow,handleRecordPreShipScan,loaded,ok_bind,scanned.scanFound,sealFound,orRefuse,require_pass state,checked]
      exact ⟨_,rfl⟩
    · intro after accepted
      cases process_change accepted with
      | recordPreShipScan _ old read at_ signed sold stateThen scanned =>
        cases Option.some.inj (at_.found.symm.trans visit.still)
        exact ⟨⟨⟨scan,read,chosen,isSeller ▸ scanned⟩,trivial⟩,scan,chosen,rfl⟩

theorem receipt_works (offered : .receipt ∈ visit.page.actions visit.shown) (chosen : visit.page.chosen = some scan) :
    visit.Works library config toSeller .receipt := by
  obtain ⟨isBuyer,state⟩ : visit.order.buyer = visit.me ∧ visit.order.state = .shipped := holds.guards offered (by decide)
  have funded : visit.order.isFunded := by simp [Order.isFunded,state]
  have buyer := visit.buyer_shown funded
  have signs := buyer_can_sign visit.still funded
  obtain ⟨sellerScan,sellerScanFound⟩ := seller_scan_found visit.still state
  have inside := (chosen_mine holds chosen).1
  have recorded : visit.order.sellerScan ≠ .default := by
    intro none
    have placed := visit.linked.scanHere _ _ sellerScanFound
    rw [none] at placed
    cases placed
  have shownScan : (toView visit.key visit.order).sellerScan = some visit.order.sellerScan := nz_some recorded
  refine ⟨[.escrow (.recordReceiptScan ⟨visit.key,visit.order.buyer,scan.pda,scan.sealKey,visit.order.sellerScan⟩)],?_,?_⟩
  · simp only [OrderPage.act,chosen,holds.sameOrder,escrowIx.receipt,buyer,shownScan,Option.bind_eq_bind,Option.bind_some]
    rfl
  · refine one_comes visit.reachable isBuyer ?_ ?_
    · rintro ⟨⟨other,proof,picked,scanned⟩,ready⟩
      cases Option.some.inj (picked.symm.trans chosen)
      have loaded : loadOrder visit.ledger visit.key = .ok visit.order := loadOrder_ok.mpr ⟨visit.still,visit.order_here⟩
      obtain ⟨attached,sealFound,checked⟩ := visit.linked_checked inside scanned
      rw [← isBuyer] at checked
      have newer : proof.sealKey = sellerScan.sealKey → proof.counter > sellerScan.counter :=
        ready scan proof sellerScan chosen scanned.scanFound sellerScanFound
      have sellerScanHere : visit.ledger.flacon.scans visit.order.sellerScan = some sellerScan := sellerScanFound
      simp only [processEscrow,handleRecordReceiptScan,loaded,ok_bind,Flacon.requireSigner,signs,require_pass,scanned.scanFound,
        sealFound,orRefuse,sellerScanHere,state,checked,require_pass newer]
      exact ⟨_,rfl⟩
    · intro after accepted
      cases process_change accepted with
      | recordReceiptScan _ old buyerScan read at_ signed isBuyerThen stateThen scanned readFound newer =>
        cases Option.some.inj (at_.found.symm.trans visit.still)
        refine ⟨⟨⟨scan,buyerScan,chosen,isBuyer ▸ scanned⟩,?_⟩,scan,buyerScan,read,chosen,scanned.scanFound,readFound,rfl⟩
        intro other first second picked firstFound secondFound
        cases Option.some.inj (picked.symm.trans chosen)
        cases Option.some.inj (firstFound.symm.trans scanned.scanFound)
        cases Option.some.inj (secondFound.symm.trans readFound)
        exact newer

-- On a page in order the chosen scan can be linked to the step it was chosen for.
theorem linked_in_order (inOrder : visit.InOrder) {step : ScanStep} (named : visit.page.step = some step) (picked : visit.page.chosen ≠ none)
    {stepAt : I64} (dated : ∀ ts, scanFitsStep (orderLike visit.order) step ts = true → ts ≥ stepAt.1 - SCAN_TS_SKEW_S) :
    ∃ scan proof, visit.page.chosen = some scan ∧ ScanLinked visit.ledger visit.order scan.pda visit.me stepAt proof := by
  obtain ⟨scan,chosen⟩ := Option.ne_none_iff_exists'.mp picked
  obtain ⟨inside,other,now,fits⟩ := chosen_mine holds chosen
  cases Option.some.inj (now.symm.trans named)
  obtain ⟨proof,scanned⟩ := inOrder.linked inside (dated scan.ts fits)
  exact ⟨scan,proof,chosen,scanned⟩

-- On a page in order what the page checks is what the program checks.
theorem stands_in_order (inOrder : visit.InOrder) (offered : action ∈ visit.page.actions visit.shown)
    (picked : action = .preShip ∨ action = .receipt → visit.page.chosen ≠ none) : visit.Stands config action := by
  have shownOffered := holds.offered offered
  have clock := inOrder.clock
  cases action with
  | preShip =>
    have state : visit.order.state = .reserved := (holds.guards offered (by decide)).2
    exact linked_in_order holds inOrder (pre_ship_step holds state) (picked (.inl rfl)) fun _ => of_decide_eq_true
  | receipt =>
    have state : visit.order.state = .shipped := (holds.guards offered (by decide)).2
    exact linked_in_order holds inOrder (receipt_step holds state) (picked (.inr rfl)) fun _ => of_decide_eq_true
  | refundNotShipped => exact .inr ((elapsed_iff inOrder.reservedAt).mpr (lt_of_lt_of_le shownOffered.2.2 clock))
  | releaseAfterTimeout => exact (elapsed_iff inOrder.shippedAt).mpr (lt_of_lt_of_le shownOffered.2 clock)
  | reserve | ship | release | disputeSealDead | adminRefund | resolve | cancel | close => exact trivial

end Buttons

end Visit

-- Every button of the order page keeps its word. Its transaction needs no signature but the wallet's; pressed, it goes through
-- exactly if what the program asks for holds, and then the ledger has changed as the button says and in nothing else. A scan
-- button without a chosen scan sends nothing.
structure ButtonLaw (library : TokenLibrary) (visit : Visit) (config : EscrowConfig) (toSeller : Bool) (action : EscrowAction) :
    Prop where
  works : visit.Works library config toSeller action ∨
    (action = .preShip ∨ action = .receipt) ∧ visit.page.chosen = none ∧ visit.page.act library toSeller action = none
  stands : visit.InOrder → (action = .preShip ∨ action = .receipt → visit.page.chosen ≠ none) → visit.Stands config action

structure PageLaw (library : TokenLibrary) (visit : Visit) : Prop where
  works : ∃ config, visit.ledger.escrow.config = some config ∧
    ∀ action ∈ visit.page.actions visit.shown, ∀ toSeller, ButtonLaw library visit config toSeller action

theorem order_page (library : TokenLibrary) (visit : Visit) : PageLaw library visit := by
  obtain ⟨config,shown,holds⟩ := visit.holds
  refine ⟨config,holds.configFound,?_⟩
  intro action offered toSeller
  refine ⟨?_,fun inOrder picked => Visit.stands_in_order holds inOrder offered picked⟩
  cases action with
  | reserve => exact .inl (Visit.reserve_works holds offered)
  | cancel => exact .inl (Visit.cancel_works holds offered)
  | preShip =>
    cases chosen : visit.page.chosen with
    | some scan => exact .inl (Visit.pre_ship_works holds offered chosen)
    | none =>
      refine .inr ⟨.inl rfl,rfl,?_⟩
      simp only [OrderPage.act,chosen,Option.bind_eq_bind,Option.bind_none]
  | ship => exact .inl (Visit.ship_works holds offered)
  | receipt =>
    cases chosen : visit.page.chosen with
    | some scan => exact .inl (Visit.receipt_works holds offered chosen)
    | none =>
      refine .inr ⟨.inr rfl,rfl,?_⟩
      simp only [OrderPage.act,chosen,Option.bind_eq_bind,Option.bind_none]
  | release => exact .inl (Visit.release_works holds offered)
  | refundNotShipped => exact .inl (Visit.refund_works holds offered)
  | releaseAfterTimeout => exact .inl (Visit.release_late_works holds offered)
  | disputeSealDead => exact .inl (Visit.seal_dead_works holds offered)
  | adminRefund => exact .inl (Visit.admin_refund_works holds offered)
  | resolve => exact .inl (Visit.resolve_works holds offered)
  | close => exact .inl (Visit.close_works holds offered)

-- The page of the buyer of a shipped bottle, who has scanned it.
namespace Sale
open Escrow.Sale

def library : TokenLibrary where
  ata owner _ := match owner with
    | .keypair n => .foreign (100+n)
    | _ => .foreign 99
  outside owner _ := by cases owner <;> rfl

def receiptScan : PassportEvent := ⟨.scan,some buyer,.confirmed,some (hash 8),0,some 2,some 0,some 0⟩

theorem shipped : ((Escrow.Sale.run.ledger 16).escrow.orders order).isSome := by decide +kernel

def shippedOrder : Order := ((Escrow.Sale.run.ledger 16).escrow.orders order).get shipped

theorem shipped_there : (Escrow.Sale.run.ledger 16).escrow.orders order = some shippedOrder := (Option.some_get shipped).symm

theorem scanned : ((Escrow.Sale.run.ledger 16).flacon.scans (.scan (.sealOf (hash 8)) 2)).isSome := by decide +kernel

theorem attached : ((Escrow.Sale.run.ledger 16).flacon.seals (.sealOf (hash 8))).isSome := by decide +kernel

theorem scan_there : ∃ scan found, (Escrow.Sale.run.ledger 16).flacon.scans (.scan (.sealOf (hash 8)) 2) = some scan ∧
    scan.attester = buyer ∧ scan.ts.1 = receiptScan.ts ∧ (Escrow.Sale.run.ledger 16).flacon.seals (.sealOf (hash 8)) = some found ∧
    found.passport = shippedOrder.passport :=
  ⟨_,_,(Option.some_get scanned).symm,by decide +kernel,by decide +kernel,(Option.some_get attached).symm,by decide +kernel⟩

theorem loads : (OrderPage.load buyer order [hash 8] [receiptScan] none (Escrow.Sale.run.ledger 16)).isSome := by decide +kernel

def shownPage : OrderPage := (OrderPage.load buyer order [hash 8] [receiptScan] none (Escrow.Sale.run.ledger 16)).get loads

theorem loaded_page : OrderPage.load buyer order [hash 8] [receiptScan] none (Escrow.Sale.run.ledger 16) = some shownPage :=
  (Option.some_get loads).symm

-- The buyer's page of a shipped bottle, with the receipt scan in its history.
def receiving : Visit where
  run := Escrow.Sale.run
  opened := 16
  pressed := 16
  later := le_refl _
  key := order
  order := shippedOrder
  found := shipped_there
  still := shipped_there
  me := buyer
  signs := rfl
  sealHashes := [hash 8]
  events := [receiptScan]
  scanChoice := none
  page := shownPage
  loaded := loaded_page
  shown := 0
  now := .zero

theorem receiving_in_order : receiving.InOrder where
  clock := le_refl _
  reservedAt := by
    unfold Moderate
    decide +kernel
  shippedAt := by
    unfold Moderate
    decide +kernel
  reported := by
    intro e listed isScan confirmed actor acts uidHash uid counter counted
    cases List.mem_singleton.mp listed
    have isBuyer : buyer = actor := Option.some.inj acts
    have isSeal : Escrow.Sale.hash 8 = uidHash := Option.some.inj uid
    have isSecond : (2 : U32) = counter := Option.some.inj counted
    rw [← isBuyer,← isSeal,← isSecond]
    simp only [receiving]
    exact scan_there

end Sale

theorem receiving_works : ∃ config, Sale.receiving.ledger.escrow.config = some config ∧
    Sale.receiving.Works Sale.library config true .receipt ∧ Sale.receiving.Stands config .receipt := by
  obtain ⟨config,configFound,law⟩ := (order_page Sale.library Sale.receiving).works
  have chosen : Sale.receiving.page.chosen ≠ none := Option.isSome_iff_ne_none.mp (by decide +kernel)
  obtain ⟨works,stands⟩ := law .receipt (by decide +kernel) true
  refine ⟨config,configFound,?_,stands Sale.receiving_in_order fun _ => chosen⟩
  rcases works with works | unchosen
  · exact works
  · exact absurd unchosen.2.1 chosen

end FlaconVault.Web
