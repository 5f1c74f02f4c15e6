import FlaconVault.Escrow.Guards
namespace FlaconVault.Web
open Guards Escrow

-- The escrow rules of the web app. Its numbers are integers here, which is exact while they stay below 2^53.
namespace OrderState
def LISTED : ℕ := 0
def RESERVED : ℕ := 1
def PRESHIP_SCANNED : ℕ := 2
def SHIPPED : ℕ := 3
def RECEIPT_SCANNED : ℕ := 4
def RELEASED : ℕ := 5
def MISMATCH : ℕ := 6
def DISPUTE : ℕ := 7
def CANCELLED : ℕ := 8
end OrderState

def MIN_DISPUTE_AFTER_S : Int := 60*60
def MAX_DISPUTE_AFTER_S : Int := 60*24*60*60

def effectiveWindow (disputeAfterS : Int) : Int := min (max disputeAfterS MIN_DISPUTE_AFTER_S) MAX_DISPUTE_AFTER_S

def isTerminal (state : ℕ) : Bool :=
  state == OrderState.RELEASED || state == OrderState.DISPUTE || state == OrderState.CANCELLED

structure OrderLike where
  state : ℕ
  reservedAt : Int
  shippedAt : Int
  disputeAfterS : Int

structure Viewer where
  isSeller : Bool
  isBuyer : Bool
  isAdmin : Bool
  sealDead : Bool

def shipDeadline (o : OrderLike) : Int := o.reservedAt + effectiveWindow o.disputeAfterS
def receiptDeadline (o : OrderLike) : Int := o.shippedAt + effectiveWindow o.disputeAfterS

inductive EscrowAction where
  | reserve | cancel | preShip | ship | receipt | release | refundNotShipped | releaseAfterTimeout | disputeSealDead
  | adminRefund | resolve | close
  deriving DecidableEq

-- Each push of the source as a list of at most one action.
def offer (condition : Prop) [Decidable condition] (action : EscrowAction) : List EscrowAction :=
  if condition then [action] else []

@[simp] theorem mem_offer {condition : Prop} [Decidable condition] {action offered : EscrowAction} :
    action ∈ offer condition offered ↔ condition ∧ action = offered := by
  unfold offer
  split <;> simp_all

def availableActions (o : OrderLike) (v : Viewer) (now : Int) : List EscrowAction :=
  let preShipping := o.state = OrderState.RESERVED ∨ o.state = OrderState.PRESHIP_SCANNED
  let refundable := preShipping ∨ o.state = OrderState.SHIPPED
  offer (o.state = OrderState.LISTED) (if v.isSeller then .cancel else .reserve) ++
  offer (o.state = OrderState.RESERVED ∧ v.isSeller) .preShip ++
  offer (o.state = OrderState.PRESHIP_SCANNED ∧ v.isSeller) .ship ++
  offer (o.state = OrderState.SHIPPED ∧ v.isBuyer) .receipt ++
  offer (o.state = OrderState.RECEIPT_SCANNED) .release ++
  offer (preShipping ∧ v.isBuyer ∧ now > shipDeadline o) .refundNotShipped ++
  offer (o.state = OrderState.SHIPPED ∧ now > receiptDeadline o) .releaseAfterTimeout ++
  offer (preShipping ∧ v.isBuyer ∧ v.sealDead) .disputeSealDead ++
  offer (refundable ∧ v.isAdmin) .adminRefund ++
  offer (o.state = OrderState.MISMATCH ∧ v.isAdmin) .resolve ++
  offer (isTerminal o.state ∧ v.isSeller) .close

-- The state numbers of the program.
def stateCode : FlaconVault.OrderState → ℕ
  | .listed => 0
  | .reserved => 1
  | .preshipScanned => 2
  | .shipped => 3
  | .receiptScanned => 4
  | .released => 5
  | .mismatch => 6
  | .dispute => 7
  | .cancelled => 8

-- What the page computes from the account and the connected key.
def orderLike (order : Order) : OrderLike := ⟨stateCode order.state,order.reservedAt.1,order.shippedAt.1,order.disputeAfterS.1⟩
def viewerOf (order : Order) (admin viewer : Pubkey) (sealDead : Bool) : Viewer :=
  ⟨viewer == order.seller,viewer == order.buyer,viewer == admin,sealDead⟩

-- The instruction behind each button.
def callOf : EscrowAction → GuardedCall
  | .reserve => .reserve
  | .cancel => .cancel
  | .preShip => .recordPreShipScan
  | .ship => .ship
  | .receipt => .recordReceiptScan
  | .release => .release
  | .refundNotShipped => .dispute none
  | .releaseAfterTimeout => .releaseAfterTimeout
  | .disputeSealDead => .dispute (some true)
  | .adminRefund => .dispute none
  | .resolve => .resolve
  | .close => .closeOrder

-- An action stands for an instruction; the three disputes stand for a dispute with any seal.
def StandsFor (action : EscrowAction) : GuardedCall → Prop
  | .dispute _ => action = .refundNotShipped ∨ action = .disputeSealDead ∨ action = .adminRefund
  | call => callOf action = call

theorem window_same (disputeAfterS : I64) : effectiveWindow disputeAfterS.1 = (Escrow.effectiveWindow disputeAfterS).1 := by
  unfold effectiveWindow Escrow.effectiveWindow MIN_DISPUTE_AFTER_S MAX_DISPUTE_AFTER_S Escrow.MIN_DISPUTE_AFTER_S
    Escrow.MAX_DISPUTE_AFTER_S
  dsimp only
  omega

theorem stateCode_inj {first second : FlaconVault.OrderState} (same : stateCode first = stateCode second) : first = second := by
  cases first <;> cases second <;> first | rfl | cases same

theorem state_same (order : Order) (state : FlaconVault.OrderState) : (orderLike order).state = stateCode state ↔ order.state = state :=
  ⟨stateCode_inj,congrArg stateCode⟩

theorem terminal_same (order : Order) : isTerminal (orderLike order).state = order.isTerminal := by
  unfold orderLike Order.isTerminal
  cases order.state <;> rfl

-- When each action is offered, read off the list.
def Offered (o : OrderLike) (v : Viewer) (now : Int) : EscrowAction → Prop
  | .reserve => o.state = OrderState.LISTED ∧ ¬v.isSeller
  | .cancel => o.state = OrderState.LISTED ∧ v.isSeller
  | .preShip => o.state = OrderState.RESERVED ∧ v.isSeller
  | .ship => o.state = OrderState.PRESHIP_SCANNED ∧ v.isSeller
  | .receipt => o.state = OrderState.SHIPPED ∧ v.isBuyer
  | .release => o.state = OrderState.RECEIPT_SCANNED
  | .refundNotShipped => (o.state = OrderState.RESERVED ∨ o.state = OrderState.PRESHIP_SCANNED) ∧ v.isBuyer ∧ now > shipDeadline o
  | .releaseAfterTimeout => o.state = OrderState.SHIPPED ∧ now > receiptDeadline o
  | .disputeSealDead => (o.state = OrderState.RESERVED ∨ o.state = OrderState.PRESHIP_SCANNED) ∧ v.isBuyer ∧ v.sealDead
  | .adminRefund =>
    ((o.state = OrderState.RESERVED ∨ o.state = OrderState.PRESHIP_SCANNED) ∨ o.state = OrderState.SHIPPED) ∧ v.isAdmin
  | .resolve => o.state = OrderState.MISMATCH ∧ v.isAdmin
  | .close => isTerminal o.state ∧ v.isSeller

theorem offered_iff (action : EscrowAction) : action ∈ availableActions o v now ↔ Offered o v now action := by
  cases seller : v.isSeller <;> cases action <;> simp [availableActions,Offered,seller]

-- A number whose deadline sums are exact in the page and fit the clock of the program.
def Moderate (t : I64) : Prop := t.1.natAbs ≤ 2^52

theorem elapsed_iff (moderate : Moderate start) :
    elapsed start disputeAfterS now = .ok true ↔ now.1 > start.1 + effectiveWindow disputeAfterS.1 := by
  have window := (effectiveWindow_bounds disputeAfterS).2
  unfold Moderate at moderate
  unfold Escrow.MAX_DISPUTE_AFTER_S at window
  rw [window_same]
  exact ⟨elapsed_true,elapsed_ok (by omega)⟩

-- The buyer's and the admin's dispute, as conditions.
theorem dispute_guard_admin (sealDead : Option Bool) :
    (∃ reason, disputeGuard order admin admin sealDead now = .ok reason) ↔ adminMayRefund order.state := by
  unfold disputeGuard
  rw [if_pos rfl]
  simp only [bind_ok,require_ok,exists_const,pure_ok,exists_and_left,exists_eq',and_true]

theorem dispute_guard_buyer {order : Order} (different : order.buyer ≠ admin) :
    (∃ reason, disputeGuard order admin order.buyer sealDead now = .ok reason) ↔
      (order.state = .reserved ∨ order.state = .preshipScanned) ∧
        (sealDead = some true ∨ sealDead = none ∧ elapsed order.reservedAt order.disputeAfterS now = .ok true) := by
  unfold disputeGuard
  rw [if_neg different,if_pos rfl]
  constructor
  · rintro ⟨reason,accepted⟩
    have state := (buyerDisputeReason_parts accepted).1
    refine ⟨state,?_⟩
    cases sealDead with
    | some dead =>
      rcases (buyerDisputeReason_parts accepted).2 with isDead | ⟨unpassed,-⟩
      · exact .inl isDead
      · cases unpassed
    | none =>
      simp only [buyerDisputeReason,bind_ok,require_ok,exists_const] at accepted
      obtain ⟨-,-,late,within,isLate,-⟩ := accepted
      exact .inr ⟨rfl,isLate ▸ within⟩
  · rintro ⟨state,ground⟩
    rcases ground with dead | ⟨unpassed,late⟩
    · have open_ : order.state ≠ .receiptScanned := by rcases state with state | state <;> simp [state]
      have unshipped : order.state ≠ .shipped := by rcases state with state | state <;> simp [state]
      refine ⟨.sealDead,?_⟩
      simp only [buyerDisputeReason,dead,require_pass open_,require_pass unshipped,require_pass state,ok_bind]
      rfl
    · rw [unpassed]
      exact ⟨.timeout,buyer_dispute_late state late⟩

section Buttons
variable {order : Order} {admin viewer : Pubkey} {sealDead : Bool} {now : I64}

theorem viewer_seller : (viewerOf order admin viewer sealDead).isSeller = true ↔ order.seller = viewer :=
  beq_iff_eq.trans eq_comm

theorem viewer_buyer : (viewerOf order admin viewer sealDead).isBuyer = true ↔ order.buyer = viewer :=
  beq_iff_eq.trans eq_comm

theorem viewer_admin : (viewerOf order admin viewer sealDead).isAdmin = true ↔ admin = viewer :=
  beq_iff_eq.trans eq_comm

theorem pre_shipping : (orderLike order).state = OrderState.RESERVED ∨ (orderLike order).state = OrderState.PRESHIP_SCANNED ↔
    order.state = .reserved ∨ order.state = .preshipScanned :=
  or_congr (state_same order .reserved) (state_same order .preshipScanned)

theorem refundable : ((orderLike order).state = OrderState.RESERVED ∨ (orderLike order).state = OrderState.PRESHIP_SCANNED) ∨
    (orderLike order).state = OrderState.SHIPPED ↔ adminMayRefund order.state := by
  rw [pre_shipping]
  refine (or_congr Iff.rfl (state_same order .shipped)).trans ?_
  cases order.state <;> simp [adminMayRefund]

-- A buyer's dispute before shipping passes with a dead seal, or late, and for a buyer who is also the admin anyhow.
theorem dispute_passes (state : order.state = .reserved ∨ order.state = .preshipScanned) (isBuyer : order.buyer = viewer)
    (ground : viewer = admin ∨ passed = some true ∨
      passed = none ∧ elapsed order.reservedAt order.disputeAfterS now = .ok true) :
    GuardsPass order admin viewer now (.dispute passed) := by
  subst isBuyer
  by_cases different : order.buyer = admin
  · subst different
    refine (dispute_guard_admin passed).mpr ?_
    rcases state with state | state <;> simp [state,adminMayRefund]
  · exact (dispute_guard_buyer different).mpr ⟨state,ground.resolve_left different⟩

-- An action offered by one clock passes its guards by another, where that one agrees about the two deadlines.
theorem shown_guards {clock : Int} (offered : Offered (orderLike order) (viewerOf order admin viewer sealDead) clock action)
    (refund : action = .refundNotShipped → viewer = admin ∨ elapsed order.reservedAt order.disputeAfterS now = .ok true)
    (release : action = .releaseAfterTimeout → elapsed order.shippedAt order.disputeAfterS now = .ok true) :
    GuardsPass order admin viewer now (callOf action) := by
  cases action with
  | reserve =>
    obtain ⟨state,foreign⟩ := offered
    exact ⟨(state_same order .listed).mp state,fun isSeller => foreign (viewer_seller.mpr isSeller.symm)⟩
  | cancel =>
    obtain ⟨state,isSeller⟩ := offered
    exact ⟨viewer_seller.mp isSeller,(state_same order .listed).mp state⟩
  | preShip =>
    obtain ⟨state,isSeller⟩ := offered
    exact ⟨viewer_seller.mp isSeller,(state_same order .reserved).mp state⟩
  | ship =>
    obtain ⟨state,isSeller⟩ := offered
    exact ⟨viewer_seller.mp isSeller,(state_same order .preshipScanned).mp state⟩
  | receipt =>
    obtain ⟨state,isBuyer⟩ := offered
    exact ⟨viewer_buyer.mp isBuyer,(state_same order .shipped).mp state⟩
  | release => exact (state_same order .receiptScanned).mp offered
  | refundNotShipped =>
    obtain ⟨state,isBuyer,-⟩ := offered
    refine dispute_passes (pre_shipping.mp state) (viewer_buyer.mp isBuyer) ?_
    rcases refund rfl with isAdmin | late
    · exact .inl isAdmin
    · exact .inr (.inr ⟨rfl,late⟩)
  | releaseAfterTimeout => exact release_late ((state_same order .shipped).mp offered.1) (release rfl)
  | disputeSealDead =>
    obtain ⟨state,isBuyer,-⟩ := offered
    exact dispute_passes (pre_shipping.mp state) (viewer_buyer.mp isBuyer) (.inr (.inl rfl))
  | adminRefund =>
    obtain ⟨state,isAdmin⟩ := offered
    obtain rfl := viewer_admin.mp isAdmin
    exact (dispute_guard_admin none).mpr (refundable.mp state)
  | resolve =>
    obtain ⟨state,isAdmin⟩ := offered
    exact ⟨viewer_admin.mp isAdmin,(state_same order .mismatch).mp state⟩
  | close =>
    obtain ⟨state,isSeller⟩ := offered
    exact ⟨viewer_seller.mp isSeller,(terminal_same order).symm.trans state⟩

theorem offered_guards (reserved : Moderate order.reservedAt) (shipped : Moderate order.shippedAt)
    (offered : Offered (orderLike order) (viewerOf order admin viewer sealDead) now.1 action) :
    GuardsPass order admin viewer now (callOf action) := by
  refine shown_guards offered ?_ ?_
  · rintro rfl
    exact .inr ((elapsed_iff reserved).mpr offered.2.2)
  · rintro rfl
    exact (elapsed_iff shipped).mpr offered.2

theorem guards_offered (reserved : Moderate order.reservedAt) (passes : GuardsPass order admin viewer now call)
    (known : call = .dispute (some true) → sealDead = true) :
    ∃ action, Offered (orderLike order) (viewerOf order admin viewer sealDead) now.1 action ∧ StandsFor action call := by
  cases call with
  | reserve =>
    obtain ⟨state,foreign⟩ := passes
    exact ⟨.reserve,⟨(state_same order .listed).mpr state,fun isSeller => foreign (viewer_seller.mp isSeller).symm⟩,rfl⟩
  | cancel => exact ⟨.cancel,⟨(state_same order .listed).mpr passes.2,viewer_seller.mpr passes.1⟩,rfl⟩
  | recordPreShipScan => exact ⟨.preShip,⟨(state_same order .reserved).mpr passes.2,viewer_seller.mpr passes.1⟩,rfl⟩
  | ship => exact ⟨.ship,⟨(state_same order .preshipScanned).mpr passes.2,viewer_seller.mpr passes.1⟩,rfl⟩
  | recordReceiptScan => exact ⟨.receipt,⟨(state_same order .shipped).mpr passes.2,viewer_buyer.mpr passes.1⟩,rfl⟩
  | release => exact ⟨.release,(state_same order .receiptScanned).mpr passes,rfl⟩
  | releaseAfterTimeout =>
    obtain ⟨state,late⟩ := checkReleaseAfterTimeout_parts passes
    rw [← window_same] at late
    exact ⟨.releaseAfterTimeout,⟨(state_same order .shipped).mpr state,late⟩,rfl⟩
  | resolve => exact ⟨.resolve,⟨(state_same order .mismatch).mpr passes.2,viewer_admin.mpr passes.1⟩,rfl⟩
  | closeOrder => exact ⟨.close,⟨(terminal_same order).trans passes.2,viewer_seller.mpr passes.1⟩,rfl⟩
  | dispute passed =>
    by_cases isAdmin : viewer = admin
    · subst isAdmin
      exact ⟨.adminRefund,⟨refundable.mpr ((dispute_guard_admin passed).mp passes),viewer_admin.mpr rfl⟩,.inr (.inr rfl)⟩
    · by_cases isBuyer : viewer = order.buyer
      · subst isBuyer
        obtain ⟨state,rfl | ⟨rfl,late⟩⟩ := (dispute_guard_buyer isAdmin).mp passes
        · exact ⟨.disputeSealDead,⟨pre_shipping.mpr state,viewer_buyer.mpr rfl,known rfl⟩,.inr (.inl rfl)⟩
        · exact ⟨.refundNotShipped,⟨pre_shipping.mpr state,viewer_buyer.mpr rfl,(elapsed_iff reserved).mp late⟩,.inl rfl⟩
      · obtain ⟨reason,accepted⟩ := passes
        rw [disputeGuard,if_neg isAdmin,if_neg isBuyer] at accepted
        cases accepted

-- What the page knows of the seals: whether one of the passport is dead.
def DeadSeal (s : Ledger) (passport : Pubkey) : Prop :=
  ∃ key found, s.flacon.seals key = some found ∧ found.passport = passport ∧ found.dead = true

theorem sends_dead (sends : Sends s key signer order (.dispute (some true)) call) : DeadSeal s order.passport := by
  cases sends with
  | dispute a _ here signed passed =>
    cases given : a.sealKey with
    | none =>
      rw [given] at passed
      cases passed
    | some sealKey =>
      rw [given] at passed
      simp only [passedSealDead,bind_ok,orRefuse_ok,require_ok,exists_const,pure_ok,Option.some.injEq] at passed
      obtain ⟨found,there,ofPassport,dead⟩ := passed
      exact ⟨sealKey,found,there,ofPassport,dead⟩

-- The buttons and the program agree: every offered action passes the guards of its instruction, whatever passes has a
-- button, and so has every instruction that the program accepts from the viewer.
structure ButtonsMatch (order : Order) (admin viewer : Pubkey) (sealDead : Bool) (now : I64) : Prop where
  passes : ∀ action ∈ availableActions (orderLike order) (viewerOf order admin viewer sealDead) now.1,
    GuardsPass order admin viewer now (callOf action)
  offered : ∀ call, GuardsPass order admin viewer now call → (call = .dispute (some true) → sealDead = true) →
    ∃ action ∈ availableActions (orderLike order) (viewerOf order admin viewer sealDead) now.1, StandsFor action call
  accepted : ∀ s key config guarded call after, s.escrow.orders key = some order → s.escrow.config = some config →
    config.admin = admin → (DeadSeal s order.passport → sealDead = true) → Sends s key viewer order guarded call →
    process ⟨.escrow call,now⟩ s = .ok after →
    ∃ action ∈ availableActions (orderLike order) (viewerOf order admin viewer sealDead) now.1, StandsFor action guarded

theorem buttons_match (reserved : Moderate order.reservedAt) (shipped : Moderate order.shippedAt) :
    ButtonsMatch order admin viewer sealDead now := by
  have offers (call : GuardedCall) (passes : GuardsPass order admin viewer now call)
      (known : call = .dispute (some true) → sealDead = true) :
      ∃ action ∈ availableActions (orderLike order) (viewerOf order admin viewer sealDead) now.1, StandsFor action call := by
    obtain ⟨action,offered,standing⟩ := guards_offered reserved passes known
    exact ⟨action,(offered_iff action).mpr offered,standing⟩
  refine ⟨?_,offers,?_⟩
  · intro action inside
    exact offered_guards reserved shipped ((offered_iff action).mp inside)
  · intro s key config guarded call after found configFound isAdmin known sends accepted
    subst isAdmin
    refine offers guarded (accepted_guarded found configFound sends accepted) ?_
    rintro rfl
    exact known (sends_dead sends)

end Buttons

-- A seller's day-old reservation with a window below the minimum.
theorem buttons_match_reserved : ButtonsMatch
    ⟨.passport Stage.noHash,.keypair 1,.keypair 2,.keypair 3,100,.reserved,.zero,⟨86400,by decide⟩,.zero,.default,.default,⟨60,by decide⟩,false⟩
    (.keypair 0) (.keypair 2) false ⟨90001,by decide⟩ :=
  buttons_match (by unfold Moderate; decide) (by unfold Moderate; decide)

end FlaconVault.Web
