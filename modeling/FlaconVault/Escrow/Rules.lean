import FlaconVault.Flacon.Rules
namespace FlaconVault.Escrow
open Guards

def MIN_DISPUTE_AFTER_S : Int := 60*60
def MAX_DISPUTE_AFTER_S : Int := 60*24*60*60
def FILL_TOLERANCE : ℕ := 5

inductive DisputeReason where
  | admin | timeout | sealDead | mismatch
  deriving DecidableEq

def effectiveWindow (disputeAfterS : I64) : I64 :=
  ⟨max MIN_DISPUTE_AFTER_S (min disputeAfterS.1 MAX_DISPUTE_AFTER_S),by
    unfold MIN_DISPUTE_AFTER_S MAX_DISPUTE_AFTER_S
    omega⟩

theorem effectiveWindow_bounds (disputeAfterS : I64) :
    MIN_DISPUTE_AFTER_S ≤ (effectiveWindow disputeAfterS).1 ∧ (effectiveWindow disputeAfterS).1 ≤ MAX_DISPUTE_AFTER_S := by
  unfold effectiveWindow MIN_DISPUTE_AFTER_S MAX_DISPUTE_AFTER_S
  dsimp only
  omega

def checkWindow (disputeAfterS : I64) : Except ProgramError Unit :=
  require (MIN_DISPUTE_AFTER_S ≤ disputeAfterS.1 ∧ disputeAfterS.1 ≤ MAX_DISPUTE_AFTER_S) (.escrow .invalidDisputeWindow)

-- `now > start + window`, where the sum must fit the clock.
def elapsed (start disputeAfterS now : I64) : Except ProgramError Bool := do
  let deadline := start.1 + (effectiveWindow disputeAfterS).1
  require (deadline < 2^63) (.escrow .mathOverflow)
  return now.1 > deadline

theorem elapsed_true (passed : elapsed start disputeAfterS now = .ok true) :
    start.1 + (effectiveWindow disputeAfterS).1 < now.1 := by
  simp only [elapsed,bind_ok,require_ok,exists_const,pure_ok,decide_eq_true_eq] at passed
  exact passed.2

def adminMayRefund (state : OrderState) : Bool :=
  match state with
  | .reserved | .preshipScanned | .shipped => true
  | _ => false

theorem adminMayRefund_states (allowed : adminMayRefund state) :
    state = .reserved ∨ state = .preshipScanned ∨ state = .shipped := by
  cases state <;> simp_all [adminMayRefund]

structure BuyerDispute where
  state : OrderState
  sealDead : Option Bool
  reservedAt : I64
  disputeAfterS : I64
  now : I64

def buyerDisputeReason (d : BuyerDispute) : Except ProgramError DisputeReason := do
  require (d.state ≠ .receiptScanned) (.escrow .receiptMatched)
  match d.sealDead with
  | some dead =>
    require dead (.escrow .sealNotDead)
    require (d.state ≠ .shipped) (.escrow .deadSealAfterShipping)
    require (d.state = .reserved ∨ d.state = .preshipScanned) (.escrow .invalidState)
    return .sealDead
  | none =>
    require (d.state = .reserved ∨ d.state = .preshipScanned) (.escrow .invalidState)
    let late ← elapsed d.reservedAt d.disputeAfterS d.now
    require late (.escrow .disputeWindowNotElapsed)
    return .timeout

-- Everything a buyer's accepted dispute needs: the order is not shipped yet, and either a dead seal was
-- passed or the seller let the window after the reservation go by.
theorem buyerDisputeReason_parts (accepted : buyerDisputeReason d = .ok reason) :
    (d.state = .reserved ∨ d.state = .preshipScanned) ∧
      (d.sealDead = some true ∨ d.sealDead = none ∧ d.reservedAt.1 + (effectiveWindow d.disputeAfterS).1 < d.now.1) := by
  unfold buyerDisputeReason at accepted
  rw [bind_ok] at accepted
  obtain ⟨-,-,accepted⟩ := accepted
  split at accepted
  · rename_i dead passed
    simp only [bind_ok,require_ok,exists_const] at accepted
    obtain ⟨isDead,-,state,-⟩ := accepted
    exact ⟨state,.inl (by simp [passed,isDead])⟩
  · rename_i passed
    simp only [bind_ok,require_ok,exists_const] at accepted
    obtain ⟨state,late,within,isLate,-⟩ := accepted
    exact ⟨state,.inr ⟨passed,elapsed_true (isLate ▸ within)⟩⟩

def checkReleaseAfterTimeout (state : OrderState) (shippedAt disputeAfterS now : I64) : Except ProgramError Unit := do
  require (state = .shipped) (.escrow .invalidState)
  let late ← elapsed shippedAt disputeAfterS now
  require late (.escrow .disputeWindowNotElapsed)

theorem checkReleaseAfterTimeout_parts
    (accepted : checkReleaseAfterTimeout state shippedAt disputeAfterS now = .ok ()) :
    state = .shipped ∧ shippedAt.1 + (effectiveWindow disputeAfterS).1 < now.1 := by
  simp only [checkReleaseAfterTimeout,bind_ok,require_ok,exists_const] at accepted
  obtain ⟨isShipped,late,within,isLate⟩ := accepted
  exact ⟨isShipped,elapsed_true (isLate ▸ within)⟩

-- Who may sell: the owner of the Core asset when it exists, else the issuer while it is active.
def checkSeller (seller issuer : Pubkey) (assetOwner : Option Pubkey) (issuerActive : Bool) : Except ProgramError Unit :=
  let allowed : Bool := match assetOwner with
    | some owner => owner == seller
    | none => issuer == seller && issuerActive
  require allowed (.escrow .notPassportOwner)

-- A scan linked to an order step is dated no earlier than the step, up to the accepted clock skew.
def checkScanNotBefore (scanTs stepAt : I64) : Except ProgramError Unit :=
  require (scanTs.1 ≥ max (stepAt.1 - Flacon.MAX_SCAN_TS_SKEW_S) (-2^63)) (.escrow .scanBeforeOrderStep)

end FlaconVault.Escrow
