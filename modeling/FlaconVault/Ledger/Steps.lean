import FlaconVault.Lib.Runs
import FlaconVault.Escrow.Instructions
namespace FlaconVault
open Guards

inductive FlaconCall where
  | initRegistry (accounts : Flacon.AdminRegistry)
  | addServerKey (accounts : Flacon.AdminRegistry) (keyId : U8) (pubkey : Bytes32) (validFrom validTo : I64)
  | revokeServerKey (accounts : Flacon.AdminRegistry) (keyId : U8)
  | addPartner (accounts : Flacon.AdminRegistry) (partner : Pubkey)
  | removePartner (accounts : Flacon.AdminRegistry) (partner : Pubkey)
  | addSite (accounts : Flacon.AdminRegistry) (siteId : U16) (label : Bytes32)
  | transferAuthority (accounts : Flacon.TransferAuthority)
  | mintPassport (accounts : Flacon.MintPassport) (serialHash bindingHash : Bytes32) (asset : Pubkey)
  | attachSeal (accounts : Flacon.AttachSeal) (uidHash : Bytes32) (kind : U8)
  | markSealDead (accounts : Flacon.MarkSealDead)
  | recordScan (accounts : Flacon.RecordScan) (args : Flacon.RecordScanArgs)

inductive EscrowCall where
  | initConfig (accounts : Escrow.InitConfig) (disputeAfterS : I64)
  | setDisputeWindow (accounts : Escrow.AdminConfig) (disputeAfterS : I64)
  | list (accounts : Escrow.ListAccounts) (price : U64)
  | depositAsset (accounts : Escrow.DepositAsset)
  | cancel (accounts : Escrow.Cancel)
  | closeOrder (accounts : Escrow.CloseOrder)
  | reserve (accounts : Escrow.Reserve) (expectedPrice : U64)
  | recordPreShipScan (accounts : Escrow.RecordPreShipScan)
  | ship (accounts : Escrow.Ship)
  | recordReceiptScan (accounts : Escrow.RecordReceiptScan)
  | release (accounts : Escrow.Release)
  | releaseAfterTimeout (accounts : Escrow.Release)
  | dispute (accounts : Escrow.Dispute)
  | resolve (accounts : Escrow.Resolve) (toSeller : Bool)

inductive Call where
  | flacon (call : FlaconCall)
  | escrow (call : EscrowCall)
  | token (call : Tokens.Call)
  | core (call : Core.Call)

-- One instruction that the cluster executes at its clock `now`. A transaction is a sequence of these that
-- succeeds or fails as a whole, so every run of transactions is also a run of single instructions.
structure Instruction where
  call : Call
  now : I64

def processFlacon (s : Ledger) (now : I64) : FlaconCall → Except ProgramError Ledger
  | .initRegistry a => Flacon.handleInitRegistry s a
  | .addServerKey a keyId pubkey validFrom validTo => Flacon.handleAddServerKey s a keyId pubkey validFrom validTo
  | .revokeServerKey a keyId => Flacon.handleRevokeServerKey s a keyId now
  | .addPartner a partner => Flacon.handleAddPartner s a partner
  | .removePartner a partner => Flacon.handleRemovePartner s a partner
  | .addSite a siteId label => Flacon.handleAddSite s a siteId label
  | .transferAuthority a => Flacon.handleTransferAuthority s a
  | .mintPassport a serialHash bindingHash asset => Flacon.handleMintPassport s a serialHash bindingHash asset now
  | .attachSeal a uidHash kind => Flacon.handleAttachSeal s a uidHash kind now
  | .markSealDead a => Flacon.handleMarkSealDead s a
  | .recordScan a args => Flacon.handleRecordScan s a args now

def processEscrow (s : Ledger) (now : I64) : EscrowCall → Except ProgramError Ledger
  | .initConfig a disputeAfterS => Escrow.handleInitConfig s a disputeAfterS
  | .setDisputeWindow a disputeAfterS => Escrow.handleSetDisputeWindow s a disputeAfterS
  | .list a price => Escrow.handleList s a price now
  | .depositAsset a => Escrow.handleDepositAsset s a
  | .cancel a => Escrow.handleCancel s a
  | .closeOrder a => Escrow.handleCloseOrder s a
  | .reserve a expectedPrice => Escrow.handleReserve s a expectedPrice now
  | .recordPreShipScan a => Escrow.handleRecordPreShipScan s a
  | .ship a => Escrow.handleShip s a now
  | .recordReceiptScan a => Escrow.handleRecordReceiptScan s a
  | .release a => Escrow.handleRelease s a
  | .releaseAfterTimeout a => Escrow.handleReleaseAfterTimeout s a now
  | .dispute a => Escrow.handleDispute s a now
  | .resolve a toSeller => Escrow.handleResolve s a toSeller

def processToken (s : Ledger) (call : Tokens.Call) : Except ProgramError Ledger := do
  let tokens ← Tokens.handle s.tokens call
  return {s with tokens := tokens}

def processCore (s : Ledger) (call : Core.Call) : Except ProgramError Ledger := do
  let assets ← Core.handle s.assets call
  return {s with assets := assets}

def process (instruction : Instruction) (s : Ledger) : Except ProgramError Ledger :=
  match instruction.call with
  | .flacon call => processFlacon s instruction.now call
  | .escrow call => processEscrow s instruction.now call
  | .token call => processToken s call
  | .core call => processCore s call

-- A failing instruction changes nothing.
def execute (instruction : Instruction) (s : Ledger) : Ledger := committed s (process instruction s)

-- A run of the cluster from a fresh deployment: any instructions in any order at any clock values.
structure Run where
  flaconUpgradeAuthority : Option Pubkey
  escrowUpgradeAuthority : Option Pubkey
  schedule : ℕ → Instruction

-- The ledger before instruction number `n`.
def Run.ledger (run : Run) (n : ℕ) : Ledger :=
  Runs.reached execute (Ledger.genesis run.flaconUpgradeAuthority run.escrowUpgradeAuthority) run.schedule n

def Reachable (s : Ledger) : Prop := ∃ (run : Run) (n : ℕ), s = run.ledger n

theorem Run.ledger_succ (run : Run) (n : ℕ) : run.ledger (n+1) = execute (run.schedule n) (run.ledger n) := rfl

theorem execute_cases (instruction : Instruction) (s : Ledger) :
    execute instruction s = s ∨ process instruction s = .ok (execute instruction s) := by
  rcases committed_cases s (process instruction s) with same | ⟨after,accepted,changed⟩
  · exact .inl same
  · exact .inr (accepted.trans (congrArg _ changed.symm))

theorem execute_of_accepted {instruction : Instruction} {s after : Ledger} (accepted : process instruction s = .ok after) :
    execute instruction s = after := by
  simp [execute,committed,accepted]

-- Any instruction may come next.
theorem reachable_execute {s : Ledger} (reachable : Reachable s) (instruction : Instruction) : Reachable (execute instruction s) := by
  obtain ⟨run,n,rfl⟩ := reachable
  refine ⟨{run with schedule := Function.update run.schedule n instruction},n+1,?_⟩
  have before : Run.ledger {run with schedule := Function.update run.schedule n instruction} n = run.ledger n := by
    refine Runs.reached_congr ?_
    intro k below
    exact Function.update_of_ne (by omega) _ _
  rw [Run.ledger_succ,before]
  exact congrArg (execute · (run.ledger n)) (Function.update_self n instruction run.schedule).symm

theorem reachable_process {s after : Ledger} {instruction : Instruction} (reachable : Reachable s)
    (accepted : process instruction s = .ok after) : Reachable after :=
  execute_of_accepted accepted ▸ reachable_execute reachable instruction

theorem reachable_invariant {P : Ledger → Prop} (initial : ∀ f e, P (Ledger.genesis f e))
    (preserved : ∀ instruction s after, P s → process instruction s = .ok after → P after) (reachable : Reachable s) :
    P s := by
  obtain ⟨run,n,rfl⟩ := reachable
  refine Runs.invariant (initial _ _) ?_ n
  intro instruction s holds
  rcases execute_cases instruction s with same | accepted
  · exact same.symm ▸ holds
  · exact preserved instruction s _ holds accepted

end FlaconVault
