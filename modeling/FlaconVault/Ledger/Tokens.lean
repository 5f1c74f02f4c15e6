import FlaconVault.Lib.Guards
import FlaconVault.Ledger.Accounts
namespace FlaconVault
open Guards

def MPL_CORE_PROGRAM_ID : Pubkey := .foreign 2

-- The token program and Metaplex Core, as far as the two programs call them and other parties use them on
-- their own accounts.
namespace Tokens

def transfer (tokens : Cells Pubkey TokenAccount) (source destination authority : Pubkey) (amount : ℕ) :
    Except ProgramError (Cells Pubkey TokenAccount) := do
  let paying ← orRefuse (tokens source) .tokenProgram
  let paid ← orRefuse (tokens destination) .tokenProgram
  require (amount ≤ paying.amount.val) .tokenProgram
  require (paying.mint = paid.mint) .tokenProgram
  require (paying.owner = authority) .tokenProgram
  if source = destination then return tokens
  let total ← orRefuse (checkedAdd paid.amount amount) .tokenProgram
  return (tokens.put source {paying with amount := paying.amount - Fin.ofNat _ amount}).put destination
    {paid with amount := total}

def closeAccount (tokens : Cells Pubkey TokenAccount) (account authority : Pubkey) :
    Except ProgramError (Cells Pubkey TokenAccount) := do
  let closing ← orRefuse (tokens account) .tokenProgram
  require (closing.amount = 0) .tokenProgram
  require (closing.owner = authority) .tokenProgram
  return tokens.erase account

-- What wallets do with token accounts of their own: nobody but a program can sign for its derived addresses,
-- so accounts are created at other addresses only, while anybody may send to any account.
inductive Call where
  | create (account mint owner : Pubkey)
  | mintTo (account : Pubkey) (amount : U64)
  | transfer (source destination authority : Pubkey) (amount : U64)
  | setOwner (account authority newOwner : Pubkey)
  | close (account authority : Pubkey)

def handle (tokens : Cells Pubkey TokenAccount) : Call → Except ProgramError (Cells Pubkey TokenAccount)
  | .create account mint owner => do
    require (account.derived = false) .notSigner
    require (tokens account = none) .accountInUse
    return tokens.put account ⟨mint,owner,0⟩
  | .mintTo account amount => do
    let minted ← orRefuse (tokens account) .tokenProgram
    let total ← orRefuse (checkedAdd minted.amount amount) .tokenProgram
    return tokens.put account {minted with amount := total}
  | .transfer source destination authority amount => do
    require authority.canSign .notSigner
    transfer tokens source destination authority amount
  | .setOwner account authority newOwner => do
    require authority.canSign .notSigner
    let changed ← orRefuse (tokens account) .tokenProgram
    require (changed.owner = authority) .tokenProgram
    return tokens.put account {changed with owner := newOwner}
  | .close account authority => do
    require authority.canSign .notSigner
    closeAccount tokens account authority

end Tokens

namespace Core

-- `TransferV1` without a collection: only the current owner moves the asset.
def transfer (assets : Cells Pubkey Pubkey) (asset authority newOwner : Pubkey) :
    Except ProgramError (Cells Pubkey Pubkey) := do
  let owner ← orRefuse (assets asset) .coreProgram
  require (owner = authority) .coreProgram
  return assets.put asset newOwner

inductive Call where
  | create (asset owner : Pubkey)
  | transfer (asset authority newOwner : Pubkey)
  | burn (asset authority : Pubkey)

def handle (assets : Cells Pubkey Pubkey) : Call → Except ProgramError (Cells Pubkey Pubkey)
  | .create asset owner => do
    require (asset.derived = false) .notSigner
    require (assets asset = none) .accountInUse
    return assets.put asset owner
  | .transfer asset authority newOwner => do
    require authority.canSign .notSigner
    transfer assets asset authority newOwner
  | .burn asset authority => do
    require authority.canSign .notSigner
    let owner ← orRefuse (assets asset) .coreProgram
    require (owner = authority) .coreProgram
    return assets.erase asset

end Core
end FlaconVault
