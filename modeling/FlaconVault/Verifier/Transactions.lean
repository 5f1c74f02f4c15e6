import FlaconVault.Verifier.Decoders
namespace FlaconVault.Verifier
open Guards

structure HttpError where
  status : ℕ
  detail : String
  deriving DecidableEq

-- A line of a transaction's log as `program_events` takes it: a frame opening for the program that stands there (none
-- where no key stands there), a frame closing, or the payload parts of a data line.
inductive LogLine where
  | invoke (program : Option Pubkey)
  | exit
  | data (parts : List (List Byte))
  | other
  deriving DecidableEq

-- A getTransaction result; instruction data is already base58-decoded (empty when it does not decode).
structure RawInstruction where
  programIdIndex : Option ℕ
  accounts : List ℕ
  data : List Byte
  deriving DecidableEq

structure TxResult where
  signatures : List Signature
  accountKeys : List Pubkey
  numRequiredSignatures : ℕ
  loadedWritable : List Pubkey
  loadedReadonly : List Pubkey
  instructions : List RawInstruction
  innerInstructions : List (List RawInstruction)
  err : Option String
  blockTime : Option I64
  logs : List LogLine
  deriving DecidableEq

structure Instruction where
  program : Option Pubkey
  accounts : List Pubkey
  data : List Byte
  deriving DecidableEq

structure ParsedTx where
  signatures : List Signature
  signers : List Pubkey
  keys : List Pubkey
  instructions : List Instruction
  err : Option String
  blockTime : Option I64
  logs : List LogLine
  deriving DecidableEq

-- Top-level and inner instructions, in this order, over the static keys followed by the loaded ones.
def parseTransaction (res : TxResult) : ParsedTx :=
  let keys := res.accountKeys ++ res.loadedWritable ++ res.loadedReadonly
  let ix (raw : RawInstruction) : Instruction :=
    ⟨raw.programIdIndex.bind (keys[·]?),raw.accounts.filterMap (keys[·]?),raw.data⟩
  ⟨res.signatures,res.accountKeys.take res.numRequiredSignatures,keys,
    res.instructions.map ix ++ res.innerInstructions.flatMap (·.map ix),res.err,res.blockTime,res.logs⟩

-- The data lines a program logged itself: the frames on the stack tell who is running.
def programEvents (program : Pubkey) : List (Option Pubkey) → List LogLine → List (List Byte)
  | _, [] => []
  | stack, .invoke other :: rest => programEvents program (other :: stack) rest
  | stack, .exit :: rest => programEvents program stack.tail rest
  | stack, .data parts :: rest =>
    if stack.head? = some (some program) then parts ++ programEvents program stack rest else programEvents program stack rest
  | stack, .other :: rest => programEvents program stack rest

inductive AccountRole where
  | passport | sealAccount | scan | signer | coreAsset | order | buyer | seller | sellerScan
  deriving DecidableEq

-- Account positions in the instructions.
def ixAccounts : IxName → AccountRole → Option ℕ
  | .mintPassport, .passport => some 1
  | .mintPassport, .signer => some 2
  | .mintPassport, .coreAsset => some 4
  | .attachSeal, .passport => some 1
  | .attachSeal, .sealAccount => some 2
  | .attachSeal, .signer => some 3
  | .markSealDead, .passport => some 1
  | .markSealDead, .sealAccount => some 2
  | .markSealDead, .signer => some 3
  | .recordScan, .passport => some 1
  | .recordScan, .sealAccount => some 2
  | .recordScan, .scan => some 3
  | .recordScan, .signer => some 4
  | .list, .passport => some 1
  | .list, .order => some 2
  | .list, .signer => some 3
  | .reserve, .order => some 1
  | .reserve, .signer => some 2
  | .ship, .order => some 0
  | .ship, .signer => some 1
  | .recordPreShipScan, .order => some 0
  | .recordPreShipScan, .signer => some 1
  | .recordPreShipScan, .scan => some 2
  | .recordReceiptScan, .order => some 0
  | .recordReceiptScan, .signer => some 1
  | .recordReceiptScan, .scan => some 2
  | .recordReceiptScan, .sealAccount => some 3
  | .recordReceiptScan, .sellerScan => some 4
  | .release, .order => some 1
  | .release, .buyer => some 4
  | .release, .signer => some 5
  | .releaseAfterTimeout, .order => some 1
  | .releaseAfterTimeout, .buyer => some 4
  | .releaseAfterTimeout, .signer => some 5
  | .dispute, .order => some 1
  | .dispute, .buyer => some 4
  | .dispute, .seller => some 5
  | .dispute, .signer => some 6
  | .dispute, .sealAccount => some 7
  | .resolve, .order => some 1
  | .resolve, .buyer => some 4
  | .resolve, .seller => some 5
  | .resolve, .signer => some 6
  | _, _ => none

-- Instructions accepted as evidence for each event type.
def flaconIx : EventType → Option (List IxName)
  | .mint => some [.mintPassport]
  | .sealAttach => some [.attachSeal]
  | .scan => some [.recordScan]
  | .sealDead => some [.markSealDead]
  | _ => none

def escrowIx : EventType → Option (List IxName)
  | .list => some [.list]
  | .reserve => some [.reserve]
  | .ship => some [.ship]
  | .receive => some [.recordReceiptScan]
  | .release => some [.release,.releaseAfterTimeout,.resolve]
  | .dispute => some [.dispute,.resolve]
  | _ => none

structure Expectation where
  program : Pubkey
  instructions : List IxName
  passport : Pubkey
  sealKey : Option Pubkey
  scan : Option Pubkey
  escrow : Bool
  knownSellers : List Pubkey
  resolveToSeller : Option Bool
  deriving DecidableEq

structure VerifiedTx where
  signature : Signature
  actor : Pubkey
  blockTime : Option I64
  name : IxName
  ixAccounts : List Pubkey
  data : List Byte
  events : List ChainEvent
  orderAddress : Option Pubkey
  order : Option ChainOrder
  accountData : List (Pubkey × Option (List Byte))
  deriving DecidableEq

def txMismatch : HttpError := ⟨403,"tx_mismatch"⟩
def txFailed : HttpError := ⟨422,"tx_failed"⟩
def txNotVisible : HttpError := ⟨503,"tx_not_visible"⟩

-- How a transaction lookup is refused: no free slot, unknown to the cluster, or too many lookups of this client.
inductive LookupRefusal where
  | busy | notVisible | rateLimited
  deriving DecidableEq

def LookupRefusal.error : LookupRefusal → HttpError
  | .busy => ⟨503,"busy"⟩
  | .notVisible => txNotVisible
  | .rateLimited => ⟨429,"rate_limited"⟩

-- What the RPC answers during one request: the getTransaction lookup with its retries and limits, and account reads
-- (none when the call fails).
structure ChainReads where
  transaction : Except LookupRefusal TxResult
  accounts : List Pubkey → Option (List (Option (List Byte)))
  account : Pubkey → Option (Option (List Byte))

namespace Instruction

def accountAt (ix : Instruction) (name : IxName) (role : AccountRole) : Option Pubkey :=
  (ixAccounts name role).bind (ix.accounts[·]?)

def positionsOk (ix : Instruction) (name : IxName) (exp : Expectation) : Bool :=
  let passportOk := (ixAccounts name .passport).isNone || ix.accountAt name .passport == some exp.passport
  let rest :=
    if exp.escrow then (ix.accountAt name .order).isSome
    else (exp.sealKey.isNone || ix.accountAt name .sealAccount == exp.sealKey) && (exp.scan.isNone || ix.accountAt name .scan == exp.scan)
  passportOk && rest

-- The accepted instruction this one is, by program and discriminator.
def named (ix : Instruction) (exp : Expectation) : Option IxName :=
  if ix.program = some exp.program then exp.instructions.find? fun name => ixDisc name == ix.data.take 8 else none

end Instruction

def resolveAccepted (settings : Settings) (exp : Expectation) (name : IxName) (data : List Byte) : Bool :=
  if name = .resolve then
    match decodeIxArgs settings name data,exp.resolveToSeller with
    | some (.resolve toSeller),some wanted => toSeller == wanted
    | _,_ => false
  else true

-- The instruction is one of the expected, acts on the expected accounts and lists the actor somewhere.
def candidate (settings : Settings) (exp : Expectation) (actor : Pubkey) (ix : Instruction) : Option IxName :=
  match ix.named exp with
  | none => none
  | some name =>
    if ix.positionsOk name exp ∧ actor ∈ ix.accounts ∧ resolveAccepted settings exp name ix.data then some name else none

-- Escrow instructions are bound through the Order account at its position. `none` means: not this passport's order.
def bindOrder (settings : Settings) (exp : Expectation) (tx : ParsedTx) (reads : ChainReads) (name : IxName)
    (ix : Instruction) : Except HttpError (Option (Option Pubkey × Option ChainOrder × List (Pubkey × Option (List Byte)))) :=
  if exp.escrow = false then .ok (some (none,none,[]))
  else
    match ix.accountAt name .order with
    | none => .ok none
    | some address =>
      let known := name = .list ∨ ∃ seller ∈ tx.keys ++ exp.knownSellers, address = .order exp.passport seller
      let fetched : Except HttpError (List (Pubkey × Option (List Byte))) :=
        if ¬known ∨ tx.err.isNone then
          match reads.accounts ix.accounts.dedup with
          | some datas => .ok (ix.accounts.dedup.zip datas)
          | none => if known then .ok [] else .error txNotVisible
        else .ok []
      match fetched with
      | .error error => .error error
      | .ok data =>
        let read := (decodeOrder settings ((data.lookup address).join)).toOption
        let order := read.filter fun order => order.passport == exp.passport && Pubkey.order exp.passport order.seller == address
        if known ∨ order.isSome then .ok (some (some address,order,data)) else .ok none

-- The first instruction that qualifies decides.
def findInstruction (settings : Settings) (exp : Expectation) (tx : ParsedTx) (reads : ChainReads) (signature : Signature)
    (actor : Pubkey) : List Instruction → Except HttpError VerifiedTx
  | [] => .error txMismatch
  | ix :: rest =>
    match candidate settings exp actor ix with
    | none => findInstruction settings exp tx reads signature actor rest
    | some name =>
      match bindOrder settings exp tx reads name ix with
      | .error error => .error error
      | .ok none => findInstruction settings exp tx reads signature actor rest
      | .ok (some (orderAddress,order,data)) =>
        if tx.err.isSome then .error txFailed
        else .ok ⟨signature,actor,tx.blockTime,name,ix.accounts,ix.data,
          (programEvents exp.program [] tx.logs).filterMap (decodeEvent settings),orderAddress,order,data⟩

def verifyTransaction (settings : Settings) (reads : ChainReads) (signature : Signature) (actor : Pubkey) (exp : Expectation) :
    Except HttpError VerifiedTx := do
  let res ← reads.transaction.mapError LookupRefusal.error
  let tx := parseTransaction res
  require (tx.signatures = [] ∨ signature ∈ tx.signatures) txMismatch
  require (actor ∈ tx.signers) txMismatch
  findInstruction settings exp tx reads signature actor tx.instructions

namespace VerifiedTx

def args (settings : Settings) (vt : VerifiedTx) : Option IxArgs := decodeIxArgs settings vt.name vt.data

def account (vt : VerifiedTx) (role : AccountRole) : Option Pubkey :=
  (FlaconVault.Verifier.ixAccounts vt.name role).bind (vt.ixAccounts[·]?)

-- The events of this instruction's order (of the whole program for flacon instructions).
def ownEvents (vt : VerifiedTx) : List ChainEvent :=
  vt.events.filter fun event => vt.orderAddress.isNone || some event.order == vt.orderAddress

end VerifiedTx
end FlaconVault.Verifier
