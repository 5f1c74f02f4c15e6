import FlaconVault.Escrow.Payments
import FlaconVault.Verifier.Transactions
namespace FlaconVault.Verifier
open Guards

-- What the cluster promises of a getTransaction result: at least one signature, and account indices inside the keys.
structure WellFormed (res : TxResult) : Prop where
  signed : res.signatures ≠ []
  indices : ∀ raw ∈ res.instructions ++ res.innerInstructions.flatten, ∀ index ∈ raw.accounts,
    index < (res.accountKeys ++ res.loadedWritable ++ res.loadedReadonly).length

-- The accounts of a `list` instruction, in the program's order.
def listAccounts : List Pubkey → Option Escrow.ListAccounts
  | configKey :: passport :: order :: seller :: asset :: registryKey :: _ =>
    some ⟨configKey,passport,order,seller,asset,registryKey⟩
  | _ => none

-- The instruction a verified transaction stands for is this one of the transaction.
structure MatchedBy (res : TxResult) (exp : Expectation) (vt : VerifiedTx) (raw : RawInstruction) : Prop where
  program : raw.programIdIndex.bind ((res.accountKeys ++ res.loadedWritable ++ res.loadedReadonly)[·]?) = some exp.program
  accounts : raw.accounts.map ((res.accountKeys ++ res.loadedWritable ++ res.loadedReadonly)[·]?) = vt.ixAccounts.map some
  data : raw.data = vt.data
  name : vt.name ∈ exp.instructions
  discriminator : raw.data.take 8 = ixDisc vt.name

-- Every account the expectation names stands at its position.
structure AtPositions (exp : Expectation) (vt : VerifiedTx) : Prop where
  passport : ∀ position, ixAccounts vt.name .passport = some position → vt.ixAccounts[position]? = some exp.passport
  sealKey : exp.escrow = false → ∀ key, exp.sealKey = some key → vt.account .sealAccount = some key
  scan : exp.escrow = false → ∀ key, exp.scan = some key → vt.account .scan = some key

-- An escrow instruction acted on an Order of this passport. `list` creates it: the program checks its address.
structure BoundOrder (exp : Expectation) (vt : VerifiedTx) : Prop where
  position : exp.escrow = true → vt.orderAddress = vt.account .order ∧ vt.orderAddress.isSome
  derived : exp.escrow = true → vt.name ≠ .list → ∃ seller, vt.orderAddress = some (.order exp.passport seller)
  listed : exp.escrow = true → vt.name = .list → ∀ (run : FlaconVault.Run) (n : ℕ) (a : Escrow.ListAccounts) (price : U64),
    listAccounts vt.ixAccounts = some a → Escrow.Executes run n (.list a price) →
      vt.orderAddress = some (.order exp.passport a.seller)
  read : ∀ order, vt.order = some order → order.passport = exp.passport ∧ vt.orderAddress = some (.order exp.passport order.seller)

-- Everything an accepted transaction vouches for.
structure Sound (settings : Settings) (res : TxResult) (signature : Signature) (actor : Pubkey) (exp : Expectation) (vt : VerifiedTx) :
    Prop where
  succeeded : res.err = none
  signature : signature ∈ res.signatures ∧ vt.signature = signature
  signer : actor ∈ res.accountKeys.take res.numRequiredSignatures ∧ vt.actor = actor
  listed : actor ∈ vt.ixAccounts
  matched : ∃ raw ∈ res.instructions ++ res.innerInstructions.flatten, MatchedBy res exp vt raw
  positions : AtPositions exp vt
  order : BoundOrder exp vt
  direction : vt.name = .resolve → ∃ toSeller, vt.args settings = some (.resolve toSeller) ∧ exp.resolveToSeller = some toSeller
  events : vt.events = (programEvents exp.program [] res.logs).filterMap (decodeEvent settings)

theorem named_some {ix : Instruction} {exp : Expectation} {name : IxName} (named : ix.named exp = some name) :
    ix.program = some exp.program ∧ name ∈ exp.instructions ∧ ix.data.take 8 = ixDisc name := by
  unfold Instruction.named at named
  split at named
  · rename_i program
    have disc := List.find?_some named
    exact ⟨program,List.mem_of_find?_eq_some named,(beq_iff_eq.mp disc).symm⟩
  · cases named

theorem candidate_some {settings : Settings} {exp : Expectation} {actor : Pubkey} {ix : Instruction} {name : IxName}
    (chosen : candidate settings exp actor ix = some name) : ix.named exp = some name ∧ ix.positionsOk name exp = true ∧
      actor ∈ ix.accounts ∧ resolveAccepted settings exp name ix.data = true := by
  unfold candidate at chosen
  split at chosen
  · cases chosen
  · rename_i named found
    split at chosen
    · rename_i held
      cases chosen
      exact ⟨found,held⟩
    · cases chosen

theorem positions_ok {ix : Instruction} {name : IxName} {exp : Expectation} (placed : ix.positionsOk name exp = true) :
    (∀ position, ixAccounts name .passport = some position → ix.accounts[position]? = some exp.passport) ∧
    (exp.escrow = false → (∀ key, exp.sealKey = some key → ix.accountAt name .sealAccount = some key) ∧
      ∀ key, exp.scan = some key → ix.accountAt name .scan = some key) ∧
    (exp.escrow = true → (ix.accountAt name .order).isSome) := by
  unfold Instruction.positionsOk at placed
  dsimp only at placed
  rw [Bool.and_eq_true] at placed
  obtain ⟨passport,rest⟩ := placed
  refine ⟨?_,?_,?_⟩
  · intro position stands
    simpa [stands,Instruction.accountAt] using passport
  · intro flacon
    simp only [flacon,Bool.false_eq_true,if_false,Bool.and_eq_true,Bool.or_eq_true,Option.isNone_iff_eq_none,beq_iff_eq] at rest
    constructor
    · intro key wanted
      rcases rest.1 with absent | stands
      · rw [wanted] at absent
        cases absent
      · rw [stands,wanted]
    · intro key wanted
      rcases rest.2 with absent | stands
      · rw [wanted] at absent
        cases absent
      · rw [stands,wanted]
  · intro escrow
    simpa [escrow] using rest

theorem resolve_direction {settings : Settings} {exp : Expectation} {name : IxName} {data : List Byte}
    (accepted : resolveAccepted settings exp name data = true) (resolve : name = .resolve) :
    ∃ toSeller, decodeIxArgs settings name data = some (.resolve toSeller) ∧ exp.resolveToSeller = some toSeller := by
  unfold resolveAccepted at accepted
  rw [if_pos resolve] at accepted
  split at accepted
  · rename_i toSeller wanted decoded expected
    have same : toSeller = wanted := beq_iff_eq.mp accepted
    exact ⟨toSeller,decoded,same ▸ expected⟩
  · cases accepted

-- The three ways of binding an order: the program itself (list), a seller's address, the account as read.
theorem bindOrder_bound {settings : Settings} {exp : Expectation} {tx : ParsedTx} {reads : ChainReads} {name : IxName}
    {ix : Instruction} {address : Option Pubkey} {order : Option ChainOrder} {data : List (Pubkey × Option (List Byte))}
    (bound : bindOrder settings exp tx reads name ix = .ok (some (address,order,data))) :
    (exp.escrow = true → address = ix.accountAt name .order ∧ address.isSome) ∧
    (exp.escrow = true → name ≠ .list → ∃ seller, address = some (.order exp.passport seller)) ∧
    ∀ read, order = some read → read.passport = exp.passport ∧ address = some (.order exp.passport read.seller) := by
  unfold bindOrder at bound
  split at bound
  · rename_i flacon
    cases bound
    exact ⟨by simp [flacon],by simp [flacon],by simp⟩
  split at bound
  · cases bound
  rename_i key stands
  dsimp only at bound
  split at bound
  · cases bound
  rename_i fetched _
  split at bound
  · rename_i enough
    simp only [Except.ok.injEq,Option.some.injEq,Prod.mk.injEq] at bound
    obtain ⟨rfl,rfl,_⟩ := bound
    have checked : ∀ read, ((decodeOrder settings ((fetched.lookup key).join)).toOption).filter
        (fun order => order.passport == exp.passport && Pubkey.order exp.passport order.seller == key) = some read →
        read.passport = exp.passport ∧ some key = some (.order exp.passport read.seller) := by
      intro read found
      obtain ⟨_,held⟩ := Option.filter_eq_some_iff.mp found
      simp only [Bool.and_eq_true,beq_iff_eq] at held
      exact ⟨held.1,congrArg some held.2.symm⟩
    refine ⟨fun _ => ⟨stands.symm,rfl⟩,?_,checked⟩
    intro _ other
    rcases enough with known | read
    · rcases known with list | derived
      · exact absurd list other
      · obtain ⟨seller,_,same⟩ := derived
        exact ⟨seller,congrArg some same⟩
    · obtain ⟨order,found⟩ := Option.isSome_iff_exists.mp read
      exact ⟨order.seller,(checked order found).2⟩
  · cases bound

-- What the search for the instruction returns.
theorem findInstruction_found {settings : Settings} {exp : Expectation} {tx : ParsedTx} {reads : ChainReads}
    {signature : Signature} {actor : Pubkey} {vt : VerifiedTx} {instructions : List Instruction}
    (found : findInstruction settings exp tx reads signature actor instructions = .ok vt) :
    ∃ ix ∈ instructions, ∃ name, candidate settings exp actor ix = some name ∧ tx.err = none ∧
      bindOrder settings exp tx reads name ix = .ok (some (vt.orderAddress,vt.order,vt.accountData)) ∧
      vt = ⟨signature,actor,tx.blockTime,name,ix.accounts,ix.data,
        (programEvents exp.program [] tx.logs).filterMap (decodeEvent settings),vt.orderAddress,vt.order,vt.accountData⟩ := by
  induction instructions with
  | nil => cases found
  | cons ix rest ih =>
    unfold findInstruction at found
    split at found
    · obtain ⟨other,inside,told⟩ := ih found
      exact ⟨other,List.mem_cons_of_mem _ inside,told⟩
    · rename_i name chosen
      split at found
      · cases found
      · obtain ⟨other,inside,told⟩ := ih found
        exact ⟨other,List.mem_cons_of_mem _ inside,told⟩
      · rename_i address order data bound
        split at found
        · cases found
        · rename_i succeeded
          cases found
          exact ⟨ix,List.mem_cons_self,name,chosen,by simpa using succeeded,bound,rfl⟩

-- With its indices inside the keys, an instruction keeps its accounts in parsing.
theorem accounts_kept {keys : List Pubkey} {accounts : List ℕ} (inside : ∀ index ∈ accounts, index < keys.length) :
    accounts.map (keys[·]?) = (accounts.filterMap (keys[·]?)).map some := by
  induction accounts with
  | nil => rfl
  | cons first rest ih =>
    have present : first < keys.length := inside first List.mem_cons_self
    simp [List.getElem?_eq_getElem present,ih fun index there => inside index (List.mem_cons_of_mem _ there)]

theorem parsed_instruction {res : TxResult} (wellFormed : WellFormed res) {ix : Instruction}
    (inside : ix ∈ (parseTransaction res).instructions) :
    ∃ raw ∈ res.instructions ++ res.innerInstructions.flatten,
      ix.program = raw.programIdIndex.bind ((res.accountKeys ++ res.loadedWritable ++ res.loadedReadonly)[·]?) ∧
      raw.accounts.map ((res.accountKeys ++ res.loadedWritable ++ res.loadedReadonly)[·]?) = ix.accounts.map some ∧
      raw.data = ix.data := by
  have listed : ∃ raw ∈ res.instructions ++ res.innerInstructions.flatten,
      (⟨raw.programIdIndex.bind ((res.accountKeys ++ res.loadedWritable ++ res.loadedReadonly)[·]?),
        raw.accounts.filterMap ((res.accountKeys ++ res.loadedWritable ++ res.loadedReadonly)[·]?),raw.data⟩ : Instruction) = ix := by
    simp only [parseTransaction,List.mem_append,List.mem_map,List.mem_flatMap] at inside
    rcases inside with top | inner
    · obtain ⟨raw,there,same⟩ := top
      exact ⟨raw,List.mem_append_left _ there,same⟩
    · obtain ⟨group,there,raw,within,same⟩ := inner
      exact ⟨raw,List.mem_append_right _ (List.mem_flatten_of_mem there within),same⟩
  obtain ⟨raw,there,rfl⟩ := listed
  exact ⟨raw,there,rfl,accounts_kept (wellFormed.indices raw there),rfl⟩

-- The program refuses a `list` whose order is not at its own address.
theorem list_order {run : FlaconVault.Run} {n : ℕ} {a : Escrow.ListAccounts} {price : U64} (executes : Escrow.Executes run n (.list a price)) :
    a.order = .order a.passport a.seller := by
  obtain ⟨-,change⟩ := executes
  generalize run.ledger (n+1) = after at change
  cases change
  assumption

-- An accepted transaction vouches for what its event claims.
theorem verify_transaction_sound {settings : Settings} {reads : ChainReads} {signature : Signature} {actor : Pubkey}
    {exp : Expectation} {vt : VerifiedTx} {res : TxResult} (answered : reads.transaction = .ok res) (wellFormed : WellFormed res)
    (accepted : verifyTransaction settings reads signature actor exp = .ok vt) : Sound settings res signature actor exp vt := by
  unfold verifyTransaction at accepted
  rw [answered,Except.mapError,ok_bind] at accepted
  simp only [bind_ok,require_ok] at accepted
  obtain ⟨_,belongs,_,signs,found⟩ := accepted
  obtain ⟨ix,inside,name,chosen,succeeded,bound,told⟩ := findInstruction_found found
  obtain ⟨named,placed,listed,direction⟩ := candidate_some chosen
  obtain ⟨program,allowed,disc⟩ := named_some named
  obtain ⟨passport,flacon,_⟩ := positions_ok placed
  obtain ⟨position,derived,read⟩ := bindOrder_bound bound
  obtain ⟨raw,there,at_program,accounts,data⟩ := parsed_instruction wellFormed inside
  have its_name : vt.name = name := congrArg VerifiedTx.name told
  have its_accounts : vt.ixAccounts = ix.accounts := congrArg VerifiedTx.ixAccounts told
  have its_data : vt.data = ix.data := congrArg VerifiedTx.data told
  have at_role (role : AccountRole) : vt.account role = ix.accountAt name role := by
    simp only [VerifiedTx.account,Instruction.accountAt,its_name,its_accounts]
  refine ⟨succeeded,⟨?_,congrArg VerifiedTx.signature told⟩,⟨signs,congrArg VerifiedTx.actor told⟩,its_accounts ▸ listed,
    ⟨raw,there,⟨at_program ▸ program,its_accounts ▸ accounts,its_data ▸ data,its_name ▸ allowed,?_⟩⟩,
    ⟨?_,?_,?_⟩,⟨?_,?_,?_,read⟩,?_,congrArg VerifiedTx.events told⟩
  · exact belongs.resolve_left wellFormed.signed
  · rw [its_name,data]
    exact disc
  · rw [its_name,its_accounts]
    exact passport
  · intro plain key wanted
    exact (at_role _).trans ((flacon plain).1 key wanted)
  · intro plain key wanted
    exact (at_role _).trans ((flacon plain).2 key wanted)
  · intro escrow
    rw [at_role]
    exact position escrow
  · intro escrow
    rw [its_name]
    exact derived escrow
  · intro escrow list run n a price shown executes
    have at_passport := passport 1 (by rw [← its_name,list]; rfl)
    have stands := (position escrow).1
    rw [← at_role] at stands
    simp only [VerifiedTx.account,list,ixAccounts] at stands
    rw [its_accounts] at stands shown
    unfold listAccounts at shown
    split at shown
    · rename_i configKey passport' order seller asset registryKey others ixs
      cases shown
      rw [ixs] at at_passport stands
      have same : passport' = exp.passport := by simpa using at_passport
      have key : vt.orderAddress = some order := by simpa using stands
      have address : order = .order passport' seller := list_order executes
      rw [key,address,same]
    · cases shown
  · intro resolve
    rw [its_name] at resolve
    unfold VerifiedTx.args
    rw [its_name,its_data]
    exact resolve_direction direction resolve

namespace Shipment

-- A seller ships the order of his passport.
def seller : Pubkey := .keypair 2
def passport : Pubkey := .passport zero32
def order : Pubkey := .order passport seller
def escrow : Pubkey := .foreign 2
def res : TxResult := ⟨["shipped"],[seller,order,escrow],1,[],[],[⟨some 2,[1,0],ixDisc .ship⟩],[],none,none,[]⟩
def reads : ChainReads := ⟨.ok res,fun keys => some (keys.map fun _ => none),fun _ => none⟩
def exp : Expectation := ⟨escrow,[.ship],passport,none,none,true,[],none⟩
def vt : VerifiedTx :=
  ⟨"shipped",seller,none,.ship,[order,seller],ixDisc .ship,[],some order,none,[(order,none),(seller,none)]⟩

theorem shipment_sound : Sound Settings.sample res "shipped" seller exp vt :=
  verify_transaction_sound (show reads.transaction = .ok res from rfl) ⟨by decide,by decide⟩ (by decide +kernel)

end Shipment
end FlaconVault.Verifier
