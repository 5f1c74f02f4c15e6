import FlaconVault.Ledger.Accounts
namespace FlaconVault.Web

-- Recovering the signature of the transaction that created an account.
structure CompiledInstruction where
  programIdIndex : ℕ
  accountKeyIndexes : List ℕ
  data : List Byte
  deriving DecidableEq

-- A getTransaction answer; `loaded` are the addresses of the lookup tables, first the writable then the readonly ones.
structure TransactionResponse where
  err : Bool
  version0 : Bool
  staticAccountKeys : List Pubkey
  loaded : List Pubkey × List Pubkey
  numRequiredSignatures : ℕ
  compiledInstructions : List CompiledInstruction
  deriving DecidableEq

def TransactionResponse.keys (tx : TransactionResponse) : List Pubkey :=
  if tx.version0 then tx.staticAccountKeys ++ tx.loaded.1 ++ tx.loaded.2 else tx.staticAccountKeys

structure SignatureInfo (σ : Type) where
  signature : σ
  err : Bool
  deriving DecidableEq

-- The RPC: the signatures on the account, newest first, the transactions it can read, and whether it answers a batch request.
structure Connection (σ : Type) where
  history : List (SignatureInfo σ)
  distinct : (history.map (·.signature)).Nodup
  getTransaction : σ → Option TransactionResponse
  answers : List σ → Bool

structure CreatingTxExpectation where
  programId : Option Pubkey
  instruction : List String
  signer : Option Pubkey

variable {σ : Type} [DecidableEq σ]

-- The signatures that follow `before`, at most `limit`.
def Connection.getSignaturesForAddress (connection : Connection σ) (limit : ℕ) (before : Option σ) : List (SignatureInfo σ) :=
  let start := match before with
    | none => 0
    | some last => connection.history.findIdx (·.signature = last) + 1
  (connection.history.drop start).take limit

def Connection.getTransactions (connection : Connection σ) (sigs : List σ) : Option (List (Option TransactionResponse)) :=
  if connection.answers sigs then some (sigs.map connection.getTransaction) else none

def startsWith (data start : List Byte) : Bool := start.isPrefixOf data

def txCreates (tx : TransactionResponse) (account programId : Pubkey) (discriminators : List (List Byte)) (signer : Option Pubkey) :
    Bool :=
  !tx.err &&
  (match signer with
    | none => true
    | some signer => (List.range tx.numRequiredSignatures).any fun i => tx.keys[i]? = some signer) &&
  tx.compiledInstructions.any fun ix =>
    decide (tx.keys[ix.programIdIndex]? = some programId) &&
    (discriminators.isEmpty || discriminators.any (startsWith ix.data)) &&
    ix.accountKeyIndexes.any fun i => tx.keys[i]? = some account

def SIG_PAGE : ℕ := 250
def SIG_WINDOW : ℕ := 1000
def TX_BATCH : ℕ := 10

-- One JSON-RPC batch, or one call each when the RPC refuses batches.
def fetchTransactions (connection : Connection σ) (sigs : List σ) : List (Option TransactionResponse) :=
  match if sigs.length > 1 then connection.getTransactions sigs else none with
  | some txs => txs
  | none => sigs.map connection.getTransaction

-- The successful signatures, newest first; `none` when the window ends before the first one.
def successfulSignatures (connection : Connection σ) (seen : ℕ) (before : Option σ) (ok : List σ) : Option (List σ) :=
  if seen < SIG_WINDOW then
    let limit := min SIG_PAGE (SIG_WINDOW-seen)
    let sigs := connection.getSignaturesForAddress limit before
    let ok := ok ++ (sigs.filter fun s => !s.err).map (·.signature)
    if sigs.length < limit then some ok
    else successfulSignatures connection (seen + sigs.length) (sigs.getLast?.map (·.signature)) ok
  else none
termination_by SIG_WINDOW-seen
decreasing_by
  have page : SIG_PAGE = 250 := rfl
  have window : SIG_WINDOW = 1000 := rfl
  change SIG_WINDOW-(seen + sigs.length) < SIG_WINDOW-seen
  omega

def searchOldest (connection : Connection σ) (creates : TransactionResponse → Bool) (oldestFirst : List σ) : Option σ :=
  if oldestFirst = [] then none
  else
    let chunk := oldestFirst.take TX_BATCH
    let txs := fetchTransactions connection chunk
    match chunk.zipIdx.find? fun entry => (txs[entry.2]?.join).any creates with
    | some hit => some hit.1
    | none => searchOldest connection creates (oldestFirst.drop TX_BATCH)
termination_by oldestFirst.length
decreasing_by
  have := List.length_pos_of_ne_nil ‹_›
  simp only [List.length_drop,TX_BATCH]
  omega

def creatingSignature (connection : Connection σ) (anchorDiscriminator : String → List Byte) (configured : Option Pubkey)
    (account : Pubkey) (expect : CreatingTxExpectation) : Option σ := do
  let programId ← expect.programId.or configured
  let discriminators := expect.instruction.map anchorDiscriminator
  let ok ← successfulSignatures connection 0 none []
  searchOldest connection (txCreates · account programId discriminators expect.signer) ok.reverse

theorem findIdx_signature (connection : Connection σ) {k : ℕ} {last : SignatureInfo σ} (here : connection.history[k]? = some last) :
    connection.history.findIdx (·.signature = last.signature) = k := by
  obtain ⟨inside,same⟩ := List.getElem?_eq_some_iff.mp here
  rw [List.findIdx_eq inside]
  refine ⟨by rw [same]; simp,?_⟩
  intro j below
  rw [decide_eq_false_iff_not]
  intro equal
  have distinct : (connection.history.map (·.signature))[j]? = (connection.history.map (·.signature))[k]? := by
    rw [List.getElem?_map,List.getElem?_map,here,List.getElem?_eq_getElem (by omega)]
    exact congrArg some equal
  have := (List.getElem?_inj (by rw [List.length_map]; omega) connection.distinct).mp distinct
  omega

-- The page after the first `seen` signatures.
def Follows (connection : Connection σ) (seen : ℕ) (before : Option σ) : Prop :=
  ∀ limit, connection.getSignaturesForAddress limit before = (connection.history.drop seen).take limit

theorem follows_first (connection : Connection σ) : Follows connection 0 none := fun _ => rfl

theorem follows_page {connection : Connection σ} {seen limit : ℕ} (positive : 0 < limit)
    (full : ((connection.history.drop seen).take limit).length = limit) :
    Follows connection (seen + limit) (((connection.history.drop seen).take limit).getLast?.map (·.signature)) := by
  have enough : seen + limit ≤ connection.history.length := by
    rw [List.length_take,List.length_drop] at full
    omega
  have last : ((connection.history.drop seen).take limit).getLast? = connection.history[seen + limit - 1]? := by
    rw [List.getLast?_eq_getElem?,full,List.getElem?_take_of_lt (by omega),List.getElem?_drop]
    congr 1
    omega
  have here := List.getElem?_eq_getElem (l := connection.history) (i := seen + limit - 1) (by omega)
  intro next
  rw [last,here]
  unfold Connection.getSignaturesForAddress
  dsimp only [Option.map_some]
  rw [findIdx_signature connection here]
  congr 2
  omega

-- All successful signatures, when the history ends within the window.
theorem successfulSignatures_all (connection : Connection σ) {seen : ℕ} {before : Option σ} (follows : Follows connection seen before)
    (within : seen ≤ connection.history.length) (window : seen ≤ SIG_WINDOW) (ok : List σ) :
    successfulSignatures connection seen before ok =
      if connection.history.length < SIG_WINDOW then
        some (ok ++ ((connection.history.drop seen).filter fun s => !s.err).map (·.signature)) else none := by
  have page : SIG_PAGE = 250 := rfl
  induction left : SIG_WINDOW-seen using Nat.strong_induction_on generalizing seen before ok with
  | _ n ih =>
    rw [successfulSignatures]
    by_cases more : seen < SIG_WINDOW
    · rw [if_pos more]
      dsimp only
      rw [follows]
      have limit_pos : 0 < min SIG_PAGE (SIG_WINDOW-seen) := by omega
      by_cases short : ((connection.history.drop seen).take (min SIG_PAGE (SIG_WINDOW-seen))).length < min SIG_PAGE (SIG_WINDOW-seen)
      · rw [if_pos short]
        have ends : (connection.history.drop seen).length < min SIG_PAGE (SIG_WINDOW-seen) := by
          rw [List.length_take] at short
          omega
        rw [List.length_drop] at ends
        rw [if_pos (by omega),List.take_of_length_le (by rw [List.length_drop]; omega)]
      · rw [if_neg short]
        have full : ((connection.history.drop seen).take (min SIG_PAGE (SIG_WINDOW-seen))).length = min SIG_PAGE (SIG_WINDOW-seen) := by
          rw [List.length_take] at short ⊢
          omega
        have enough : seen + min SIG_PAGE (SIG_WINDOW-seen) ≤ connection.history.length := by
          rw [List.length_take,List.length_drop] at full
          omega
        rw [full]
        rw [ih (SIG_WINDOW-(seen + min SIG_PAGE (SIG_WINDOW-seen))) (by omega) (follows_page limit_pos full) enough (by omega) _ rfl]
        have split_page : connection.history.drop seen = (connection.history.drop seen).take (min SIG_PAGE (SIG_WINDOW-seen)) ++
            connection.history.drop (seen + min SIG_PAGE (SIG_WINDOW-seen)) := by
          rw [← List.drop_drop,List.take_append_drop]
        split
        · congr 1
          conv_rhs => rw [split_page]
          rw [List.filter_append,List.map_append,List.append_assoc]
        · rfl
    · rw [if_neg more,if_neg (by omega)]

omit [DecidableEq σ] in
theorem getTransactions_some {connection : Connection σ} {sigs : List σ} {txs : List (Option TransactionResponse)}
    (answered : connection.getTransactions sigs = some txs) : txs = sigs.map connection.getTransaction := by
  unfold Connection.getTransactions at answered
  split at answered
  · exact (Option.some.inj answered).symm
  · cases answered

-- Batched or one by one, the transactions are the same.
omit [DecidableEq σ] in
theorem fetchTransactions_each (connection : Connection σ) (sigs : List σ) :
    fetchTransactions connection sigs = sigs.map connection.getTransaction := by
  unfold fetchTransactions
  split
  case h_1 txs answered =>
    split at answered
    · exact getTransactions_some answered
    · cases answered
  case h_2 => rfl

omit [DecidableEq σ] in
theorem find_chunk (connection : Connection σ) (creates : TransactionResponse → Bool) (chunk : List σ) :
    (chunk.zipIdx.find? fun entry => ((chunk.map connection.getTransaction)[entry.2]?.join).any creates).map (·.1) =
      chunk.find? fun sig => (connection.getTransaction sig).any creates := by
  have same : ∀ entry ∈ chunk.zipIdx, ((chunk.map connection.getTransaction)[entry.2]?.join).any creates =
      (connection.getTransaction entry.1).any creates := by
    intro entry inside
    have here := List.mem_zipIdx_iff_getElem?.mp inside
    rw [List.getElem?_map,here]
    rfl
  calc (chunk.zipIdx.find? fun entry => ((chunk.map connection.getTransaction)[entry.2]?.join).any creates).map (·.1)
      = (chunk.zipIdx.find? ((fun sig => (connection.getTransaction sig).any creates) ∘ Prod.fst)).map Prod.fst := by
        rw [List.find?_congr same]
        rfl
    _ = (chunk.zipIdx.map Prod.fst).find? fun sig => (connection.getTransaction sig).any creates := List.find?_map.symm
    _ = chunk.find? fun sig => (connection.getTransaction sig).any creates := by rw [List.zipIdx_map_fst]

-- The search in batches, oldest first, is a search for the first match.
omit [DecidableEq σ] in
theorem searchOldest_find (connection : Connection σ) (creates : TransactionResponse → Bool) (oldestFirst : List σ) :
    searchOldest connection creates oldestFirst = oldestFirst.find? fun sig => (connection.getTransaction sig).any creates := by
  induction length : oldestFirst.length using Nat.strong_induction_on generalizing oldestFirst with
  | _ n ih =>
    rw [searchOldest]
    by_cases none_left : oldestFirst = []
    · rw [if_pos none_left,none_left]
      rfl
    · rw [if_neg none_left]
      have positive := List.length_pos_of_ne_nil none_left
      have batch : TX_BATCH = 10 := rfl
      dsimp only
      rw [fetchTransactions_each]
      have chunk := find_chunk connection creates (oldestFirst.take TX_BATCH)
      conv_rhs => rw [← List.take_append_drop TX_BATCH oldestFirst,List.find?_append,← chunk]
      split
      case h_1 hit found => rw [found]; rfl
      case h_2 missed =>
        rw [missed,ih (oldestFirst.drop TX_BATCH).length (by rw [List.length_drop]; omega) _ rfl]
        rfl

section
variable (connection : Connection σ) (anchorDiscriminator : String → List Byte) (configured : Option Pubkey) (account : Pubkey)
  (expect : CreatingTxExpectation)

-- A successful transaction with the signer's signature and an instruction of the program, one of those named if any is, that
-- lists the account.
structure Matches (programId : Pubkey) (tx : TransactionResponse) : Prop where
  succeeded : tx.err = false
  signed : ∀ signer ∈ expect.signer, signer ∈ tx.keys.take tx.numRequiredSignatures
  instruction : ∃ ix ∈ tx.compiledInstructions, tx.keys[ix.programIdIndex]? = some programId ∧
    (expect.instruction = [] ∨ ∃ name ∈ expect.instruction, (anchorDiscriminator name).IsPrefix ix.data) ∧
    ∃ i ∈ ix.accountKeyIndexes, tx.keys[i]? = some account

theorem txCreates_matches (programId : Pubkey) (tx : TransactionResponse) :
    txCreates tx account programId (expect.instruction.map anchorDiscriminator) expect.signer = true ↔
      Matches anchorDiscriminator account expect programId tx := by
  have signed : ∀ signer, ((List.range tx.numRequiredSignatures).any fun i => decide (tx.keys[i]? = some signer)) = true ↔
      signer ∈ tx.keys.take tx.numRequiredSignatures := by
    intro signer
    rw [List.any_eq_true,List.mem_take_iff_getElem]
    constructor
    · intro ⟨i,within,here⟩
      obtain ⟨inside,same⟩ := List.getElem?_eq_some_iff.mp (of_decide_eq_true here)
      exact ⟨i,lt_min (List.mem_range.mp within) inside,same⟩
    · intro ⟨i,within,same⟩
      refine ⟨i,List.mem_range.mpr (lt_of_lt_of_le within (min_le_left _ _)),?_⟩
      exact decide_eq_true (List.getElem?_eq_some_iff.mpr ⟨lt_of_lt_of_le within (min_le_right _ _),same⟩)
  have instruction : (tx.compiledInstructions.any fun ix => decide (tx.keys[ix.programIdIndex]? = some programId) &&
      ((expect.instruction.map anchorDiscriminator).isEmpty ||
        (expect.instruction.map anchorDiscriminator).any (startsWith ix.data)) &&
      ix.accountKeyIndexes.any fun i => decide (tx.keys[i]? = some account)) = true ↔
      ∃ ix ∈ tx.compiledInstructions, tx.keys[ix.programIdIndex]? = some programId ∧
        (expect.instruction = [] ∨ ∃ name ∈ expect.instruction, (anchorDiscriminator name).IsPrefix ix.data) ∧
        ∃ i ∈ ix.accountKeyIndexes, tx.keys[i]? = some account := by
    simp [startsWith,and_assoc]
  unfold txCreates
  rw [Bool.and_eq_true,Bool.and_eq_true,instruction]
  constructor
  · intro ⟨⟨succeeded,signer_there⟩,found⟩
    refine ⟨by simpa using succeeded,?_,found⟩
    intro signer wanted
    rw [Option.mem_def.mp wanted] at signer_there
    exact (signed signer).mp signer_there
  · intro matching
    refine ⟨⟨by simpa using matching.succeeded,?_⟩,matching.instruction⟩
    have signer_there := matching.signed
    cases wanted : expect.signer with
    | none => rfl
    | some signer => exact (signed signer).mpr (signer_there signer wanted)

-- A successful signature whose transaction can be read and matches.
def Creating (s : SignatureInfo σ) : Prop :=
  s.err = false ∧ ∃ programId tx, expect.programId.or configured = some programId ∧ connection.getTransaction s.signature = some tx ∧
    Matches anchorDiscriminator account expect programId tx

theorem creatingSignature_find {programId : Pubkey} (given : expect.programId.or configured = some programId) :
    creatingSignature connection anchorDiscriminator configured account expect =
      if connection.history.length < SIG_WINDOW then
        (connection.history.reverse.find? fun s => !s.err && (connection.getTransaction s.signature).any
          (txCreates · account programId (expect.instruction.map anchorDiscriminator) expect.signer)).map (·.signature)
      else none := by
  unfold creatingSignature
  rw [given,successfulSignatures_all connection (follows_first connection) (Nat.zero_le _) (Nat.zero_le _)]
  split
  case isTrue =>
    change searchOldest _ _ _ = _
    rw [searchOldest_find,List.nil_append,List.drop_zero,← List.map_reverse,← List.filter_reverse,List.find?_map,List.find?_filter]
    simp only [Bool.decide_and,Bool.decide_eq_true,Function.comp_apply]
  case isFalse => rfl

structure FindsCreating : Prop where
  found : ∀ sig, creatingSignature connection anchorDiscriminator configured account expect = some sig →
    ∃ newer s older, connection.history = newer ++ s :: older ∧ s.signature = sig ∧
      Creating connection anchorDiscriminator configured account expect s ∧
      ∀ other ∈ older, ¬Creating connection anchorDiscriminator configured account expect other
  none_found : connection.history.length < SIG_WINDOW →
    creatingSignature connection anchorDiscriminator configured account expect = none →
    ∀ s ∈ connection.history, ¬Creating connection anchorDiscriminator configured account expect s
  window : SIG_WINDOW ≤ connection.history.length →
    creatingSignature connection anchorDiscriminator configured account expect = none
  batches : ∀ answers, creatingSignature {connection with answers := answers} anchorDiscriminator configured account expect =
    creatingSignature connection anchorDiscriminator configured account expect

omit [DecidableEq σ] in
theorem creating_iff {programId : Pubkey} (given : expect.programId.or configured = some programId) (s : SignatureInfo σ) :
    (!s.err && (connection.getTransaction s.signature).any
      (txCreates · account programId (expect.instruction.map anchorDiscriminator) expect.signer)) = true ↔
      Creating connection anchorDiscriminator configured account expect s := by
  rw [Bool.and_eq_true,Option.any_eq_true]
  constructor
  · intro ⟨succeeded,tx,read,creates⟩
    exact ⟨by simpa using succeeded,programId,tx,given,read,(txCreates_matches _ _ _ _ _).mp creates⟩
  · intro ⟨succeeded,other,tx,given',read,matching⟩
    cases given.symm.trans given'
    exact ⟨by simpa using succeeded,tx,read,(txCreates_matches _ _ _ _ _).mpr matching⟩

theorem finds_creating : FindsCreating connection anchorDiscriminator configured account expect := by
  cases given : expect.programId.or configured with
  | none =>
    have nothing : ∀ other : Connection σ, creatingSignature other anchorDiscriminator configured account expect = none := by
      intro other
      unfold creatingSignature
      rw [given]
      rfl
    refine ⟨?_,?_,fun _ => nothing _,fun answers => by rw [nothing,nothing]⟩
    · intro sig found
      rw [nothing] at found
      cases found
    · intro _ _ s _ ⟨_,programId,_,given',_⟩
      rw [given] at given'
      cases given'
  | some programId =>
    have search := creatingSignature_find connection anchorDiscriminator configured account expect given
    refine ⟨?_,?_,?_,?_⟩
    · intro sig found
      rw [search] at found
      split at found
      case isFalse => cases found
      case isTrue =>
        obtain ⟨s,first,same⟩ := Option.map_eq_some_iff.mp found
        obtain ⟨creating,older,newer,whole,before⟩ := List.find?_eq_some_iff_append.mp first
        refine ⟨newer.reverse,s,older.reverse,?_,same,(creating_iff _ _ _ _ _ given s).mp creating,?_⟩
        · have := congrArg List.reverse whole
          simpa using this
        · intro other inside creating
          have refused := before other (List.mem_reverse.mp inside)
          rw [(creating_iff _ _ _ _ _ given other).mpr creating] at refused
          cases refused
    · intro short missing s inside creating
      rw [search,if_pos short] at missing
      have refused := List.find?_eq_none.mp (Option.map_eq_none_iff.mp missing) s (List.mem_reverse.mpr inside)
      exact refused ((creating_iff _ _ _ _ _ given s).mpr creating)
    · intro long
      rw [search,if_neg (Nat.not_lt.mpr long)]
    · intro answers
      rw [search]
      exact creatingSignature_find {connection with answers := answers} anchorDiscriminator configured account expect given

end

-- An account that two successful transactions list, after one that failed.
namespace Recovered

def signer : Pubkey := .keypair 1
def account : Pubkey := .keypair 2
def program : Pubkey := .foreign 1
def tx : TransactionResponse := ⟨false,false,[signer,account,program],([],[]),1,[⟨2,[1],[7,7,1]⟩]⟩
def expect : CreatingTxExpectation := ⟨none,["record_scan"],some signer⟩
def anchorDiscriminator (_ : String) : List Byte := [7,7]
def first : SignatureInfo ℕ := ⟨2,false⟩

def connection : Connection ℕ where
  history := [⟨3,false⟩,first,⟨1,true⟩]
  distinct := by decide
  getTransaction _ := some tx
  answers sigs := decide (sigs.length ≠ 2)

theorem creates : Creating connection anchorDiscriminator (some program) account expect first := by
  refine ⟨rfl,program,tx,rfl,rfl,(txCreates_matches anchorDiscriminator account expect program tx).mp ?_⟩
  decide

theorem first_found : creatingSignature connection anchorDiscriminator (some program) account expect = some 2 := by
  have law := finds_creating connection anchorDiscriminator (some program) account expect
  cases result : creatingSignature connection anchorDiscriminator (some program) account expect with
  | none => exact absurd creates (law.none_found (by decide) result first (by decide))
  | some sig =>
    obtain ⟨newer,s,older,whole,same,succeeded,oldest⟩ := law.found sig result
    rcases newer with _ | ⟨_,_ | ⟨_,_ | ⟨_,newer⟩⟩⟩
    · obtain ⟨-,rest⟩ := List.cons.inj whole
      exact absurd creates (oldest first (rest ▸ List.mem_cons_self))
    · obtain ⟨-,rest⟩ := List.cons.inj whole
      obtain ⟨here,-⟩ := List.cons.inj rest
      rw [← same,← here]
      rfl
    · obtain ⟨-,rest⟩ := List.cons.inj whole
      obtain ⟨-,rest⟩ := List.cons.inj rest
      obtain ⟨here,-⟩ := List.cons.inj rest
      rw [← here] at succeeded
      exact absurd succeeded.1 (by decide)
    · have lengths := congrArg List.length whole
      simp [connection] at lengths

end Recovered
end FlaconVault.Web
