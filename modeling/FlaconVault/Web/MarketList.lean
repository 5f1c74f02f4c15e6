import FlaconVault.Web.Inputs
import FlaconVault.Web.OrderPage
namespace FlaconVault.Web
open Guards Escrow

-- The listing form of the market page.
structure ListForm where
  serial : String
  price : String

structure CoreAssetInfo where
  owner : Pubkey
  inCollection : Bool

def fetchPassportChain (s : Ledger) (passport : Pubkey) : Option Passport := s.flacon.passports passport

section Form
variable (serialHash : String → Bytes32) (inCollection : Pubkey → Bool)

-- The update authority of an asset, which says whether it is in a collection, is not on this ledger.
def fetchCoreAsset (s : Ledger) (asset : Pubkey) : Option CoreAssetInfo := (s.assets asset).map fun owner => ⟨owner,inCollection asset⟩

-- `list` up to the transaction it sends: the listing, and the deposit of the Core asset where there is one outside collections.
-- Without a serial it ends and says nothing.
def listTx (s : Ledger) (form : ListForm) (seller : Pubkey) : Except (Option String) (List Ix) := do
  require (form.serial ≠ "") none
  require (isValidSerial form.serial) (some "This serial number cannot be listed (invalid format).")
  let price ← orRefuse (parsePriceUsdc form.price)
    (some "Enter a price in USDC greater than 0, with at most 6 decimals (for example 480 or 480.50).")
  let passport := Pubkey.passport (serialHash form.serial)
  let chain ← orRefuse (fetchPassportChain s passport) (some "This passport is not on chain (yet).")
  require (¬(chain.void ∨ chain.grade = .void)) (some "This passport is VOID and cannot be listed.")
  let core := fetchCoreAsset inCollection s chain.asset
  let allowed := match core with
    | some core => core.owner == seller
    | none => chain.issuer == seller
  require (allowed = true) (some (if core.isSome then "Only the owner of this bottle's Core asset can list it. Connect that wallet."
    else "Only the issuer of this passport can list it. Connect that wallet."))
  let deposit := core.any (!·.inCollection)
  return escrowIx.list passport seller (Fin.ofNat _ price) chain.asset ++
    if deposit then escrowIx.depositAsset (.order passport seller) seller chain.asset else []

-- What the form asks for.
structure Listable (s : Ledger) (form : ListForm) (seller : Pubkey) (price : U64) (chain : Passport) : Prop where
  serial : WellFormedSerial form.serial
  priced : parsePriceUsdc form.price = some price.val
  onChain : s.flacon.passports (.passport (serialHash form.serial)) = some chain
  valid : ¬chain.void ∧ chain.grade ≠ .void
  may : match s.assets chain.asset with
    | some owner => owner = seller
    | none => chain.issuer = seller

def deposits (s : Ledger) (chain : Passport) : Bool := (s.assets chain.asset).isSome && !inCollection chain.asset

def listing (s : Ledger) (form : ListForm) (seller : Pubkey) (price : U64) (chain : Passport) : List Ix :=
  escrowIx.list (.passport (serialHash form.serial)) seller price chain.asset ++
    if deposits inCollection s chain then
      escrowIx.depositAsset (.order (.passport (serialHash form.serial)) seller) seller chain.asset
    else []

end Form

theorem WellFormedSerial.nonempty {serial : String} (fits : WellFormedSerial serial) : serial ≠ "" := by
  rintro rfl
  exact absurd fits.length (by decide)

theorem price_positive (priced : parsePriceUsdc input = some price) : 0 < price ∧ price < 2^64 := by
  simp only [parsePriceUsdc,Option.bind_eq_some_iff] at priced
  obtain ⟨groups,-,parsed⟩ := priced
  simp only [Option.ite_none_left_eq_some,Option.some.injEq] at parsed
  obtain ⟨fits,rfl⟩ := parsed
  unfold U64_MAX at fits
  omega

variable {serialHash : String → Bytes32} {inCollection : Pubkey → Bool} {s : Ledger} {form : ListForm} {seller : Pubkey}

-- The form builds a transaction exactly for what can be listed.
theorem listTx_ok : listTx serialHash inCollection s form seller = .ok tx ↔
    ∃ price chain, Listable serialHash s form seller price chain ∧ tx = listing serialHash inCollection s form seller price chain := by
  simp only [listTx,bind_ok,require_ok,orRefuse_ok,exists_const,pure_ok,isValidSerial_iff,fetchPassportChain,not_or]
  constructor
  · rintro ⟨-,serial,price,priced,chain,onChain,valid,allowed,rfl⟩
    have same : (Fin.ofNat (2^64) price).val = price := Nat.mod_eq_of_lt (price_positive priced).2
    refine ⟨Fin.ofNat _ price,chain,⟨serial,by rw [same]; exact priced,onChain,valid,?_⟩,?_⟩
    · cases owned : s.assets chain.asset with
      | none => simpa [fetchCoreAsset,owned] using allowed
      | some owner => simpa [fetchCoreAsset,owned] using allowed
    · cases owned : s.assets chain.asset <;> simp [listing,deposits,fetchCoreAsset,owned]
  · rintro ⟨price,chain,⟨serial,priced,onChain,valid,may⟩,rfl⟩
    have same : Fin.ofNat (2^64) price.val = price := Fin.ext (Nat.mod_eq_of_lt price.2)
    refine ⟨serial.nonempty,serial,price.val,priced,chain,onChain,valid,?_,?_⟩
    · cases owned : s.assets chain.asset with
      | none => simpa [fetchCoreAsset,owned] using may
      | some owner => simpa [fetchCoreAsset,owned] using may
    · cases owned : s.assets chain.asset <;> simp [listing,deposits,fetchCoreAsset,owned]

-- What the form says, and when.
inductive Refusal (serialHash : String → Bytes32) (s : Ledger) (form : ListForm) (seller : Pubkey) : Option String → Prop where
  | silent (empty : form.serial = "") : Refusal serialHash s form seller none
  | serial (sent : form.serial ≠ "") (malformed : ¬WellFormedSerial form.serial) :
      Refusal serialHash s form seller (some "This serial number cannot be listed (invalid format).")
  | price (unpriced : parsePriceUsdc form.price = none) : Refusal serialHash s form seller
      (some "Enter a price in USDC greater than 0, with at most 6 decimals (for example 480 or 480.50).")
  | unknown (missing : s.flacon.passports (.passport (serialHash form.serial)) = none) :
      Refusal serialHash s form seller (some "This passport is not on chain (yet).")
  | void (chain : Passport) (onChain : s.flacon.passports (.passport (serialHash form.serial)) = some chain)
      (isVoid : chain.void ∨ chain.grade = .void) : Refusal serialHash s form seller (some "This passport is VOID and cannot be listed.")
  | owner (chain : Passport) (owner : Pubkey) (onChain : s.flacon.passports (.passport (serialHash form.serial)) = some chain)
      (owned : s.assets chain.asset = some owner) (other : owner ≠ seller) :
      Refusal serialHash s form seller (some "Only the owner of this bottle's Core asset can list it. Connect that wallet.")
  | issuer (chain : Passport) (onChain : s.flacon.passports (.passport (serialHash form.serial)) = some chain)
      (unowned : s.assets chain.asset = none) (other : chain.issuer ≠ seller) :
      Refusal serialHash s form seller (some "Only the issuer of this passport can list it. Connect that wallet.")

section Errors
variable {ε α β : Type}

theorem bind_error {program : Except ε α} {rest : α → Except ε β} {error : ε} : (program >>= rest) = .error error ↔
    program = .error error ∨ ∃ value, program = .ok value ∧ rest value = .error error := by
  cases program with
  | error => simp [bind,Except.bind]
  | ok value => simp [bind,Except.bind]

theorem require_error {condition : Prop} [Decidable condition] {error other : ε} :
    require condition error = .error other ↔ ¬condition ∧ error = other := by
  unfold require
  split <;> simp_all

theorem orRefuse_error {found : Option α} {error other : ε} : orRefuse found error = .error other ↔ found = none ∧ error = other := by
  cases found <;> simp [orRefuse]

end Errors

theorem listTx_refused (refused : listTx serialHash inCollection s form seller = .error text) : Refusal serialHash s form seller text := by
  simp only [listTx,bind_error,require_error,orRefuse_error,require_ok,orRefuse_ok,isValidSerial_iff,fetchPassportChain,
    exists_const] at refused
  rcases refused with ⟨empty,rfl⟩ | ⟨sent,⟨malformed,rfl⟩ | ⟨-,⟨unpriced,rfl⟩ | ⟨price,-,⟨missing,rfl⟩ | ⟨chain,onChain,refused⟩⟩⟩⟩
  · exact .silent (not_not.mp empty)
  · exact .serial sent malformed
  · exact .price unpriced
  · exact .unknown missing
  · rcases refused with ⟨isVoid,rfl⟩ | ⟨-,⟨forbidden,rfl⟩ | ⟨-,built⟩⟩
    · exact .void chain onChain (not_not.mp isVoid)
    · cases owned : s.assets chain.asset with
      | none =>
        simp only [fetchCoreAsset,owned,Option.map_none,beq_iff_eq] at forbidden ⊢
        exact .issuer chain onChain owned forbidden
      | some owner =>
        simp only [fetchCoreAsset,owned,Option.map_some,beq_iff_eq] at forbidden ⊢
        exact .owner chain owner onChain owned forbidden
    · cases built

-- What the program asks for when a listing arrives.
structure MayList (s : Ledger) (seller passport asset : Pubkey) (config : EscrowConfig) : Prop where
  configFound : s.escrow.config = some config
  entitled : ∃ chain registry, s.flacon.passports passport = some chain ∧ s.flacon.registry = some registry ∧ chain.asset = asset ∧
    (¬chain.void ∧ chain.grade ≠ .void) ∧ checkSellerOf s seller chain asset registry = .ok ()
  fresh : s.escrow.orders (.order passport seller) = none

-- The ledger with a new order, and its asset in custody or not.
def listed (s : Ledger) (seller passport asset : Pubkey) (price : U64) (config : EscrowConfig) (now : I64) (deposited : Bool) : Ledger :=
  {s with
    assets := if deposited then s.assets.put asset (.order passport seller) else s.assets
    escrow.orders := s.escrow.orders.put (.order passport seller) ⟨passport,seller,.default,asset,price,.listed,now,.zero,.zero,
      .default,.default,Escrow.effectiveWindow config.disputeAfterS,deposited⟩}

theorem put_twice (cells : Cells Pubkey Order) (key : Pubkey) (first second : Order) :
    (cells.put key first).put key second = cells.put key second := by
  refine Cells.ext fun other => ?_
  simp only [Cells.put_apply]
  split <;> rfl

section Program
variable {passport asset : Pubkey} {price : U64} {now : I64} (signs : seller.canSign) (positive : 0 < price.val)
include signs positive

theorem list_accepted : processEscrow s now (.list ⟨.config,passport,.order passport seller,seller,asset,.registry⟩ price) = .ok after ↔
    ∃ config, MayList s seller passport asset config ∧ after = listed s seller passport asset price config now false := by
  simp only [processEscrow,handleList,bind_ok,loadConfig_ok,Flacon.requireSigner_ok,Flacon.loadRegistry_ok,require_ok,orRefuse_ok,
    exists_const,pure_ok,true_and]
  constructor
  · rintro ⟨config,configFound,chain,there,-,registry,registryFound,fresh,rfl,-,valid,_,may,rfl⟩
    exact ⟨config,⟨configFound,⟨chain,registry,there,registryFound,rfl,valid,may⟩,fresh⟩,rfl⟩
  · rintro ⟨config,⟨configFound,⟨chain,registry,there,registryFound,rfl,valid,may⟩,fresh⟩,rfl⟩
    exact ⟨config,configFound,chain,there,signs,registry,registryFound,fresh,rfl,positive,valid,(),may,rfl⟩

omit positive in
theorem deposit_accepted {config : EscrowConfig} :
    processEscrow (listed s seller passport asset price config now false) now
      (.depositAsset ⟨.order passport seller,seller,asset,MPL_CORE_PROGRAM_ID⟩) = .ok after ↔
    s.assets asset = some seller ∧ after = listed s seller passport asset price config now true := by
  have loaded : loadSellerOrder (listed s seller passport asset price config now false) (.order passport seller) seller =
      .ok ⟨passport,seller,.default,asset,price,.listed,now,.zero,.zero,.default,.default,
        Escrow.effectiveWindow config.disputeAfterS,false⟩ :=
    loadSellerOrder_ok.mpr ⟨Cells.put_self _ _ _,rfl,signs,rfl⟩
  have assets : (listed s seller passport asset price config now false).assets = s.assets := rfl
  simp only [processEscrow,handleDepositAsset,loaded,ok_bind,transferV1,Core.transfer,assets,require_pass,bind_ok,require_ok,
    orRefuse_ok,exists_const,pure_ok]
  constructor
  · rintro ⟨-,moved,⟨-,owner,owned,rfl,rfl⟩,rfl⟩
    refine ⟨owned,?_⟩
    simp [listed,put_twice]
  · rintro ⟨owned,rfl⟩
    have known : s.assets asset ≠ none := by simp [owned]
    refine ⟨by simp,_,⟨known,seller,owned,rfl,rfl⟩,?_⟩
    simp [listed,put_twice]

end Program

-- A wallet at the listing form: the form was checked at one point of a run, and its transaction arrives at a later one.
structure Listing where
  serialHash : String → Bytes32
  inCollection : Pubkey → Bool
  run : Run
  opened : ℕ
  arrived : ℕ
  later : opened ≤ arrived
  form : ListForm
  seller : Pubkey
  signs : seller.canSign
  now : I64

namespace Listing
variable (listing : Listing)

def passport : Pubkey := .passport (listing.serialHash listing.form.serial)

def checked : Ledger := listing.run.ledger listing.opened
def ledger : Ledger := listing.run.ledger listing.arrived

def tx : Except (Option String) (List Ix) := listTx listing.serialHash listing.inCollection listing.checked listing.form listing.seller

-- The deposit goes with the listing where the asset was there, outside collections, when the form was checked.
def Deposits (chain : Passport) : Prop := deposits listing.inCollection listing.checked chain = true

end Listing

-- What the form does not look at: the market is set up, the seller has no open order for the passport, and an issuer without a
-- Core asset is still active.
structure MarketOpen (s : Ledger) (seller passport : Pubkey) (chain : Passport) : Prop where
  configured : ∃ config, s.escrow.config = some config
  registered : ∃ registry, s.flacon.registry = some registry ∧
    (s.assets chain.asset = none → registry.isPartnerOrAuthority chain.issuer = true)
  fresh : s.escrow.orders (.order passport seller) = none

theorem seller_checked (may : match s.assets chain.asset with
    | some owner => owner = seller
    | none => chain.issuer = seller) :
    checkSellerOf s seller chain chain.asset registry = .ok () ↔
      (s.assets chain.asset = none → registry.isPartnerOrAuthority chain.issuer = true) := by
  cases owned : s.assets chain.asset with
  | none =>
    simp only [owned] at may
    simp [checkSellerOf,checkSeller,require_ok,owned,may]
  | some owner =>
    simp only [owned] at may
    simp [checkSellerOf,checkSeller,require_ok,owned,may]

theorem may_list_now {price : U64} {chain : Passport} (listable : Listable serialHash s form seller price chain) :
    ((∃ config, MayList s seller (.passport (serialHash form.serial)) chain.asset config) ∧
      (deposits inCollection s chain = true → s.assets chain.asset = some seller)) ↔
      MarketOpen s seller (.passport (serialHash form.serial)) chain := by
  constructor
  · rintro ⟨⟨config,configFound,⟨read,registry,there,registryFound,-,valid,may⟩,fresh⟩,-⟩
    cases Option.some.inj (there.symm.trans listable.onChain)
    exact ⟨⟨config,configFound⟩,⟨registry,registryFound,(seller_checked listable.may).mp may⟩,fresh⟩
  · rintro ⟨⟨config,configFound⟩,⟨registry,registryFound,active⟩,fresh⟩
    refine ⟨⟨config,configFound,⟨chain,registry,listable.onChain,registryFound,rfl,listable.valid,
      (seller_checked listable.may).mpr active⟩,fresh⟩,?_⟩
    intro deposited
    have may := listable.may
    cases owned : s.assets chain.asset with
    | none => simp [deposits,owned] at deposited
    | some owner =>
      simp only [owned] at may
      rw [may]

-- The form lets through exactly what can be listed and says so; what it lets through is listed, with its asset in custody where
-- it has one to give, exactly if the program still allows it.
structure ListingLaw (library : TokenLibrary) (listing : Listing) : Prop where
  builds : (∃ tx, listing.tx = .ok tx) ↔
    ∃ price chain, Listable listing.serialHash listing.checked listing.form listing.seller price chain
  refuses : ∀ text, listing.tx = .error text → Refusal listing.serialHash listing.checked listing.form listing.seller text
  comes : ∀ tx, listing.tx = .ok tx → ∃ price chain,
    Listable listing.serialHash listing.checked listing.form listing.seller price chain ∧
    Comes library listing.ledger listing.seller listing.now tx
      ((∃ config, MayList listing.ledger listing.seller listing.passport chain.asset config) ∧
        (listing.Deposits chain → listing.ledger.assets chain.asset = some listing.seller))
      (fun after => ∃ config, listing.ledger.escrow.config = some config ∧
        after = listed listing.ledger listing.seller listing.passport chain.asset price config listing.now
          (deposits listing.inCollection listing.checked chain))
  atOnce : listing.arrived = listing.opened → ∀ price chain,
    Listable listing.serialHash listing.checked listing.form listing.seller price chain →
    (((∃ config, MayList listing.ledger listing.seller listing.passport chain.asset config) ∧
      (listing.Deposits chain → listing.ledger.assets chain.asset = some listing.seller)) ↔
      MarketOpen listing.ledger listing.seller listing.passport chain)

theorem list_comes (library : TokenLibrary) (passport asset : Pubkey) (now : I64) {me : Pubkey} {price : U64} (signs : me.canSign)
    (positive : 0 < price.val) (reachable : Reachable s) :
    Comes library s me now (escrowIx.list passport me price asset) (∃ config, MayList s me passport asset config)
      (fun after => ∃ config, s.escrow.config = some config ∧ after = listed s me passport asset price config now false) := by
  refine one_comes reachable rfl ?_ ?_
  · rintro ⟨config,may⟩
    exact ⟨_,(list_accepted signs positive).mpr ⟨config,may,rfl⟩⟩
  · intro after accepted
    obtain ⟨config,may,rfl⟩ := (list_accepted signs positive).mp accepted
    exact ⟨⟨config,may⟩,config,may.configFound,rfl⟩

theorem list_deposit_comes (library : TokenLibrary) (passport asset : Pubkey) (now : I64) {me : Pubkey} {price : U64} (signs : me.canSign)
    (positive : 0 < price.val) (reachable : Reachable s) :
    Comes library s me now (escrowIx.list passport me price asset ++ escrowIx.depositAsset (.order passport me) me asset)
      ((∃ config, MayList s me passport asset config) ∧ s.assets asset = some me)
      (fun after => ∃ config, s.escrow.config = some config ∧ after = listed s me passport asset price config now true) := by
  have sent (after : Ledger) : sendSigned library me
      (escrowIx.list passport me price asset ++ escrowIx.depositAsset (.order passport me) me asset) now s = .ok after ↔
      ∃ config, MayList s me passport asset config ∧ s.assets asset = some me ∧
        after = listed s me passport asset price config now true := by
    simp only [send_ok,escrowIx.list,escrowIx.depositAsset,List.cons_append,List.nil_append,List.mem_cons,List.not_mem_nil,or_false,
      forall_eq_or_imp,forall_eq,Ix.signer,signerOf,List.foldlM_cons,List.foldlM_nil,processIx,bind_ok,pure_ok,exists_eq_right,
      list_accepted signs positive,true_and]
    constructor
    · rintro ⟨middle,⟨config,may,rfl⟩,deposited⟩
      exact ⟨config,may,(deposit_accepted signs).mp deposited⟩
    · rintro ⟨config,may,owned,rfl⟩
      exact ⟨_,⟨config,may,rfl⟩,(deposit_accepted signs).mpr ⟨owned,rfl⟩⟩
  refine ⟨⟨?_,?_⟩,?_,?_⟩
  · rintro ⟨after,accepted⟩
    obtain ⟨config,may,owned,-⟩ := (sent after).mp accepted
    exact ⟨⟨config,may⟩,owned⟩
  · rintro ⟨⟨config,may⟩,owned⟩
    exact ⟨_,(sent _).mpr ⟨config,may,owned,rfl⟩⟩
  · intro after accepted
    obtain ⟨config,may,owned,rfl⟩ := (sent after).mp accepted
    have first : process ⟨.escrow (.list ⟨.config,passport,.order passport me,me,asset,.registry⟩ price),now⟩ s =
        .ok (listed s me passport asset price config now false) := (list_accepted signs positive).mpr ⟨config,may,rfl⟩
    have second : process ⟨.escrow (.depositAsset ⟨.order passport me,me,asset,MPL_CORE_PROGRAM_ID⟩),now⟩
        (listed s me passport asset price config now false) = .ok (listed s me passport asset price config now true) :=
      (deposit_accepted signs).mpr ⟨owned,rfl⟩
    exact reachable_process (reachable_process reachable first) second
  · intro after accepted
    obtain ⟨config,may,-,rfl⟩ := (sent after).mp accepted
    exact ⟨config,may.configFound,rfl⟩

theorem listing_law (library : TokenLibrary) (listing : Listing) : ListingLaw library listing := by
  have reachable : Reachable listing.ledger := ⟨listing.run,listing.arrived,rfl⟩
  refine ⟨?_,fun text refused => listTx_refused refused,?_,?_⟩
  · constructor
    · rintro ⟨tx,built⟩
      obtain ⟨price,chain,listable,-⟩ := listTx_ok.mp built
      exact ⟨price,chain,listable⟩
    · rintro ⟨price,chain,listable⟩
      exact ⟨_,listTx_ok.mpr ⟨price,chain,listable,rfl⟩⟩
  · intro tx built
    obtain ⟨price,chain,listable,rfl⟩ := listTx_ok.mp built
    have positive := (price_positive listable.priced).1
    refine ⟨price,chain,listable,?_⟩
    unfold Web.listing Listing.Deposits
    by_cases deposited : deposits listing.inCollection listing.checked chain = true
    · rw [if_pos deposited,deposited]
      have comes := list_deposit_comes library listing.passport chain.asset listing.now listing.signs positive reachable
      simpa [Listing.passport] using comes
    · rw [if_neg deposited,List.append_nil]
      have comes := list_comes library listing.passport chain.asset listing.now listing.signs positive reachable
      simpa [deposited,Listing.passport] using comes
  · intro same price chain listable
    have unmoved : listing.ledger = listing.checked := by rw [Listing.ledger,Listing.checked,same]
    rw [unmoved]
    exact may_list_now listable

-- The listing that the sale begins with.
def Sale.offer : Listing where
  serialHash _ := Escrow.Sale.hash 7
  inCollection _ := false
  run := Escrow.Sale.run
  opened := 10
  arrived := 10
  later := le_refl _
  form := ⟨"FV-001","480"⟩
  seller := Escrow.Sale.seller
  signs := rfl
  now := .zero

theorem offer_listable : ∃ price chain, Listable Sale.offer.serialHash Sale.offer.checked Sale.offer.form Sale.offer.seller price chain := by
  have built : Sale.offer.tx.toOption.isSome := by decide +kernel
  exact (listing_law Sale.library Sale.offer).builds.mp (exists_ok built)

end FlaconVault.Web
