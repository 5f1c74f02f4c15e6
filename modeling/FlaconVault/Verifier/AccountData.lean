import FlaconVault.Lib.Utf8
import FlaconVault.Verifier.Base58
import FlaconVault.Verifier.Borsh
namespace FlaconVault.Verifier
open Bytes Reader Reading

-- A key is shown in base58.
def keyText (key : Bytes32) : String := String.ofList (b58encode key.val)

def DEFAULT_PUBKEY : String := "11111111111111111111111111111111"

theorem keyText_exact {key other : Bytes32} : keyText key = keyText other ↔ key = other := by
  constructor
  · intro same
    have same : b58encode key.val = b58encode other.val := String.ofList_injective same
    have back := decode_encode key.val
    rw [same,decode_encode] at back
    exact Subtype.ext (Option.some.inj back).symm
  · intro same
    rw [same]

theorem keyText_default {key : Bytes32} : keyText key = DEFAULT_PUBKEY ↔ key = zero32 := by
  have default : DEFAULT_PUBKEY = keyText zero32 := by decide +kernel
  rw [default,keyText_exact]

-- A site's label is the text up to the first zero byte.
def siteLabel (label : Bytes32) : List Char := PyText.decodeUtf8 (label.val.takeWhile (· ≠ 0))

-- The accounts, whether their keys are the program's bytes or the texts the server shows.
structure ScanProofRecord (κ : Type) where
  sealKey : κ
  counter : U32
  tier : U8
  role : U8
  tamper : U8
  uv : U8
  hum : U8
  heat : U8
  heatLevels : U8
  fill : U8
  siteId : U16
  mediaHash : Bytes32
  bundleHash : Bytes32
  attester : κ
  serverKeyId : U8
  ts : I64
  bump : U8

structure PassportRecord (κ : Type) where
  serialHash : Bytes32
  bindingHash : Bytes32
  asset : κ
  issuer : κ
  grade : U8
  scanCount : U32
  sealCount : U8
  void : Bool
  createdAt : I64
  bump : U8

structure SealRecord (κ : Type) where
  passport : κ
  kind : U8
  uidHash : Bytes32
  lastCounter : U32
  dead : Bool
  attachedAt : I64
  bump : U8

structure RegistryRecord (κ label : Type) where
  authority : κ
  serverKeys : List ServerKey
  partners : List κ
  sites : List (U16 × label)

structure OrderRecord (κ buyer : Type) where
  passport : κ
  seller : κ
  buyer : buyer
  asset : κ
  price : U64
  state : U8
  listedAt : I64
  reservedAt : I64
  shippedAt : I64
  sellerScan : κ
  buyerScan : κ
  disputeAfterS : I64
  assetDeposited : Bool
  bump : U8
  vaultBump : U8

section
variable {κ shown : Type} (f : κ → shown)

def ScanProofRecord.map (a : ScanProofRecord κ) : ScanProofRecord shown :=
  ⟨f a.sealKey,a.counter,a.tier,a.role,a.tamper,a.uv,a.hum,a.heat,a.heatLevels,a.fill,a.siteId,a.mediaHash,a.bundleHash,f a.attester,
    a.serverKeyId,a.ts,a.bump⟩

def PassportRecord.map (a : PassportRecord κ) : PassportRecord shown :=
  ⟨a.serialHash,a.bindingHash,f a.asset,f a.issuer,a.grade,a.scanCount,a.sealCount,a.void,a.createdAt,a.bump⟩

def SealRecord.map (a : SealRecord κ) : SealRecord shown :=
  ⟨f a.passport,a.kind,a.uidHash,a.lastCounter,a.dead,a.attachedAt,a.bump⟩

def RegistryRecord.map {label text : Type} (g : label → text) (a : RegistryRecord κ label) : RegistryRecord shown text :=
  ⟨f a.authority,a.serverKeys,a.partners.map f,a.sites.map fun site => (site.1,g site.2)⟩

def OrderRecord.map (a : OrderRecord κ κ) : OrderRecord shown shown :=
  ⟨f a.passport,f a.seller,f a.buyer,f a.asset,a.price,a.state,a.listedAt,a.reservedAt,a.shippedAt,f a.sellerScan,f a.buyerScan,
    a.disputeAfterS,a.assetDeposited,a.bump,a.vaultBump⟩

end

-- The vectors of a registry, counted in 32 bits.
structure RegistryAccount extends RegistryRecord Bytes32 Bytes32 where
  countsKeys : serverKeys.length < 2^32
  countsPartners : partners.length < 2^32
  countsSites : sites.length < 2^32

-- The programs' accounts, field by field in the order of their declarations.
def ScanProofRecord.bytes (a : ScanProofRecord Bytes32) : List Byte :=
  [Borsh.bytes32 a.sealKey,Borsh.u32 a.counter,Borsh.u8 a.tier,Borsh.u8 a.role,Borsh.u8 a.tamper,Borsh.u8 a.uv,Borsh.u8 a.hum,
    Borsh.u8 a.heat,Borsh.u8 a.heatLevels,Borsh.u8 a.fill,Borsh.u16 a.siteId,Borsh.bytes32 a.mediaHash,Borsh.bytes32 a.bundleHash,
    Borsh.bytes32 a.attester,Borsh.u8 a.serverKeyId,Borsh.i64 a.ts,Borsh.u8 a.bump].flatten

def PassportRecord.bytes (a : PassportRecord Bytes32) : List Byte :=
  [Borsh.bytes32 a.serialHash,Borsh.bytes32 a.bindingHash,Borsh.bytes32 a.asset,Borsh.bytes32 a.issuer,Borsh.u8 a.grade,
    Borsh.u32 a.scanCount,Borsh.u8 a.sealCount,Borsh.bool a.void,Borsh.i64 a.createdAt,Borsh.u8 a.bump].flatten

def SealRecord.bytes (a : SealRecord Bytes32) : List Byte :=
  [Borsh.bytes32 a.passport,Borsh.u8 a.kind,Borsh.bytes32 a.uidHash,Borsh.u32 a.lastCounter,Borsh.bool a.dead,
    Borsh.i64 a.attachedAt,Borsh.u8 a.bump].flatten

def serverKeyBytes (k : ServerKey) : List Byte :=
  [Borsh.u8 k.keyId,Borsh.bytes32 k.pubkey,Borsh.i64 k.validFrom,Borsh.i64 k.validTo].flatten

def siteBytes (site : U16 × Bytes32) : List Byte := [Borsh.u16 site.1,Borsh.bytes32 site.2].flatten

-- Up to the sites; the bump and the padding follow.
def RegistryAccount.bytes (a : RegistryAccount) : List Byte :=
  [Borsh.bytes32 a.authority,Borsh.vec serverKeyBytes a.serverKeys,Borsh.vec Borsh.bytes32 a.partners,
    Borsh.vec siteBytes a.sites].flatten

def OrderRecord.bytes (a : OrderRecord Bytes32 Bytes32) : List Byte :=
  [Borsh.bytes32 a.passport,Borsh.bytes32 a.seller,Borsh.bytes32 a.buyer,Borsh.bytes32 a.asset,Borsh.u64 a.price,Borsh.u8 a.state,
    Borsh.i64 a.listedAt,Borsh.i64 a.reservedAt,Borsh.i64 a.shippedAt,Borsh.bytes32 a.sellerScan,Borsh.bytes32 a.buyerScan,
    Borsh.i64 a.disputeAfterS,Borsh.bool a.assetDeposited,Borsh.u8 a.bump,Borsh.u8 a.vaultBump].flatten

-- The decoders, in the order they read.
section
variable {κ : Type} (shown : Bytes32 → κ)

def scanProofRecord : Reader (ScanProofRecord κ) := do
  return ⟨← key shown,← u32,← u8,← u8,← u8,← u8,← u8,← u8,← u8,← u8,← u16,← hash32,← hash32,← key shown,← u8,← i64,← u8⟩

def passportRecord : Reader (PassportRecord κ) := do
  return ⟨← hash32,← hash32,← key shown,← key shown,← u8,← u32,← u8,← bool,← i64,← u8⟩

def sealRecord : Reader (SealRecord κ) := do
  return ⟨← key shown,← u8,← hash32,← u32,← bool,← i64,← u8⟩

def siteRecord {label : Type} (labelled : Bytes32 → label) : Reader (U16 × label) := do
  let siteId ← u16
  let label ← hash32
  return (siteId,labelled label)

def registryRecord {label : Type} (labelled : Bytes32 → label) : Reader (RegistryRecord κ label) := do
  return ⟨← key shown,← vec serverKeyFields,← vec (key shown),← vec (siteRecord labelled)⟩

def orderRecord : Reader (OrderRecord κ κ) := do
  return ⟨← key shown,← key shown,← key shown,← key shown,← u64,← u8,← i64,← i64,← i64,← key shown,← key shown,← i64,← bool,← u8,
    ← u8⟩

end

-- chain.py.
namespace Chain

def decodeScanProof (data : Option (List Byte)) : Except DecodeError (ScanProofRecord String) :=
  readAccount .scanProof (scanProofRecord keyText) data

def decodePassport (data : Option (List Byte)) : Except DecodeError (PassportRecord String) :=
  readAccount .passport (passportRecord keyText) data

def decodeSeal (data : Option (List Byte)) : Except DecodeError (SealRecord String) :=
  readAccount .sealAccount (sealRecord keyText) data

def decodeRegistry (data : Option (List Byte)) : Except DecodeError (RegistryRecord String (List Char)) :=
  readAccount .registry (registryRecord keyText siteLabel) data

def ORDER_STATES : List String :=
  ["LISTED","RESERVED","PRESHIP_SCANNED","SHIPPED","RECEIPT_SCANNED","RELEASED","MISMATCH","DISPUTE","CANCELLED"]

structure OrderDict where
  order : OrderRecord String (Option String)
  stateName : String

-- `buyer` is None until reserved.
def orderDict (out : OrderRecord String String) : OrderDict where
  order := {out with buyer := if out.buyer = DEFAULT_PUBKEY then none else some out.buyer}
  stateName := ORDER_STATES.getD out.state.val (String.ofList ("UNKNOWN_".toList ++ (Nat.repr out.state.val).toList))

def decodeOrder (data : Option (List Byte)) : Except DecodeError OrderDict :=
  (readAccount .order (orderRecord keyText) data).map orderDict

end Chain

-- txverify.py.
namespace Txverify

def ORDER_LEN : ℕ := 244

def decodeOrder (data : Option (List Byte)) : Except DecodeError (Option (OrderRecord String String)) :=
  match data with
  | none => .ok none
  | some data =>
    if data = [] ∨ data.length < ORDER_LEN ∨ data.take 8 ≠ accountDisc .order then .ok none
    else (Reader.run (orderRecord keyText) (data.drop 8)).map some

def decodeScanProofChecked (data : Option (List Byte)) : Option (ScanProofRecord String) :=
  match data with
  | none => none
  | some data =>
    if data = [] ∨ data.take 8 ≠ accountDisc .scanProof then none else (Chain.decodeScanProof (some data)).toOption

end Txverify

instance serverKey_sized : Sized serverKeyFields 49 := by
  unfold serverKeyFields
  infer_instance

instance serverKey_exact : Exact serverKeyFields := by
  unfold serverKeyFields
  infer_instance

instance site_sized {label : Type} (labelled : Bytes32 → label) : Sized (siteRecord labelled) 34 := by
  unfold siteRecord
  infer_instance

instance site_exact {label : Type} (labelled : Bytes32 → label) : Exact (siteRecord labelled) := by
  unfold siteRecord
  infer_instance

section
variable {κ : Type} (shown : Bytes32 → κ)

instance scanProof_sized : Sized (scanProofRecord shown) 152 := by
  unfold scanProofRecord
  infer_instance

instance passport_sized : Sized (passportRecord shown) 144 := by
  unfold passportRecord
  infer_instance

instance seal_sized : Sized (sealRecord shown) 79 := by
  unfold sealRecord
  infer_instance

instance order_sized : Sized (orderRecord shown) 236 := by
  unfold orderRecord
  infer_instance

instance registry_exact {label : Type} (labelled : Bytes32 → label) : Exact (registryRecord shown labelled) := by
  unfold registryRecord
  infer_instance

theorem run_map {α β : Type} (reader : Reader α) (f : α → β) (data : List Byte) :
    Reader.run (do return f (← reader)) data = (Reader.run reader data).map f := by
  have step : (do return f (← reader) : Reader β) ⟨0,data⟩ = reader ⟨0,data⟩ >>= fun read => .ok (f read.1,read.2) := rfl
  unfold Reader.run
  rw [step]
  cases reader ⟨0,data⟩ <;> rfl

-- The fields behind their discriminator.
def account {α : Type} (name : AccountName) (fields : Reader α) : Reader α := do
  let disc ← take 8
  if disc = accountDisc name then fields else throw (.foreignDiscriminator disc)

theorem readAccount_run {α : Type} (name : AccountName) (fields : Reader α) (data : List Byte) :
    readAccount name fields (some data) = Reader.run (account name fields) data := rfl

theorem readAccount_map {α β : Type} (name : AccountName) (fields : Reader α) (f : α → β) (data : Option (List Byte)) :
    readAccount name (do return f (← fields)) data = (readAccount name fields data).map f := by
  cases data with
  | none => rfl
  | some data =>
    rw [readAccount_run,readAccount_run,← run_map]
    unfold account
    rw [bind_assoc]
    congr 2
    funext disc
    split
    · rfl
    · rfl

-- What the rest of the server takes from these accounts.
theorem scanProof_view (settings : Settings) (data : Option (List Byte)) : decodeScanProof settings data =
    (readAccount .scanProof (scanProofRecord settings.keyOf) data).map fun a => ⟨a.sealKey,a.counter,a.tier,a.role,a.tamper,a.uv,
      a.hum,a.heat,a.heatLevels,a.fill,a.siteId,a.mediaHash,a.bundleHash,a.attester,a.serverKeyId,a.ts⟩ := by
  rw [← readAccount_map]
  unfold decodeScanProof
  congr 1
  simp only [scanProofFields,scanProofRecord,pubkey,key,bind_assoc,pure_bind]

theorem order_view (settings : Settings) (data : Option (List Byte)) : decodeOrder settings data =
    (readAccount .order (orderRecord id) data).map fun a => ⟨settings.keyOf a.passport,settings.keyOf a.seller,
      if a.buyer = zero32 then none else some (settings.keyOf a.buyer),settings.keyOf a.asset,a.price,a.state,a.listedAt,a.reservedAt,
      a.shippedAt,settings.keyOf a.sellerScan,settings.keyOf a.buyerScan,a.disputeAfterS,a.assetDeposited⟩ := by
  rw [← readAccount_map]
  unfold decodeOrder
  congr 1
  simp only [orderFields,orderRecord,pubkey,key,bind_assoc,pure_bind,id]

theorem passport_view (settings : Settings) (data : Option (List Byte)) : decodePassport settings data =
    (readAccount .passport (passportRecord settings.keyOf) data).map fun a => ⟨a.serialHash,a.bindingHash,a.asset,a.issuer,a.grade,
      a.scanCount,a.sealCount,a.void,a.createdAt⟩ := by
  rw [← readAccount_map]
  unfold decodePassport
  congr 1
  simp only [passportRecord,pubkey,key,bind_assoc,pure_bind]

theorem seal_view (settings : Settings) (data : Option (List Byte)) : decodeSeal settings data =
    (readAccount .sealAccount (sealRecord settings.keyOf) data).map fun a => ⟨a.passport,a.kind,a.uidHash,a.lastCounter,a.dead,
      a.attachedAt⟩ := by
  rw [← readAccount_map]
  unfold decodeSeal
  congr 1
  simp only [sealRecord,pubkey,key,bind_assoc,pure_bind]

theorem items_map {α β : Type} (element : Reader α) (f : α → β) (count : ℕ) :
    items (do return f (← element)) count = do return (← items element count).map f := by
  induction count with
  | zero => rfl
  | succ count ih =>
    unfold items
    rw [ih]
    simp only [bind_assoc,pure_bind,List.map_cons]

theorem registry_view (settings : Settings) (data : Option (List Byte)) : decodeRegistry settings data =
    (readAccount .registry (registryRecord settings.keyOf id) data).map fun a => ⟨a.authority,a.serverKeys,a.partners,
      a.sites.map fun site => ⟨site.1,site.2⟩⟩ := by
  have sites : siteFields = do
      let site ← siteRecord id
      return ⟨site.1,site.2⟩ := by simp only [siteFields,siteRecord,bind_assoc,pure_bind,id]
  rw [← readAccount_map]
  unfold decodeRegistry
  congr 1
  simp only [registryRecord,pubkey,key,vec,sites,items_map,bind_assoc,pure_bind]

theorem scanProofRecord_reads (a : ScanProofRecord Bytes32) : Reads (scanProofRecord shown) a.bytes (a.map shown) := by
  apply (key_reads shown _).bind
  apply (u32_reads _).bind
  apply (u8_reads _).bind
  apply (u8_reads _).bind
  apply (u8_reads _).bind
  apply (u8_reads _).bind
  apply (u8_reads _).bind
  apply (u8_reads _).bind
  apply (u8_reads _).bind
  apply (u8_reads _).bind
  apply (u16_reads _).bind
  apply (hash32_reads _).bind
  apply (hash32_reads _).bind
  apply (key_reads shown _).bind
  apply (u8_reads _).bind
  apply (i64_reads _).bind
  apply (u8_reads _).bind
  exact .pure _ _

theorem passportRecord_reads (a : PassportRecord Bytes32) : Reads (passportRecord shown) a.bytes (a.map shown) := by
  apply (hash32_reads _).bind
  apply (hash32_reads _).bind
  apply (key_reads shown _).bind
  apply (key_reads shown _).bind
  apply (u8_reads _).bind
  apply (u32_reads _).bind
  apply (u8_reads _).bind
  apply (bool_reads _).bind
  apply (i64_reads _).bind
  apply (u8_reads _).bind
  exact .pure _ _

theorem sealRecord_reads (a : SealRecord Bytes32) : Reads (sealRecord shown) a.bytes (a.map shown) := by
  apply (key_reads shown _).bind
  apply (u8_reads _).bind
  apply (hash32_reads _).bind
  apply (u32_reads _).bind
  apply (bool_reads _).bind
  apply (i64_reads _).bind
  apply (u8_reads _).bind
  exact .pure _ _

theorem orderRecord_reads (a : OrderRecord Bytes32 Bytes32) : Reads (orderRecord shown) a.bytes (a.map shown) := by
  apply (key_reads shown _).bind
  apply (key_reads shown _).bind
  apply (key_reads shown _).bind
  apply (key_reads shown _).bind
  apply (u64_reads _).bind
  apply (u8_reads _).bind
  apply (i64_reads _).bind
  apply (i64_reads _).bind
  apply (i64_reads _).bind
  apply (key_reads shown _).bind
  apply (key_reads shown _).bind
  apply (i64_reads _).bind
  apply (bool_reads _).bind
  apply (u8_reads _).bind
  apply (u8_reads _).bind
  exact .pure _ _

theorem serverKeyFields_reads (k : ServerKey) : Reads serverKeyFields (serverKeyBytes k) k := by
  apply (u8_reads _).bind
  apply (hash32_reads _).bind
  apply (i64_reads _).bind
  apply (i64_reads _).bind
  exact .pure _ _

theorem siteRecord_reads {label : Type} (labelled : Bytes32 → label) (site : U16 × Bytes32) :
    Reads (siteRecord labelled) (siteBytes site) (site.1,labelled site.2) := by
  apply (u16_reads _).bind
  apply (hash32_reads _).bind
  exact .pure _ _

theorem registryRecord_reads {label : Type} (labelled : Bytes32 → label) (a : RegistryAccount) :
    Reads (registryRecord shown labelled) a.bytes (a.map shown labelled) := by
  have keys := vec_reads serverKeyFields_reads a.countsKeys
  rw [List.map_id'] at keys
  apply (key_reads shown _).bind
  apply keys.bind
  apply (vec_reads (key_reads shown) a.countsPartners).bind
  apply (vec_reads (siteRecord_reads labelled) a.countsSites).bind
  exact .pure _ _

end

-- Behind the discriminator.
theorem account_reads {α : Type} {name : AccountName} {fields : Reader α} {bytes : List Byte} {value : α}
    (reads : Reads fields bytes value) : Reads (account name fields) (accountDisc name ++ bytes) value := by
  have disc : Reads (take 8) (accountDisc name) (accountDisc name) := by
    have whole := take_reads (accountDisc name)
    cases name <;> exact whole
  apply disc.bind
  rw [if_pos rfl]
  exact reads

instance account_exact {α : Type} (name : AccountName) (fields : Reader α) [Exact fields] : Exact (account name fields) := by
  unfold account
  infer_instance

theorem account_foreign {α : Type} {name : AccountName} {fields : Reader α} {data : List Byte} (other : data.take 8 ≠ accountDisc name) :
    ∃ error, readAccount name fields (some data) = .error error := by
  apply run_refused
  by_cases short : data.length < 8
  · exact ⟨_,bind_refused (take_short short)⟩
  · have read : take 8 ⟨0,data⟩ = .ok (data.take 8,⟨8,data.drop 8⟩) := if_pos (Nat.le_of_not_lt short)
    refine ⟨.foreignDiscriminator (data.take 8),(bind_ran read).trans ?_⟩
    rw [if_neg other]
    rfl

theorem account_short {α : Type} {name : AccountName} {fields : Reader α} {size : ℕ} [sized : Sized fields size] {data : List Byte}
    (short : data.length < 8+size) : ∃ error, readAccount name fields (some data) = .error error := by
  by_cases other : data.take 8 = accountDisc name
  · apply run_refused
    have long : 8 ≤ data.length := by
      have length := congrArg List.length other
      rw [List.length_take] at length
      have eight : (accountDisc name).length = 8 := by cases name <;> rfl
      omega
    have read : take 8 ⟨0,data⟩ = .ok (data.take 8,⟨8,data.drop 8⟩) := if_pos long
    obtain ⟨error,refused⟩ := sized.short (data.drop 8) (by rw [List.length_drop]; omega) 8
    refine ⟨error,(bind_ran read).trans ?_⟩
    rw [if_pos other]
    exact refused
  · exact account_foreign other

end FlaconVault.Verifier
