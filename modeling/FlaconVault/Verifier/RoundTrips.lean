import FlaconVault.Verifier.AccountData
import FlaconVault.Verifier.Transactions
namespace FlaconVault.Verifier
open Bytes Reader Reading

-- The arguments of an instruction as the programs declare them.
inductive RustArgs where
  | mintPassport (serialHash bindingHash asset : Bytes32)
  | attachSeal (uidHash : Bytes32) (kind : U8)
  | recordScan (args : Flacon.RecordScanArgs)
  | list (price : U64)
  | reserve (expectedPrice : U64)
  | resolve (toSeller : Bool)

namespace RustArgs

def name : RustArgs → IxName
  | .mintPassport .. => .mintPassport
  | .attachSeal .. => .attachSeal
  | .recordScan .. => .recordScan
  | .list .. => .list
  | .reserve .. => .reserve
  | .resolve .. => .resolve

def bytes : RustArgs → List Byte
  | .mintPassport serialHash bindingHash asset => [Borsh.bytes32 serialHash,Borsh.bytes32 bindingHash,Borsh.bytes32 asset].flatten
  | .attachSeal uidHash kind => [Borsh.bytes32 uidHash,Borsh.u8 kind].flatten
  | .recordScan a =>
    [Borsh.u32 a.counter,Borsh.u8 a.tier,Borsh.u8 a.role,Borsh.u8 a.tamper,Borsh.u8 a.uv,Borsh.u8 a.hum,Borsh.u8 a.heat,
      Borsh.u8 a.heatLevels,Borsh.u8 a.fill,Borsh.u16 a.siteId,Borsh.bytes32 a.mediaHash,Borsh.bytes32 a.bundleHash,
      Borsh.bytes32 a.nonce,Borsh.i64 a.ts,Borsh.u8 a.serverKeyId].flatten
  | .list price => Borsh.u64 price
  | .reserve expectedPrice => Borsh.u64 expectedPrice
  | .resolve toSeller => Borsh.bool toSeller

def shown (keyOf : Bytes32 → Pubkey) : RustArgs → IxArgs
  | .mintPassport serialHash bindingHash asset => .mintPassport serialHash bindingHash (keyOf asset)
  | .attachSeal uidHash kind => .attachSeal uidHash kind
  | .recordScan args => .recordScan args
  | .list price => .list price
  | .reserve expectedPrice => .reserve expectedPrice
  | .resolve toSeller => .resolve toSeller

end RustArgs

-- The events of the escrow program.
inductive EventName where
  | orderListed | orderReserved | preShipScanRecorded | orderShipped | receiptScanRecorded | orderReleased | orderDisputed
  | orderResolved

def eventDisc : EventName → List Byte
  | .orderListed => [235,55,154,70,133,71,114,30]
  | .orderReserved => [31,26,190,19,176,19,69,154]
  | .preShipScanRecorded => [228,148,141,200,112,5,58,250]
  | .orderShipped => [200,225,83,123,179,86,221,24]
  | .receiptScanRecorded => [192,0,126,169,221,228,135,157]
  | .orderReleased => [171,232,93,217,184,222,234,29]
  | .orderDisputed => [186,104,120,36,95,130,173,128]
  | .orderResolved => [24,66,224,205,6,30,63,51]

inductive RustEvent where
  | orderListed (order passport seller asset : Bytes32) (price : U64) (disputeAfterS ts : I64)
  | orderReserved (order buyer : Bytes32) (price : U64) (vault : Bytes32) (ts : I64)
  | preShipScanRecorded (order scanProof : Bytes32) (counter : U32) (ts : I64)
  | orderShipped (order : Bytes32) (ts : I64)
  | receiptScanRecorded (order scanProof : Bytes32) (counter : U32) (matched : Bool)
      (sellerFill buyerFill sellerHeat buyerHeat sellerHum buyerHum : U8) (ts : I64)
  | orderReleased (order seller buyer : Bytes32) (amount : U64) (assetTransferred : Bool) (ts : I64)
  | orderDisputed (order caller : Bytes32) (reason previousState : U8) (refunded : U64) (assetReturned : Bool) (ts : I64)
  | orderResolved (order admin : Bytes32) (toSeller : Bool) (amount : U64) (assetTransferred : Bool) (ts : I64)

namespace RustEvent

def name : RustEvent → EventName
  | .orderListed .. => .orderListed
  | .orderReserved .. => .orderReserved
  | .preShipScanRecorded .. => .preShipScanRecorded
  | .orderShipped .. => .orderShipped
  | .receiptScanRecorded .. => .receiptScanRecorded
  | .orderReleased .. => .orderReleased
  | .orderDisputed .. => .orderDisputed
  | .orderResolved .. => .orderResolved

def bytes : RustEvent → List Byte
  | .orderListed order passport seller asset price disputeAfterS ts =>
    [Borsh.bytes32 order,Borsh.bytes32 passport,Borsh.bytes32 seller,Borsh.bytes32 asset,Borsh.u64 price,Borsh.i64 disputeAfterS,
      Borsh.i64 ts].flatten
  | .orderReserved order buyer price vault ts =>
    [Borsh.bytes32 order,Borsh.bytes32 buyer,Borsh.u64 price,Borsh.bytes32 vault,Borsh.i64 ts].flatten
  | .preShipScanRecorded order scanProof counter ts =>
    [Borsh.bytes32 order,Borsh.bytes32 scanProof,Borsh.u32 counter,Borsh.i64 ts].flatten
  | .orderShipped order ts => [Borsh.bytes32 order,Borsh.i64 ts].flatten
  | .receiptScanRecorded order scanProof counter matched sellerFill buyerFill sellerHeat buyerHeat sellerHum buyerHum ts =>
    [Borsh.bytes32 order,Borsh.bytes32 scanProof,Borsh.u32 counter,Borsh.bool matched,Borsh.u8 sellerFill,Borsh.u8 buyerFill,
      Borsh.u8 sellerHeat,Borsh.u8 buyerHeat,Borsh.u8 sellerHum,Borsh.u8 buyerHum,Borsh.i64 ts].flatten
  | .orderReleased order seller buyer amount assetTransferred ts =>
    [Borsh.bytes32 order,Borsh.bytes32 seller,Borsh.bytes32 buyer,Borsh.u64 amount,Borsh.bool assetTransferred,Borsh.i64 ts].flatten
  | .orderDisputed order caller reason previousState refunded assetReturned ts =>
    [Borsh.bytes32 order,Borsh.bytes32 caller,Borsh.u8 reason,Borsh.u8 previousState,Borsh.u64 refunded,Borsh.bool assetReturned,
      Borsh.i64 ts].flatten
  | .orderResolved order admin toSeller amount assetTransferred ts =>
    [Borsh.bytes32 order,Borsh.bytes32 admin,Borsh.bool toSeller,Borsh.u64 amount,Borsh.bool assetTransferred,Borsh.i64 ts].flatten

def shown (keyOf : Bytes32 → Pubkey) : RustEvent → ChainEvent
  | .orderListed order passport seller asset price disputeAfterS ts =>
    .orderListed (keyOf order) (keyOf passport) (keyOf seller) (keyOf asset) price disputeAfterS ts
  | .orderReserved order buyer price vault ts => .orderReserved (keyOf order) (keyOf buyer) price (keyOf vault) ts
  | .preShipScanRecorded order scanProof counter ts => .preShipScanRecorded (keyOf order) (keyOf scanProof) counter ts
  | .orderShipped order ts => .orderShipped (keyOf order) ts
  | .receiptScanRecorded order scanProof counter matched sellerFill buyerFill sellerHeat buyerHeat sellerHum buyerHum ts =>
    .receiptScanRecorded (keyOf order) (keyOf scanProof) counter matched sellerFill buyerFill sellerHeat buyerHeat sellerHum buyerHum ts
  | .orderReleased order seller buyer amount assetTransferred ts =>
    .orderReleased (keyOf order) (keyOf seller) (keyOf buyer) amount assetTransferred ts
  | .orderDisputed order caller reason previousState refunded assetReturned ts =>
    .orderDisputed (keyOf order) (keyOf caller) reason previousState refunded assetReturned ts
  | .orderResolved order admin toSeller amount assetTransferred ts =>
    .orderResolved (keyOf order) (keyOf admin) toSeller amount assetTransferred ts

end RustEvent

-- A layout: the reader of these bytes gives the value, and takes as many bytes whatever they are.
structure LaysOut {α : Type} (reader : Reader α) (bytes : List Byte) (value : α) : Prop where
  reads : Reads reader bytes value
  sized : Sized reader bytes.length

theorem LaysOut.of_sized {α : Type} {reader : Reader α} {size : ℕ} {bytes : List Byte} {value : α} [sized : Sized reader size]
    (reads : Reads reader bytes value) : LaysOut reader bytes value := by
  refine ⟨reads,?_⟩
  rw [sized_length reads]
  exact sized

instance recordScanArgs_sized : Sized recordScanArgs 119 := by
  unfold recordScanArgs
  infer_instance

theorem recordScanArgs_reads (a : Flacon.RecordScanArgs) : Reads recordScanArgs (RustArgs.recordScan a).bytes a := by
  apply (u32_reads _).bind
  apply (u8_reads _).bind
  apply (u8_reads _).bind
  apply (u8_reads _).bind
  apply (u8_reads _).bind
  apply (u8_reads _).bind
  apply (u8_reads _).bind
  apply (u8_reads _).bind
  apply (u8_reads _).bind
  apply (u16_reads _).bind
  apply (hash32_reads _).bind
  apply (hash32_reads _).bind
  apply (hash32_reads _).bind
  apply (i64_reads _).bind
  apply (u8_reads _).bind
  exact .pure _ _

instance pubkey_sized (settings : Settings) : Sized (pubkey settings) 32 := key_sized settings.keyOf

theorem pubkey_reads (settings : Settings) (value : Bytes32) :
    Reads (pubkey settings) (Borsh.bytes32 value) (settings.keyOf value) := key_reads settings.keyOf value

theorem args_layout (settings : Settings) (args : RustArgs) :
    ∃ reader, ixArgs settings args.name = some reader ∧ LaysOut reader args.bytes (args.shown settings.keyOf) := by
  cases args with
  | mintPassport serialHash bindingHash asset =>
    refine ⟨_,rfl,.of_sized ?_⟩
    apply (hash32_reads _).bind
    apply (hash32_reads _).bind
    apply (pubkey_reads settings _).bind
    exact .pure _ _
  | attachSeal uidHash kind =>
    refine ⟨_,rfl,.of_sized ?_⟩
    apply (hash32_reads _).bind
    apply (u8_reads _).bind
    exact .pure _ _
  | recordScan a => exact ⟨_,rfl,.of_sized ((recordScanArgs_reads a).map _)⟩
  | list price => exact ⟨_,rfl,.of_sized ((u64_reads price).map _)⟩
  | reserve expectedPrice => exact ⟨_,rfl,.of_sized ((u64_reads expectedPrice).map _)⟩
  | resolve toSeller => exact ⟨_,rfl,.of_sized ((bool_reads toSeller).map _)⟩

theorem event_layout (settings : Settings) (event : RustEvent) :
    ∃ reader, eventReader settings (eventDisc event.name) = some reader ∧ LaysOut reader event.bytes (event.shown settings.keyOf) := by
  have key := pubkey_reads settings
  cases event with
  | orderListed order passport seller asset price disputeAfterS ts =>
    refine ⟨_,rfl,.of_sized ?_⟩
    apply (key _).bind
    apply (key _).bind
    apply (key _).bind
    apply (key _).bind
    apply (u64_reads _).bind
    apply (i64_reads _).bind
    apply (i64_reads _).bind
    exact .pure _ _
  | orderReserved order buyer price vault ts =>
    refine ⟨_,rfl,.of_sized ?_⟩
    apply (key _).bind
    apply (key _).bind
    apply (u64_reads _).bind
    apply (key _).bind
    apply (i64_reads _).bind
    exact .pure _ _
  | preShipScanRecorded order scanProof counter ts =>
    refine ⟨_,rfl,.of_sized ?_⟩
    apply (key _).bind
    apply (key _).bind
    apply (u32_reads _).bind
    apply (i64_reads _).bind
    exact .pure _ _
  | orderShipped order ts =>
    refine ⟨_,rfl,.of_sized ?_⟩
    apply (key _).bind
    apply (i64_reads _).bind
    exact .pure _ _
  | receiptScanRecorded order scanProof counter matched sellerFill buyerFill sellerHeat buyerHeat sellerHum buyerHum ts =>
    refine ⟨_,rfl,.of_sized ?_⟩
    apply (key _).bind
    apply (key _).bind
    apply (u32_reads _).bind
    apply (bool_reads _).bind
    apply (u8_reads _).bind
    apply (u8_reads _).bind
    apply (u8_reads _).bind
    apply (u8_reads _).bind
    apply (u8_reads _).bind
    apply (u8_reads _).bind
    apply (i64_reads _).bind
    exact .pure _ _
  | orderReleased order seller buyer amount assetTransferred ts =>
    refine ⟨_,rfl,.of_sized ?_⟩
    apply (key _).bind
    apply (key _).bind
    apply (key _).bind
    apply (u64_reads _).bind
    apply (bool_reads _).bind
    apply (i64_reads _).bind
    exact .pure _ _
  | orderDisputed order caller reason previousState refunded assetReturned ts =>
    refine ⟨_,rfl,.of_sized ?_⟩
    apply (key _).bind
    apply (key _).bind
    apply (u8_reads _).bind
    apply (u8_reads _).bind
    apply (u64_reads _).bind
    apply (bool_reads _).bind
    apply (i64_reads _).bind
    exact .pure _ _
  | orderResolved order admin toSeller amount assetTransferred ts =>
    refine ⟨_,rfl,.of_sized ?_⟩
    apply (key _).bind
    apply (key _).bind
    apply (bool_reads _).bind
    apply (u64_reads _).bind
    apply (bool_reads _).bind
    apply (i64_reads _).bind
    exact .pure _ _

theorem eventReader_foreign (settings : Settings) {disc : List Byte} (foreign : ∀ name, disc ≠ eventDisc name) :
    eventReader settings disc = none := by
  unfold eventReader
  refine (if_neg (foreign .orderListed)).trans ?_
  refine (if_neg (foreign .orderReserved)).trans ?_
  refine (if_neg (foreign .preShipScanRecorded)).trans ?_
  refine (if_neg (foreign .orderShipped)).trans ?_
  refine (if_neg (foreign .receiptScanRecorded)).trans ?_
  refine (if_neg (foreign .orderReleased)).trans ?_
  refine (if_neg (foreign .orderDisputed)).trans ?_
  exact if_neg (foreign .orderResolved)

-- A decoder undoes a layout: it gives every value back, whatever follows, and refuses every text with another
-- discriminator and every text shorter than the layout.
structure Inverts {α β : Type} (decode : List Byte → Option α) (disc : List Byte) (bytes : β → List Byte) (shown : β → α) : Prop where
  decodes : ∀ value tail, decode (disc ++ bytes value ++ tail) = some (shown value)
  foreign : ∀ data, data.take 8 ≠ disc → decode data = none
  short : ∀ data value, data.length < (disc ++ bytes value).length → decode data = none

theorem toOption_refused {ε α : Type} {result : Except ε α} (refused : ∃ error, result = .error error) : result.toOption = none := by
  obtain ⟨error,rfl⟩ := refused
  rfl

theorem accountDisc_length (name : AccountName) : (accountDisc name).length = 8 := by cases name <;> rfl

theorem account_inverts {α β : Type} (name : AccountName) {fields : Reader α} {size : ℕ} [sized : Sized fields size]
    {bytes : β → List Byte} {shown : β → α} (reads : ∀ value, Reads fields (bytes value) (shown value)) :
    Inverts (fun data => (readAccount name fields (some data)).toOption) (accountDisc name) bytes shown where
  decodes value tail := by
    rw [readAccount_run,run_reads (account_reads (reads value)) tail]
    rfl
  foreign data other := toOption_refused (account_foreign other)
  short data value short := by
    apply toOption_refused
    rw [List.length_append,accountDisc_length,sized_length (reads value)] at short
    exact account_short short

-- The registry's layout has no fixed length: a text is refused when it is cut anywhere before its last site, and when a
-- vector announces more than the text holds, after no more rounds than the text has bytes.
structure RegistryInverts : Prop where
  decodes : ∀ (a : RegistryAccount) tail, Chain.decodeRegistry (some (accountDisc .registry ++ a.bytes ++ tail)) =
    .ok (a.map keyText siteLabel)
  labels : ∀ (label : Bytes32) text, label.val.takeWhile (· ≠ 0) = PyText.encodeUtf8 text → siteLabel label = text
  foreign : ∀ data, data.take 8 ≠ accountDisc .registry → (Chain.decodeRegistry (some data)).toOption = none
  cut : ∀ data registry, Chain.decodeRegistry (some data) = .ok registry →
    ∃ used, used ≤ data.length ∧ (∀ k, k < used → (Chain.decodeRegistry (some (data.take k))).toOption = none) ∧
      ∀ tail, Chain.decodeRegistry (some (data.take used ++ tail)) = .ok registry
  cutAccount : ∀ (a : RegistryAccount) k, k < (accountDisc .registry ++ a.bytes).length →
    (Chain.decodeRegistry (some ((accountDisc .registry ++ a.bytes).take k))).toOption = none
  keys : ∀ (authority : Bytes32) (count : U32) rest, rest.length < count.val*49 →
    (Chain.decodeRegistry (some (accountDisc .registry ++ (Borsh.bytes32 authority ++ (Borsh.u32 count ++ rest))))).toOption = none
  partners : ∀ (authority : Bytes32) (serverKeys : List ServerKey) (count : U32) rest, serverKeys.length < 2^32 →
    rest.length < count.val*32 →
    (Chain.decodeRegistry (some (accountDisc .registry ++ (Borsh.bytes32 authority ++ (Borsh.vec serverKeyBytes serverKeys ++
      (Borsh.u32 count ++ rest)))))).toOption = none
  sites : ∀ (authority : Bytes32) (serverKeys : List ServerKey) (partners : List Bytes32) (count : U32) rest,
    serverKeys.length < 2^32 → partners.length < 2^32 → rest.length < count.val*34 →
    (Chain.decodeRegistry (some (accountDisc .registry ++ (Borsh.bytes32 authority ++ (Borsh.vec serverKeyBytes serverKeys ++
      (Borsh.vec Borsh.bytes32 partners ++ (Borsh.u32 count ++ rest))))))).toOption = none
  rounds : ∀ count (cursor : Cursor), cursor.rest.length < count →
    items serverKeyFields count cursor = items serverKeyFields (cursor.rest.length+1) cursor ∧
    items (key keyText) count cursor = items (key keyText) (cursor.rest.length+1) cursor ∧
    items (siteRecord siteLabel) count cursor = items (siteRecord siteLabel) (cursor.rest.length+1) cursor

-- A refusal behind what is spelled refuses the whole.
theorem refused_behind {α β : Type} {reader : Reader α} {rest : α → Reader β} {bytes tail : List Byte} {value : α}
    (reads : Reads reader bytes value) (refused : ∀ offset, ∃ error, rest value ⟨offset,tail⟩ = .error error) (offset : ℕ) :
    ∃ error, (reader >>= rest) ⟨offset,bytes ++ tail⟩ = .error error := by
  obtain ⟨later,read⟩ := reads ⟨offset,[]⟩
  obtain ⟨error,refused⟩ := refused later.offset
  exact ⟨error,(bind_ran (read tail)).trans refused⟩

theorem refused_first {α β : Type} {reader : Reader α} {rest : α → Reader β} {tail : List Byte}
    (refused : ∀ offset, ∃ error, reader ⟨offset,tail⟩ = .error error) (offset : ℕ) :
    ∃ error, (reader >>= rest) ⟨offset,tail⟩ = .error error := by
  obtain ⟨error,refused⟩ := refused offset
  exact ⟨error,bind_refused refused⟩

theorem vec_short {α : Type} {element : Reader α} {size : ℕ} [Sized element size] {count : U32} {rest : List Byte}
    (short : rest.length < count.val*size) (offset : ℕ) : ∃ error, vec element ⟨offset,Borsh.u32 count ++ rest⟩ = .error error := by
  apply refused_behind (u32_reads count)
  intro later
  exact items_short count.val ⟨later,rest⟩ short

theorem registry_refused {tail : List Byte}
    (refused : ∀ offset, ∃ error, registryRecord keyText siteLabel ⟨offset,tail⟩ = .error error) :
    (Chain.decodeRegistry (some (accountDisc .registry ++ tail))).toOption = none := by
  apply toOption_refused
  apply run_refused
  have disc : Reads (take 8) (accountDisc .registry) (accountDisc .registry) := take_reads (accountDisc .registry)
  apply refused_behind disc
  intro offset
  rw [if_pos rfl]
  exact refused offset

theorem registry_inverts : RegistryInverts where
  decodes a tail := by
    unfold Chain.decodeRegistry
    rw [readAccount_run,run_reads (account_reads (registryRecord_reads keyText siteLabel a)) tail]
  labels label text same := by
    unfold siteLabel
    rw [same]
    exact PyText.decodeUtf8_encode text
  foreign data other := toOption_refused (account_foreign other)
  cut data registry accepted := by
    obtain ⟨used,within,refused,same⟩ := run_needs accepted
    exact ⟨used,within,fun k below => toOption_refused (refused k below),same⟩
  cutAccount a k below := toOption_refused (run_cut (account_reads (registryRecord_reads keyText siteLabel a)) below)
  keys authority count rest short := by
    apply registry_refused
    intro offset
    apply refused_behind (key_reads keyText authority)
    apply refused_first
    exact vec_short short
  partners authority serverKeys count rest counted short := by
    have keys := vec_reads serverKeyFields_reads counted
    apply registry_refused
    intro offset
    apply refused_behind (key_reads keyText authority)
    apply refused_behind keys
    apply refused_first
    exact vec_short short
  sites authority serverKeys partners count rest counted counted' short := by
    have keys := vec_reads serverKeyFields_reads counted
    apply registry_refused
    intro offset
    apply refused_behind (key_reads keyText authority)
    apply refused_behind keys
    apply refused_behind (vec_reads (key_reads keyText) counted')
    apply refused_first
    exact vec_short short
  rounds count cursor many := by
    refine ⟨?_,?_,?_⟩
    · exact items_stop (by decide) count cursor many
    · exact items_stop (by decide) count cursor many
    · exact items_stop (by decide) count cursor many

-- The Order accounts of the two files.
theorem orders_agree (data : Option (List Byte)) :
    (∃ order, Txverify.decodeOrder data = .ok (some order) ∧ Chain.decodeOrder data = .ok (Chain.orderDict order)) ∨
      Txverify.decodeOrder data = .ok none ∧ ∃ error, Chain.decodeOrder data = .error error := by
  cases data with
  | none => exact .inr ⟨rfl,_,rfl⟩
  | some data =>
    unfold Txverify.decodeOrder
    by_cases rejected : data = [] ∨ data.length < Txverify.ORDER_LEN ∨ data.take 8 ≠ accountDisc .order
    · refine .inr ⟨if_pos rejected,?_⟩
      have refused : ∃ error, readAccount .order (orderRecord keyText) (some data) = .error error := by
        rcases rejected with rfl | short | other
        · exact account_short (by decide)
        · exact account_short short
        · exact account_foreign other
      obtain ⟨error,refused⟩ := refused
      refine ⟨error,?_⟩
      unfold Chain.decodeOrder
      rw [refused]
      rfl
    · refine .inl ?_
      have kept := rejected
      push Not at kept
      obtain ⟨present,long,disc⟩ := kept
      have long : 244 ≤ data.length := long
      obtain ⟨order,read⟩ := (order_sized keyText).enough (data.drop 8) (by rw [List.length_drop]; omega)
      refine ⟨order,?_,?_⟩
      · have ran : Reader.run (orderRecord keyText) (data.drop 8) = .ok order := run_ran.mpr ⟨_,read 0⟩
        refine (if_neg rejected).trans ?_
        rw [ran]
        rfl
      · have first : take 8 ⟨0,data⟩ = .ok (data.take 8,⟨8,data.drop 8⟩) := if_pos (by omega : 8 ≤ data.length)
        have ran : Reader.run (account .order (orderRecord keyText)) data = .ok order := by
          refine run_ran.mpr ⟨⟨8+236,(data.drop 8).drop 236⟩,(bind_ran first).trans ?_⟩
          rw [if_pos disc]
          exact read 8
        unfold Chain.decodeOrder
        rw [readAccount_run,ran]
        rfl

theorem scanProof_checked (data : List Byte) :
    Txverify.decodeScanProofChecked (some data) = (Chain.decodeScanProof (some data)).toOption := by
  by_cases rejected : data = [] ∨ data.take 8 ≠ accountDisc .scanProof
  · refine (if_pos rejected).trans (toOption_refused ?_).symm
    rcases rejected with rfl | other
    · exact account_foreign (by decide)
    · exact account_foreign other
  · exact if_neg rejected

-- The arguments of an instruction, which is found by its discriminator.
structure ArgsInvert (settings : Settings) : Prop where
  decodes : ∀ (args : RustArgs) disc tail, disc.length = 8 →
    decodeIxArgs settings args.name (disc ++ args.bytes ++ tail) = some (args.shown settings.keyOf)
  short : ∀ (args : RustArgs) data, data.length < 8+args.bytes.length → decodeIxArgs settings args.name data = none
  absent : ∀ name data, (∀ args : RustArgs, args.name ≠ name) → decodeIxArgs settings name data = none
  foreign : ∀ (exp : Expectation) (ix : Instruction) name, ix.named exp = some name → ix.data.take 8 = ixDisc name

theorem bytes32_length (value : Bytes32) : (Borsh.bytes32 value).length = 32 := value.2

theorem run_short {α : Type} {reader : Reader α} {size : ℕ} (sized : Sized reader size) {data : List Byte} (positive : 0 < size)
    (short : data.length < 8+size) : (Reader.run reader (data.drop 8)).toOption = none := by
  apply toOption_refused
  apply run_refused
  refine sized.short (data.drop 8) ?_ 0
  rw [List.length_drop]
  omega

theorem args_invert (settings : Settings) : ArgsInvert settings where
  decodes args disc tail length := by
    obtain ⟨reader,known,layout⟩ := args_layout settings args
    unfold decodeIxArgs
    rw [known,Option.bind_some,List.append_assoc,← length,List.drop_left,run_reads layout.reads tail]
    rfl
  short args data short := by
    obtain ⟨reader,known,layout⟩ := args_layout settings args
    have positive : 0 < args.bytes.length := by
      cases args <;> simp [RustArgs.bytes,Borsh.u64,Borsh.u32,Borsh.bool,bytes32_length]
    unfold decodeIxArgs
    rw [known,Option.bind_some]
    exact run_short layout.sized positive short
  absent name data none_named := by
    cases name with
    | mintPassport => exact absurd rfl (none_named (.mintPassport zero32 zero32 zero32))
    | attachSeal => exact absurd rfl (none_named (.attachSeal zero32 0))
    | recordScan => exact absurd rfl (none_named (.recordScan ⟨0,0,0,0,0,0,0,0,0,0,zero32,zero32,zero32,.zero,0⟩))
    | list => exact absurd rfl (none_named (.list 0))
    | reserve => exact absurd rfl (none_named (.reserve 0))
    | resolve => exact absurd rfl (none_named (.resolve false))
    | _ => rfl
  foreign exp ix name known := by
    unfold Instruction.named at known
    split at known
    · have found := List.find?_some known
      exact (beq_iff_eq.mp found).symm
    · cases known

structure EventsInvert (settings : Settings) : Prop where
  decodes : ∀ (event : RustEvent) tail,
    decodeEvent settings (eventDisc event.name ++ event.bytes ++ tail) = some (event.shown settings.keyOf)
  foreign : ∀ data, (∀ name, data.take 8 ≠ eventDisc name) → decodeEvent settings data = none
  short : ∀ (event : RustEvent) data, data.take 8 = eventDisc event.name → data.length < 8+event.bytes.length →
    decodeEvent settings data = none

theorem eventDisc_length (name : EventName) : (eventDisc name).length = 8 := by cases name <;> rfl

theorem events_invert (settings : Settings) : EventsInvert settings where
  decodes event tail := by
    obtain ⟨reader,known,layout⟩ := event_layout settings event
    unfold decodeEvent
    rw [List.append_assoc,← eventDisc_length event.name,List.take_left,List.drop_left,known,Option.bind_some,
      run_reads layout.reads tail]
    rfl
  foreign data foreign := by
    unfold decodeEvent
    rw [eventReader_foreign settings foreign]
    rfl
  short event data disc short := by
    obtain ⟨reader,known,layout⟩ := event_layout settings event
    have positive : 0 < event.bytes.length := by
      cases event <;> simp [RustEvent.bytes,bytes32_length]
    unfold decodeEvent
    rw [disc,known,Option.bind_some]
    exact run_short layout.sized positive short

structure OrdersInvert : Prop where
  chain : Inverts (fun data => (Chain.decodeOrder (some data)).toOption) (accountDisc .order) OrderRecord.bytes
    fun order => Chain.orderDict (order.map keyText)
  agree : ∀ data, (∃ order, Txverify.decodeOrder data = .ok (some order) ∧ Chain.decodeOrder data = .ok (Chain.orderDict order)) ∨
    Txverify.decodeOrder data = .ok none ∧ ∃ error, Chain.decodeOrder data = .error error
  default : ∀ order : OrderRecord Bytes32 Bytes32, (Chain.orderDict (order.map keyText)).order.buyer =
    if order.buyer = zero32 then none else some (keyText order.buyer)

theorem orders_invert : OrdersInvert where
  chain := by
    have inverts := account_inverts .order (orderRecord_reads keyText)
    have shown (data : List Byte) : (Chain.decodeOrder (some data)).toOption =
        (readAccount .order (orderRecord keyText) (some data)).toOption.map Chain.orderDict := by
      unfold Chain.decodeOrder
      cases readAccount .order (orderRecord keyText) (some data) <;> rfl
    refine ⟨?_,?_,?_⟩
    · intro order tail
      rw [shown,inverts.decodes order tail]
      rfl
    · intro data other
      rw [shown,inverts.foreign data other]
      rfl
    · intro data order short
      rw [shown,inverts.short data order short]
      rfl
  agree := orders_agree
  default order := by
    simp only [Chain.orderDict,OrderRecord.map,keyText_default]

-- The decoders of the server undo the layouts of the programs.
structure BorshInverted (settings : Settings) : Prop where
  scanProof : Inverts (fun data => (Chain.decodeScanProof (some data)).toOption) (accountDisc .scanProof) ScanProofRecord.bytes
    (ScanProofRecord.map keyText)
  passport : Inverts (fun data => (Chain.decodePassport (some data)).toOption) (accountDisc .passport) PassportRecord.bytes
    (PassportRecord.map keyText)
  sealAccount : Inverts (fun data => (Chain.decodeSeal (some data)).toOption) (accountDisc .sealAccount) SealRecord.bytes
    (SealRecord.map keyText)
  registry : RegistryInverts
  orders : OrdersInvert
  checked : ∀ data, Txverify.decodeScanProofChecked (some data) = (Chain.decodeScanProof (some data)).toOption
  args : ArgsInvert settings
  events : EventsInvert settings
  keys : ∀ key other, keyText key = keyText other ↔ key = other

theorem borsh_inverted (settings : Settings) : BorshInverted settings where
  scanProof := account_inverts .scanProof (scanProofRecord_reads keyText)
  passport := account_inverts .passport (passportRecord_reads keyText)
  sealAccount := account_inverts .sealAccount (sealRecord_reads keyText)
  registry := registry_inverts
  orders := orders_invert
  checked := scanProof_checked
  args := args_invert settings
  events := events_invert settings
  keys _ _ := keyText_exact

end FlaconVault.Verifier
