import FlaconVault.Flacon.Counting
namespace FlaconVault.Flacon
open Guards Bytes

-- The Ed25519 precompile as the cluster runs it: a count, one record of offsets for each signature, and the bytes these
-- records point to, in this instruction or in another one of the transaction.
structure SignatureOffsets where
  signatureOffset : ℕ
  signatureIndex : ℕ
  publicKeyOffset : ℕ
  publicKeyIndex : ℕ
  messageOffset : ℕ
  messageSize : ℕ
  messageIndex : ℕ
  deriving DecidableEq

def wordAt (data : List Byte) (offset : ℕ) : Option ℕ := (slice data offset 2).map fromLittleEndian

def offsetsAt (data : List Byte) (start : ℕ) : Option SignatureOffsets := do
  let signatureOffset ← wordAt data start
  let signatureIndex ← wordAt data (start+2)
  let publicKeyOffset ← wordAt data (start+4)
  let publicKeyIndex ← wordAt data (start+6)
  let messageOffset ← wordAt data (start+8)
  let messageSize ← wordAt data (start+10)
  let messageIndex ← wordAt data (start+12)
  return ⟨signatureOffset,signatureIndex,publicKeyOffset,publicKeyIndex,messageOffset,messageSize,messageIndex⟩

def recordsAt (data : List Byte) : ℕ → ℕ → Option (List SignatureOffsets)
  | _, 0 => some []
  | start, count+1 => do
    let first ← offsetsAt data start
    let rest ← recordsAt data (start+14) count
    return first :: rest

-- The declared records: data that declares no signature has to be empty otherwise.
def declared (data : List Byte) : Option (List SignatureOffsets) :=
  match data.head? with
  | none => none
  | some count => if data.length < 2 ∨ (count = 0 ∧ data.length > 2) then none else recordsAt data 2 count.val

structure SignedBytes where
  signature : List Byte
  pubkey : List Byte
  message : List Byte
  deriving DecidableEq

-- `own` is the data of the instruction that runs, which the sentinel index names.
def bytesAt (datas : List (List Byte)) (own : List Byte) (index offset size : ℕ) : Option (List Byte) :=
  (if index = 0xFFFF then some own else datas[index]?).bind fun data => slice data offset size

def SignatureOffsets.bytes (o : SignatureOffsets) (datas : List (List Byte)) (own : List Byte) : Option SignedBytes := do
  let signature ← bytesAt datas own o.signatureIndex o.signatureOffset ED25519_SIGNATURE_LEN
  let pubkey ← bytesAt datas own o.publicKeyIndex o.publicKeyOffset ED25519_PUBKEY_LEN
  let message ← bytesAt datas own o.messageIndex o.messageOffset o.messageSize
  return ⟨signature,pubkey,message⟩

-- What the precompile verified; nothing when it fails the transaction.
def precompile (verify : SignedBytes → Bool) (datas : List (List Byte)) (own : List Byte) : Option (List SignedBytes) := do
  let records ← declared own
  let signed ← records.mapM fun o => o.bytes datas own
  if signed.all verify then some signed else none

theorem wordAt_some {data : List Byte} {offset value : ℕ} :
    u16At data offset = .ok value ↔ wordAt data offset = some value := by
  unfold u16At wordAt
  cases found : slice data offset 2 with
  | none => simp [orRefuse]
  | some bytes => simp [orRefuse]

theorem wordAt_small {data : List Byte} {offset value : ℕ} (found : wordAt data offset = some value) : value < 2^16 := by
  obtain ⟨bytes,here,rfl⟩ := Option.map_eq_some_iff.mp found
  have size := slice_length here
  match bytes,size with
  | [low,high],_ =>
    have := low.isLt
    have := high.isLt
    simp only [fromLittleEndian]
    omega

theorem recordsAt_length {data : List Byte} {start count : ℕ} {records : List SignatureOffsets}
    (found : recordsAt data start count = some records) : records.length = count := by
  induction count generalizing start records with
  | zero =>
    cases found
    rfl
  | succ count ih =>
    simp only [recordsAt,Option.bind_eq_bind,Option.bind_eq_some_iff,Option.pure_def,Option.some.injEq] at found
    obtain ⟨first,_,rest,others,rfl⟩ := found
    rw [List.length_cons,ih others]

theorem recordsAt_one {data : List Byte} {start : ℕ} {o : SignatureOffsets} :
    recordsAt data start 1 = some [o] ↔ offsetsAt data start = some o := by
  simp [recordsAt,Option.bind_eq_some_iff]

theorem offsetsAt_inside {data : List Byte} {start : ℕ} {o : SignatureOffsets} (found : offsetsAt data start = some o) :
    start+14 ≤ data.length := by
  unfold offsetsAt at found
  simp only [Option.bind_eq_bind,Option.bind_eq_some_iff] at found
  obtain ⟨_,_,_,_,_,_,_,_,_,_,_,_,_,word,_⟩ := found
  obtain ⟨bytes,here,_⟩ := Option.map_eq_some_iff.mp word
  unfold slice at here
  split at here
  · rename_i inside
    exact inside
  · cases here

-- One signature is declared exactly if the count is one and the data holds its record.
theorem declared_one {data : List Byte} {o : SignatureOffsets} :
    declared data = some [o] ↔ data.head? = some 1 ∧ offsetsAt data 2 = some o := by
  unfold declared
  cases front : data.head? with
  | none => simp
  | some count =>
    dsimp only
    rw [Option.some.injEq]
    constructor
    · intro found
      split at found
      · cases found
      · have one : count = 1 := Fin.ext (recordsAt_length found).symm
        subst one
        exact ⟨rfl,recordsAt_one.mp found⟩
    · intro ⟨one,found⟩
      subst one
      have inside := offsetsAt_inside found
      rw [if_neg (by simp only [not_or,not_and]; exact ⟨by omega,fun zero => absurd zero (by decide)⟩)]
      exact recordsAt_one.mpr found

-- The one signature of an instruction that stands at `ownIndex`, all of it in the instruction's own data.
structure DeclaresOwn (data : List Byte) (ownIndex : ℕ) (o : SignatureOffsets) : Prop where
  one : declared data = some [o]
  own : ∀ index ∈ [o.signatureIndex,o.publicKeyIndex,o.messageIndex], index = 0xFFFF ∨ index = ownIndex
  size : o.messageSize = MSG_LEN
  signature : o.signatureOffset+ED25519_SIGNATURE_LEN ≤ data.length
  pubkey : o.publicKeyOffset+ED25519_PUBKEY_LEN ≤ data.length
  message : o.messageOffset+o.messageSize ≤ data.length

def SignatureOffsets.payload (o : SignatureOffsets) (data : List Byte) : Ed25519Payload :=
  ⟨(data.drop o.publicKeyOffset).take ED25519_PUBKEY_LEN,(data.drop o.messageOffset).take o.messageSize⟩

theorem indexOk_iff {index ownIndex : ℕ} : indexOk index ownIndex = true ↔ index = 0xFFFF ∨ index = ownIndex := by
  simp [indexOk]

theorem slice_some {data part : List Byte} {offset size : ℕ} :
    slice data offset size = some part ↔ offset+size ≤ data.length ∧ (data.drop offset).take size = part := by
  unfold slice
  split
  · rename_i inside
    simp [inside]
  · rename_i outside
    simp [outside]

theorem parse_ok {data : List Byte} {ownIndex : ℕ} {payload : Ed25519Payload} :
    parseSingleEd25519 data ownIndex = .ok payload ↔ ∃ o, DeclaresOwn data ownIndex o ∧ payload = o.payload data := by
  constructor
  · intro parsed
    unfold parseSingleEd25519 at parsed
    obtain ⟨_,_,parsed⟩ := bind_ok.mp parsed
    obtain ⟨_,front,parsed⟩ := bind_ok.mp parsed
    obtain ⟨signatureOffset,first,parsed⟩ := bind_ok.mp parsed
    obtain ⟨signatureIx,second,parsed⟩ := bind_ok.mp parsed
    obtain ⟨publicKeyOffset,third,parsed⟩ := bind_ok.mp parsed
    obtain ⟨publicKeyIx,fourth,parsed⟩ := bind_ok.mp parsed
    obtain ⟨messageOffset,fifth,parsed⟩ := bind_ok.mp parsed
    obtain ⟨messageSize,sixth,parsed⟩ := bind_ok.mp parsed
    obtain ⟨messageIx,seventh,parsed⟩ := bind_ok.mp parsed
    obtain ⟨_,indices,parsed⟩ := bind_ok.mp parsed
    obtain ⟨_,size,parsed⟩ := bind_ok.mp parsed
    obtain ⟨pubkey,key,parsed⟩ := bind_ok.mp parsed
    obtain ⟨message,text,parsed⟩ := bind_ok.mp parsed
    obtain ⟨_,signature,parsed⟩ := bind_ok.mp parsed
    rw [orRefuse_ok,slice_some] at key text
    simp only [require_ok,indexOk_iff] at front indices size signature
    rw [wordAt_some] at first second third fourth fifth sixth seventh
    have record : offsetsAt data 2 = some ⟨signatureOffset,signatureIx,publicKeyOffset,publicKeyIx,messageOffset,messageSize,messageIx⟩ := by
      simp [offsetsAt,first,second,third,fourth,fifth,sixth,seventh]
    refine ⟨_,⟨declared_one.mpr ⟨front,record⟩,?_,size,signature,key.1,text.1⟩,?_⟩
    · simpa using indices
    · rw [← pure_ok.mp parsed,← key.2,← text.2]
      rfl
  · intro ⟨o,declares,same⟩
    obtain ⟨front,record⟩ := declared_one.mp declares.one
    have inside := offsetsAt_inside record
    unfold offsetsAt at record
    simp only [Option.bind_eq_bind,Option.bind_eq_some_iff,Option.pure_def,Option.some.injEq] at record
    obtain ⟨signatureOffset,first,signatureIx,second,publicKeyOffset,third,publicKeyIx,fourth,messageOffset,fifth,messageSize,sixth,
      messageIx,seventh,rfl⟩ := record
    have own := declares.own
    simp only [List.mem_cons,List.not_mem_nil,or_false,forall_eq_or_imp,forall_eq] at own
    have key : slice data publicKeyOffset ED25519_PUBKEY_LEN = some ((data.drop publicKeyOffset).take ED25519_PUBKEY_LEN) :=
      slice_some.mpr ⟨declares.pubkey,rfl⟩
    have text : slice data messageOffset messageSize = some ((data.drop messageOffset).take messageSize) :=
      slice_some.mpr ⟨declares.message,rfl⟩
    unfold parseSingleEd25519
    rw [require_pass (show data.length ≥ ED25519_HEADER_LEN from inside),ok_bind,require_pass front,ok_bind,
      wordAt_some.mpr first,ok_bind,wordAt_some.mpr second,ok_bind,wordAt_some.mpr third,ok_bind,wordAt_some.mpr fourth,ok_bind,
      wordAt_some.mpr fifth,ok_bind,wordAt_some.mpr sixth,ok_bind,wordAt_some.mpr seventh,ok_bind,
      require_pass ⟨indexOk_iff.mpr own.1,indexOk_iff.mpr own.2.1,indexOk_iff.mpr own.2.2⟩,ok_bind,
      require_pass (show messageSize = MSG_LEN from declares.size),ok_bind,key,text]
    rw [same]
    simp only [orRefuse,ok_bind]
    rw [require_pass (show signatureOffset+ED25519_SIGNATURE_LEN ≤ data.length from declares.signature)]
    rfl

-- In an instruction that stands at its own index, the record points to the bytes the parser returns.
theorem bytes_own {data : List Byte} {ownIndex : ℕ} {o : SignatureOffsets} (declares : DeclaresOwn data ownIndex o)
    {datas : List (List Byte)} (standing : datas[ownIndex]? = some data) :
    o.bytes datas data = some ⟨(data.drop o.signatureOffset).take ED25519_SIGNATURE_LEN,(o.payload data).pubkey,(o.payload data).message⟩ := by
  have here (index offset size : ℕ) (own : index = 0xFFFF ∨ index = ownIndex) (inside : offset+size ≤ data.length) :
      bytesAt datas data index offset size = some ((data.drop offset).take size) := by
    unfold bytesAt
    have found : (if index = 0xFFFF then some data else datas[index]?) = some data := by
      rcases own with sentinel | own
      · exact if_pos sentinel
      · rw [own,standing,ite_self]
    rw [found,Option.bind_some]
    exact slice_some.mpr ⟨inside,rfl⟩
  have own := declares.own
  simp only [List.mem_cons,List.not_mem_nil,or_false,forall_eq_or_imp,forall_eq] at own
  unfold SignatureOffsets.bytes
  rw [here _ _ _ own.1 declares.signature,here _ _ _ own.2.1 declares.pubkey,here _ _ _ own.2.2 declares.message]
  rfl

-- What the parser returned is what the precompile verified, and nothing else was.
theorem parse_verified {verify : SignedBytes → Bool} {datas : List (List Byte)} {data : List Byte} {ownIndex : ℕ}
    {payload : Ed25519Payload} {signed : List SignedBytes} (standing : datas[ownIndex]? = some data)
    (parsed : parseSingleEd25519 data ownIndex = .ok payload) (verified : precompile verify datas data = some signed) :
    ∃ signature, signed = [⟨signature,payload.pubkey,payload.message⟩] ∧ signature.length = ED25519_SIGNATURE_LEN ∧
      payload.pubkey.length = ED25519_PUBKEY_LEN ∧ payload.message.length = MSG_LEN ∧
      verify ⟨signature,payload.pubkey,payload.message⟩ = true := by
  obtain ⟨o,declares,rfl⟩ := parse_ok.mp parsed
  unfold precompile at verified
  rw [declares.one] at verified
  simp only [Option.bind_eq_bind,Option.bind_some,List.mapM_cons,List.mapM_nil,bytes_own declares standing,Option.pure_def] at verified
  split at verified
  · rename_i passed
    refine ⟨_,(Option.some.inj verified).symm,?_,?_,?_,by simpa using passed⟩
    · have inside := declares.signature
      rw [List.length_take,List.length_drop]
      omega
    · have inside := declares.pubkey
      unfold SignatureOffsets.payload
      rw [List.length_take,List.length_drop]
      omega
    · have inside := declares.message
      have size := declares.size
      unfold SignatureOffsets.payload
      rw [List.length_take,List.length_drop]
      omega
  · cases verified

-- The scan message that the registered key `args.serverKeyId` signed.
structure SignedByServer (verify : SignedBytes → Bool) (s : Ledger) (a : RecordScan) (args : RecordScanArgs) (registry : Registry)
    (key : ServerKey) (passport : Passport) (found : Seal) (signature : List Byte) : Prop where
  registryKnown : s.flacon.registry = some registry
  keyKnown : registry.serverKey args.serverKeyId = some key
  passportKnown : s.flacon.passports a.passport = some passport
  sealKnown : s.flacon.seals a.sealKey = some found
  signed : verify ⟨signature,key.pubkey.1,buildScanMessage ⟨passport.serialHash,found.uidHash,args.counter,args.tamper,args.uv,args.hum,
    args.heat,args.fill,args.mediaHash,args.nonce,args.ts⟩⟩ = true

-- The precompile passed on an instruction of the transaction: otherwise the transaction would have failed.
def Verified (verify : SignedBytes → Bool) (transaction : List RawInstruction) : Prop :=
  ∀ ix ∈ transaction, ix.program = ED25519_PROGRAM_ID → (precompile verify (transaction.map (·.data)) ix.data).isSome

theorem record_scan_signed {verify : SignedBytes → Bool} {s after : Ledger} {a : RecordScan} {args : RecordScanArgs} {now : I64}
    (accepted : handleRecordScan s a args now = .ok after) (verified : Verified verify a.transaction) :
    ∃ registry key passport found signature, SignedByServer verify s a args registry key passport found signature := by
  obtain ⟨registry,passport,found,_,scan,_⟩ := record_parts.mp accepted
  have checked := scan.signature
  unfold checkSignature at checked
  obtain ⟨_,_,checked⟩ := bind_ok.mp checked
  obtain ⟨ix,standing,checked⟩ := bind_ok.mp checked
  obtain ⟨_,program,checked⟩ := bind_ok.mp checked
  obtain ⟨payload,parsed,checked⟩ := bind_ok.mp checked
  obtain ⟨key,known,checked⟩ := bind_ok.mp checked
  obtain ⟨_,own,checked⟩ := bind_ok.mp checked
  obtain ⟨_,_,message⟩ := bind_ok.mp checked
  rw [orRefuse_ok] at standing known
  rw [require_ok] at program own message
  obtain ⟨signed,ran⟩ := Option.isSome_iff_exists.mp (verified ix (List.mem_of_getElem? standing) program)
  have there : (a.transaction.map (·.data))[a.currentIndex.val-1]? = some ix.data := by
    rw [List.getElem?_map,standing]
    rfl
  obtain ⟨signature,_,_,_,_,passed⟩ := parse_verified there parsed ran
  rw [own,message] at passed
  exact ⟨registry,key,passport,found,signature,scan.registryFound,known,scan.passportFound,scan.sealFound,passed⟩

-- The parser against the precompile, for every instruction data and every position.
structure ParsesExactly : Prop where
  total : ∀ data ownIndex error, parseSingleEd25519 data ownIndex = .error error → error = .flacon .malformedEd25519Instruction
  bounded : ∀ data offset value, u16At data offset = .ok value → value+MSG_LEN < 2^32
  exact : ∀ data (ownIndex : U16) payload, parseSingleEd25519 data ownIndex.val = .ok payload ↔
    ∃ o, DeclaresOwn data ownIndex.val o ∧ payload = o.payload data
  verified : ∀ verify datas data (ownIndex : U16) payload signed, datas[ownIndex.val]? = some data →
    parseSingleEd25519 data ownIndex.val = .ok payload → precompile verify datas data = some signed →
    ∃ signature, signed = [⟨signature,payload.pubkey,payload.message⟩] ∧ signature.length = ED25519_SIGNATURE_LEN ∧
      payload.pubkey.length = ED25519_PUBKEY_LEN ∧ payload.message.length = MSG_LEN ∧
      verify ⟨signature,payload.pubkey,payload.message⟩ = true
  genuine : ∀ verify s after a args now, handleRecordScan s a args now = .ok after → Verified verify a.transaction →
    ∃ registry key passport found signature, SignedByServer verify s a args registry key passport found signature

theorem parse_single_ed25519_exact : ParsesExactly where
  total data ownIndex error refused := by
    by_contra other
    exact parse_avoids (Ne.symm other) refused
  bounded data offset value read := by
    have small := wordAt_small (wordAt_some.mp read)
    have fits : 2^16+MSG_LEN < 2^32 := by decide
    omega
  exact data ownIndex payload := parse_ok
  verified verify datas data ownIndex payload signed standing parsed ran := parse_verified standing parsed ran
  genuine verify s after a args now accepted ran := record_scan_signed accepted ran

end FlaconVault.Flacon
