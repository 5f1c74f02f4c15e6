import FlaconVault.Flacon.Precompile
import FlaconVault.Verifier.Bundles
import FlaconVault.Verifier.Requests
import FlaconVault.Web.Messages
import FlaconVault.Web.VerifyApi
namespace FlaconVault.Web.FlaconClient
open Guards Bytes Verifier
open Flacon (RecordScanArgs RecordScan RawInstruction ED25519_PROGRAM_ID)
open Verifier.Proof (sent)
open PyText (hexDigit)
open Json (hexChar)

-- From the verifier's answer to the transaction that anchors it: buildRecordScanTx of the web client.
inductive ClientError where
  | noServerSignature
  | badHex
  | message (error : MessageError)
  | heatLevels
  | encoding
  deriving DecidableEq

def hexPairs : List Char → Option (List Byte)
  | [] => some []
  | [_] => none
  | high :: low :: rest =>
    match hexDigit high,hexDigit low,hexPairs rest with
    | some first,some second,some bytes => some (Fin.ofNat 256 (16*first+second) :: bytes)
    | _,_,_ => none

def hexToBytes (text : String) : Option (List Byte) :=
  let digits := text.toList
  hexPairs (if ['0','x'].isPrefixOf digits || ['0','X'].isPrefixOf digits then digits.drop 2 else digits)

def heatLevelsToMask (levels : List ℕ) : Except ClientError ℕ := do
  require (levels.length = 6) .heatLevels
  pure (levels.zipIdx.foldl (fun mask level => if level.1 = 0 then mask else mask ||| 2^level.2) 0)

structure VerifyResponse where
  serverSig : Option String
  serverPubkey : String
  keyId : ℕ
  msgHex : String
  heatLevels : Option (List ℕ)
  bundleHash : String

structure Extra where
  tier : ℕ
  role : ℕ
  siteId : Option ℕ

theorem toNat_below {size : ℕ} {value : Int} (fits : 0 ≤ value ∧ value < size) : value.toNat < size := by omega

-- A number or a byte string as an argument of its type; others do not encode.
def unsigned (size : ℕ) (value : Int) : Except ClientError (Fin size) :=
  if fits : 0 ≤ value ∧ value < size then .ok ⟨value.toNat,toNat_below fits⟩ else .error .encoding

def signed64 (value : Int) : Except ClientError I64 := if fits : -2^63 ≤ value ∧ value < 2^63 then .ok ⟨value,fits⟩ else .error .encoding

def bytes32 (bytes : List Byte) : Except ClientError Bytes32 := if length : bytes.length = 32 then .ok ⟨bytes,length⟩ else .error .encoding

-- The Ed25519 instruction of one signature, its parts in its own data.
def ed25519Layout (publicKey message signature : List Byte) : List Byte :=
  [1,0] ++ littleEndian 2 48 ++ littleEndian 2 0xFFFF ++ littleEndian 2 16 ++ littleEndian 2 0xFFFF ++ littleEndian 2 112 ++
    littleEndian 2 message.length ++ littleEndian 2 0xFFFF ++ publicKey ++ signature ++ message

-- What the client's and the server's libraries promise: the layout of that instruction, and signatures of 64 bytes.
structure Libraries (settings : Settings) where
  programId : Pubkey
  recordScanData : RecordScanArgs → List Byte
  createInstructionWithPublicKey : List Byte → List Byte → List Byte → List Byte
  layout : ∀ publicKey message signature, publicKey.length = 32 → signature.length = 64 → message.length < 2^16 →
    createInstructionWithPublicKey publicKey message signature = ed25519Layout publicKey message signature
  signature : ∀ message, (settings.sign message).length = 64

structure BuiltTx where
  accounts : RecordScan
  args : RecordScanArgs

-- Every signed field is taken from the server's message.
def buildRecordScanTx {settings : Settings} (libraries : Libraries settings) (attester : Pubkey) (v : VerifyResponse) (extra : Extra) :
    Except ClientError BuiltTx := do
  let serverSig ← orRefuse (v.serverSig.filter (· ≠ "")) .noServerSignature
  let msg ← orRefuse (hexToBytes v.msgHex) .badHex
  let m ← (parseScanMessage msg).mapError .message
  let uidHash ← bytes32 m.uidHash
  let serialHash ← bytes32 m.serialHash
  let counter ← unsigned (2^32) m.counter
  let sealKey := Pubkey.sealOf uidHash
  let passport := Pubkey.passport serialHash
  let heatLevels ← heatLevelsToMask (v.heatLevels.getD [0,0,0,0,0,0])
  let bundleHash ← orRefuse (hexToBytes v.bundleHash) .badHex
  let publicKey ← orRefuse (hexToBytes v.serverPubkey) .badHex
  let signature ← orRefuse (hexToBytes serverSig) .badHex
  let args : RecordScanArgs :=
    ⟨counter,← unsigned 256 extra.tier,← unsigned 256 extra.role,← unsigned 256 m.tamper,← unsigned 256 m.uv,← unsigned 256 m.hum,
      ← unsigned 256 m.heat,← unsigned 256 heatLevels,← unsigned 256 m.fill,← unsigned (2^16) (extra.siteId.getD 0),
      ← bytes32 m.mediaHash,← bytes32 bundleHash,← bytes32 m.nonce,← signed64 m.ts,← unsigned 256 v.keyId⟩
  pure ⟨⟨.registry,passport,sealKey,.scan sealKey counter,attester,
    [⟨ED25519_PROGRAM_ID,libraries.createInstructionWithPublicKey publicKey msg signature⟩,⟨libraries.programId,libraries.recordScanData args⟩],
    1⟩,args⟩

-- The answer of the server as the client receives it.
def responseOf (scan : SignedScan) : VerifyResponse where
  serverSig := if scan.serverSig = [] then none else some (hex0x scan.serverSig)
  serverPubkey := String.ofList (hex scan.serverPubkey.val)
  keyId := scan.keyId.val
  msgHex := String.ofList (hex scan.msg)
  heatLevels := some scan.bundle.heatLevels
  bundleHash := hex0x scan.bundleHash.val

-- Hex that was written reads back.
theorem hexDigit_hexChar : ∀ digit < 16, hexDigit (hexChar digit) = some digit := by decide

theorem hexPairs_hex (bytes : List Byte) : hexPairs (hex bytes) = some bytes := by
  induction bytes with
  | nil => rfl
  | cons byte rest ih =>
    have high : hexDigit (hexChar (byte.val/16)) = some (byte.val/16) := by
      apply hexDigit_hexChar
      omega
    have low : hexDigit (hexChar (byte.val%16)) = some (byte.val%16) := by
      apply hexDigit_hexChar
      omega
    have cells : hex (byte :: rest) = hexChar (byte.val/16) :: hexChar (byte.val%16) :: hex rest := rfl
    rw [cells]
    unfold hexPairs
    rw [high,low,ih]
    simp only [Option.some.injEq,List.cons.injEq,and_true]
    apply Fin.ext
    rw [Fin.val_ofNat]
    omega

theorem hexToBytes_hex0x (bytes : List Byte) : hexToBytes (hex0x bytes) = some bytes := by
  unfold hexToBytes hex0x
  simp only [String.toList_ofList,List.isPrefixOf,beq_self_eq_true,Bool.and_self,Bool.true_or,if_true,List.drop_succ_cons,List.drop_zero]
  exact hexPairs_hex bytes

theorem hexChar_no_x : ∀ digit < 16, hexChar digit ≠ 'x' ∧ hexChar digit ≠ 'X' := by decide

theorem hexToBytes_hex (bytes : List Byte) : hexToBytes (String.ofList (hex bytes)) = some bytes := by
  have plain : (['0','x'].isPrefixOf (hex bytes) || ['0','X'].isPrefixOf (hex bytes)) = false := by
    cases bytes with
    | nil => rfl
    | cons byte rest =>
      have other := hexChar_no_x (byte.val%16) (by omega)
      have cells : hex (byte :: rest) = hexChar (byte.val/16) :: hexChar (byte.val%16) :: hex rest := rfl
      rw [cells]
      simp [List.isPrefixOf,other.1.symm,other.2.symm]
  unfold hexToBytes
  simp only [String.toList_ofList,plain,Bool.false_eq_true,if_false]
  exact hexPairs_hex bytes

theorem hex0x_filled (bytes : List Byte) : hex0x bytes ≠ "" := by
  intro empty
  have cells := congrArg String.toList empty
  unfold hex0x at cells
  rw [String.toList_ofList] at cells
  cases cells

theorem unsigned_val {size : ℕ} (value : Fin size) : unsigned size value.val = .ok value := by
  have fits : 0 ≤ (value.val : Int) ∧ (value.val : Int) < size := by
    have := value.isLt
    omega
  unfold unsigned
  rw [dif_pos fits]
  rfl

theorem signed64_val (value : I64) : signed64 value.val = .ok value := by
  unfold signed64
  rw [dif_pos value.2]

theorem bytes32_val (bytes : Bytes32) : bytes32 bytes.val = .ok bytes := by
  unfold bytes32
  rw [dif_pos bytes.2]

-- The mask of six levels, in both languages.
theorem mask_agrees {levels : List ℕ} (six : levels.length = 6) (binary : ∀ level ∈ levels, level ≤ 1) :
    heatLevelsToMask levels = .ok (Verifier.heatLevelsToMask levels) ∧ Verifier.heatLevelsToMask levels < 64 := by
  match levels, six with
  | [a,b,c,d,e,f], _ =>
    have all : ∀ a b c d e f : Fin 2, heatLevelsToMask [a.val,b.val,c.val,d.val,e.val,f.val] =
        .ok (Verifier.heatLevelsToMask [a.val,b.val,c.val,d.val,e.val,f.val]) ∧
        Verifier.heatLevelsToMask [a.val,b.val,c.val,d.val,e.val,f.val] < 64 := by
      decide
    have small : ∀ level ∈ [a,b,c,d,e,f], level < 2 := fun level inside => Nat.lt_succ_of_le (binary level inside)
    exact all ⟨a,small a (by simp)⟩ ⟨b,small b (by simp)⟩ ⟨c,small c (by simp)⟩ ⟨d,small d (by simp)⟩ ⟨e,small e (by simp)⟩
      ⟨f,small f (by simp)⟩

-- The program reads the key and the message back.
theorem layout_parses {publicKey message signature : List Byte} (key : publicKey.length = 32) (signed : signature.length = 64)
    (text : message.length = 152) (ownIndex : ℕ) :
    Flacon.parseSingleEd25519 (ed25519Layout publicKey message signature) ownIndex = .ok ⟨publicKey,message⟩ := by
  have header : ed25519Layout publicKey message signature =
      [1,0,48,0,255,255,16,0,255,255,112,0,152,0,255,255] ++ (publicKey ++ (signature ++ message)) := by
    unfold ed25519Layout
    rw [text]
    simp only [List.append_assoc]
    rfl
  rw [header]
  refine Flacon.parse_ok.mpr ⟨⟨48,0xFFFF,16,0xFFFF,112,152,0xFFFF⟩,⟨Flacon.declared_one.mpr ⟨rfl,?_⟩,?_,rfl,?_,?_,?_⟩,?_⟩
  · simp [Flacon.offsetsAt,Flacon.wordAt,slice,fromLittleEndian]
  · simp
  · simp [key,signed,text,Flacon.ED25519_SIGNATURE_LEN]
  · simp [key,signed,text,Flacon.ED25519_PUBKEY_LEN]
  · simp [key,signed,text]
  · have last : (publicKey ++ (signature ++ message)).drop 96 = message := by
      rw [← List.append_assoc]
      exact List.drop_left' (by simp [key,signed])
    have whole : message.take 152 = message := List.take_of_length_le text.le
    unfold Flacon.SignatureOffsets.payload
    simp [key,last,whole,Flacon.ED25519_PUBKEY_LEN]

theorem counter_below (counter : U24) : counter.val < 2^32 := by omega
theorem indicator_below (value : Fin 4) : value.val < 256 := by omega
theorem fill_below (value : Fin 101) : value.val < 256 := by omega
theorem claim_below (value : Fin 5) : value.val < 256 := by omega

def counterField (counter : U24) : U32 := ⟨counter.val,counter_below counter⟩
def indicatorField (value : Fin 4) : U8 := ⟨value.val,indicator_below value⟩
def fillField (value : Fin 101) : U8 := ⟨value.val,fill_below value⟩
def claimField (value : Fin 5) : U8 := ⟨value.val,claim_below value⟩

-- What the server signs for a request.
def fieldsOf (body : VerifyBody) (around : Surroundings) (serialHash uidHash : Bytes32) (counter : U24) (mediaHash nonce : Bytes32) :
    Flacon.ScanMessageFields where
  serialHash := serialHash
  uidHash := uidHash
  counter := counterField counter
  tamper := Flacon.TAMPER_UNKNOWN
  uv := indicatorField body.uv
  hum := indicatorField body.humidity
  heat := indicatorField body.heat
  fill := fillField body.fill
  mediaHash := mediaHash
  nonce := nonce
  ts := around.now

structure Signs (settings : Settings) (db : Database) (body : VerifyBody) (around : Surroundings) (scan : SignedScan) (counter : U24)
    (mediaHash nonce : Bytes32) : Prop where
  admitted : admitVerify settings db body around = .ok mediaHash
  counted : scan.counter = counter.val
  msg : scan.msg = Flacon.buildScanMessage (fieldsOf body around scan.serialHash scan.uidHash counter mediaHash nonce)
  serverSig : scan.serverSig = settings.sign scan.msg
  serverPubkey : scan.serverPubkey = settings.serverPubkey
  heatLevels : scan.bundle.heatLevels = body.heatLevels.val.map (·.val)

theorem fields_message (body : VerifyBody) (around : Surroundings) (serialHash uidHash : Bytes32) (counter : U24)
    (mediaHash nonce : Bytes32) :
    Verifier.buildMessage serialHash uidHash counter Tamper.UNKNOWN body.uv.val body.humidity.val body.heat.val body.fill.val mediaHash
      nonce around.now = Flacon.buildScanMessage (fieldsOf body around serialHash uidHash counter mediaHash nonce) := by
  let f := fieldsOf body around serialHash uidHash counter mediaHash nonce
  have small : f.fill.val ≤ 100 := Nat.le_of_lt_succ body.fill.isLt
  have asked := Verifier.Proof.request_message serialHash uidHash counter f.tamper f.uv f.hum f.heat f.fill small mediaHash nonce around.now
  have agreed := (program_agrees (show f.fill ≤ Flacon.MAX_FILL from small)).verifier
  exact Except.ok.inj (asked.symm.trans agreed)

theorem signed_parts {settings : Settings} {db later : Database} {body : VerifyBody} {around : Surroundings} {answer : VerifyAnswer}
    {scan : SignedScan} (accepted : verify settings db body around = .ok (later,answer)) (signed : answer.signed = some scan) :
    ∃ counter mediaHash nonce, Signs settings db body around scan counter mediaHash nonce := by
  cases verify_verifying accepted with
  | nonceInvalid _ _ unsigned => cases unsigned.symm.trans signed
  | unlogged _ _ _ _ _ _ unsigned => cases unsigned.symm.trans signed
  | logged _ _ _ _ _ _ _ _ _ unsigned => cases unsigned.symm.trans signed
  | signed check checked logged tap session row uidHash counter mediaHash admitted live tapped log made verdict shown valid alive named
      hashed counted told =>
    cases told.symm.trans signed
    exact ⟨counter,mediaHash,session.nonce,⟨admitted,rfl,fields_message body around _ _ counter mediaHash session.nonce,rfl,rfl,rfl⟩⟩

-- The arguments and the accounts of the transaction for it.
def argsOf (body : VerifyBody) (around : Surroundings) (scan : SignedScan) (counter : U24) (mediaHash nonce : Bytes32) : RecordScanArgs where
  counter := counterField counter
  tier := claimField body.tier
  role := claimField body.role
  tamper := Flacon.TAMPER_UNKNOWN
  uv := indicatorField body.uv
  hum := indicatorField body.humidity
  heat := indicatorField body.heat
  heatLevels := Fin.ofNat 256 (Verifier.heatLevelsToMask (body.heatLevels.val.map (·.val)))
  fill := fillField body.fill
  siteId := 0
  mediaHash := mediaHash
  bundleHash := scan.bundleHash
  nonce := nonce
  ts := around.now
  serverKeyId := scan.keyId

def accountsOf {settings : Settings} (libraries : Libraries settings) (attester : Pubkey) (scan : SignedScan) (args : RecordScanArgs) :
    RecordScan where
  registry := .registry
  passport := .passport scan.serialHash
  sealKey := .sealOf scan.uidHash
  scanProof := .scan (.sealOf scan.uidHash) args.counter
  attester := attester
  transaction := [⟨ED25519_PROGRAM_ID,ed25519Layout scan.serverPubkey.val scan.msg scan.serverSig⟩,⟨libraries.programId,libraries.recordScanData args⟩]
  currentIndex := 1

theorem levels_six (levels : HeatLevels) : (levels.val.map (·.val)).length = 6 := by
  rw [List.length_map]
  exact levels.2

theorem levels_binary (levels : HeatLevels) : ∀ level ∈ levels.val.map (·.val), level ≤ 1 := by
  intro level inside
  obtain ⟨bit,_,rfl⟩ := List.mem_map.mp inside
  omega

-- The client builds it.
theorem built {settings : Settings} {db : Database} {body : VerifyBody} {around : Surroundings} {scan : SignedScan} {counter : U24}
    {mediaHash nonce : Bytes32} (libraries : Libraries settings) (attester : Pubkey)
    (signs : Signs settings db body around scan counter mediaHash nonce) :
    buildRecordScanTx libraries attester (responseOf scan) ⟨body.tier.val,body.role.val,none⟩ =
      .ok ⟨accountsOf libraries attester scan (argsOf body around scan counter mediaHash nonce),argsOf body around scan counter mediaHash nonce⟩ := by
  let f := fieldsOf body around scan.serialHash scan.uidHash counter mediaHash nonce
  have agreed := program_agrees (show f.fill ≤ Flacon.MAX_FILL from Nat.le_of_lt_succ body.fill.isLt)
  have sized : scan.serverSig.length = 64 := signs.serverSig ▸ libraries.signature scan.msg
  have signed : scan.serverSig ≠ [] := by
    intro empty
    rw [empty] at sized
    cases sized
  have shown : (responseOf scan).serverSig.filter (· ≠ "") = some (hex0x scan.serverSig) := by
    unfold responseOf
    rw [if_neg signed]
    exact Option.filter_eq_some_iff.mpr ⟨rfl,by simpa using hex0x_filled scan.serverSig⟩
  have parsed : parseScanMessage scan.msg = .ok (sent f) := signs.msg ▸ agreed.clientReads
  obtain ⟨mask,small⟩ := mask_agrees (levels_six body.heatLevels) (levels_binary body.heatLevels)
  have levels : (responseOf scan).heatLevels = some (body.heatLevels.val.map (·.val)) := congrArg some signs.heatLevels
  have masked := unsigned_val (Fin.ofNat 256 (Verifier.heatLevelsToMask (body.heatLevels.val.map (·.val))))
  rw [Fin.val_ofNat,Nat.mod_eq_of_lt (small.trans (by decide))] at masked
  have length : scan.msg.length = 152 := signs.msg ▸ agreed.length
  have layout := libraries.layout scan.serverPubkey.val scan.msg scan.serverSig scan.serverPubkey.2 sized (by omega)
  unfold buildRecordScanTx
  rw [shown,levels]
  refine bind_ok.mpr ⟨_,rfl,bind_ok.mpr ⟨_,orRefuse_ok.mpr (hexToBytes_hex scan.msg),?_⟩⟩
  refine bind_ok.mpr ⟨sent f,by rw [parsed]; rfl,?_⟩
  refine bind_ok.mpr ⟨scan.uidHash,bytes32_val _,bind_ok.mpr ⟨scan.serialHash,bytes32_val _,?_⟩⟩
  refine bind_ok.mpr ⟨f.counter,unsigned_val f.counter,bind_ok.mpr ⟨_,mask,?_⟩⟩
  refine bind_ok.mpr ⟨_,orRefuse_ok.mpr (hexToBytes_hex0x scan.bundleHash.val),?_⟩
  refine bind_ok.mpr ⟨_,orRefuse_ok.mpr (hexToBytes_hex scan.serverPubkey.val),?_⟩
  refine bind_ok.mpr ⟨_,orRefuse_ok.mpr (hexToBytes_hex0x scan.serverSig),?_⟩
  refine bind_ok.mpr ⟨claimField body.tier,unsigned_val (claimField body.tier),bind_ok.mpr ⟨claimField body.role,unsigned_val (claimField body.role),?_⟩⟩
  refine bind_ok.mpr ⟨f.tamper,unsigned_val f.tamper,bind_ok.mpr ⟨f.uv,unsigned_val f.uv,bind_ok.mpr ⟨f.hum,unsigned_val f.hum,?_⟩⟩⟩
  refine bind_ok.mpr ⟨f.heat,unsigned_val f.heat,bind_ok.mpr ⟨_,masked,bind_ok.mpr ⟨f.fill,unsigned_val f.fill,?_⟩⟩⟩
  refine bind_ok.mpr ⟨0,@unsigned_val (2^16) 0,bind_ok.mpr ⟨mediaHash,bytes32_val _,bind_ok.mpr ⟨scan.bundleHash,bytes32_val _,?_⟩⟩⟩
  refine bind_ok.mpr ⟨nonce,bytes32_val _,bind_ok.mpr ⟨around.now,signed64_val _,bind_ok.mpr ⟨scan.keyId,unsigned_val scan.keyId,?_⟩⟩⟩
  rw [layout]
  rfl

end FlaconVault.Web.FlaconClient
