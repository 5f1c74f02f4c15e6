import FlaconVault.Lib.HexText
import FlaconVault.Lib.Guards
import FlaconVault.Verifier.Lrp
namespace FlaconVault.Verifier
open Blocks Guards PyText

-- The messages of an NTAG 424 DNA chip and the keys behind them. The hash functions are arbitrary.
structure Primitives where
  aes : Aes
  cmac : Block → List Byte → Block
  hmacSha256 : List Byte → List Byte → Bytes32
  pbkdf2 : List Byte → List Byte → Block

def Primitives.sample : Primitives where
  aes := masking
  cmac key bytes := strxor key (blockOf bytes.reverse)
  hmacSha256 key bytes := ⟨bytesOf 32 (key ++ bytes),bytesOf_length 32 _⟩
  pbkdf2 password salt := blockOf (password ++ salt)

inductive EncMode where
  | aes | lrp
  deriving DecidableEq

inductive ParamMode where
  | separated | bulk
  deriving DecidableEq

inductive KeyMode where
  | factory | diversified | sdmbackend
  deriving DecidableEq

inductive SdmDerive where
  | legacy | standard
  deriving DecidableEq

structure SdmConfig where
  keyMode : KeyMode
  masterKey : Block
  sdmDerive : SdmDerive

def SDMMAC_PARAM : String := "cmac"

def ascii (text : List Char) : List Byte := text.map fun c => Fin.ofNat 256 c.toNat

def oddBytes : List Byte → List Byte
  | _ :: odd :: rest => odd :: oddBytes rest
  | _ => []

-- Zeros till the end of the block, `left` bytes before it.
def zeroFilled (left : ℕ) (stream : List Byte) : List Byte := stream ++ List.replicate (zerosTo 16 (stream.length+left)) 0

def lrpVector (piccData : List Byte) : List Byte := zeroFilled 2 ([0x00,0x01,0x00,0x80] ++ piccData) ++ [0x1e,0xe1]

section Messages
variable (c : Primitives)

def macInput (paramMode : ParamMode) (encFileData : Option (List Byte)) : List Byte :=
  match encFileData.filter (· ≠ []) with
  | none => []
  | some file =>
    let paramText := if paramMode = .bulk ∨ SDMMAC_PARAM = "" then "" else "&" ++ SDMMAC_PARAM ++ "="
    ascii (hexUpper file) ++ ascii paramText.toList

def lrpMaster (key : Block) (piccData : List Byte) : Block := Lrp.cmac c.aes ⟨key,0,Lrp.zeroCounter,true⟩ (lrpVector piccData)

def calculateSdmmac (paramMode : ParamMode) (sdmFileReadKey : Block) (piccData : List Byte) (encFileData : Option (List Byte))
    (mode : EncMode) : List Byte :=
  let input := macInput paramMode encFileData
  let macDigest := match mode with
    | .aes => c.cmac (c.cmac sdmFileReadKey (zeroFilled 0 ([0x3c,0xc3,0x00,0x01,0x00,0x80] ++ piccData))) input
    | .lrp => Lrp.cmac c.aes ⟨lrpMaster c sdmFileReadKey piccData,0,Lrp.zeroCounter,true⟩ input
  oddBytes macDigest.1

def fileSession (sdmFileReadKey : Block) (piccData : List Byte) : Block :=
  c.cmac sdmFileReadKey (zeroFilled 0 ([0xc3,0x3c,0x00,0x01,0x00,0x80] ++ piccData))

def fileVector (session : Block) (readCtr : List Byte) : Block := c.aes.encrypt session (blockOf (readCtr ++ List.replicate 13 0))

def fileLrp (sdmFileReadKey : Block) (piccData readCtr : List Byte) : Lrp :=
  ⟨lrpMaster c sdmFileReadKey piccData,1,readCtr ++ [0,0,0],false⟩

def decryptFileData (sdmFileReadKey : Block) (piccData readCtr encFileData : List Byte) (mode : EncMode) : Except SdmError (List Byte) :=
  match mode with
  | .aes => do
    let session := fileSession c sdmFileReadKey piccData
    let blocks ← wholeBlocks (blocksOf 16 encFileData)
    return joined (chainDecrypt c.aes strxor session (fileVector c session readCtr) blocks)
  | .lrp => do
    let (_,plain) ← (fileLrp c sdmFileReadKey piccData readCtr).decrypt c.aes encFileData
    return plain

structure PlainSun where
  encryptionMode : EncMode
  uid : List Byte
  readCtr : ℕ
  deriving DecidableEq

def invalidMac : SdmError := .invalidMessage "Message is not properly signed - invalid MAC"

def validatePlainSun (uid readCtr sdmmac : List Byte) (sdmFileReadKey : Block) (mode : EncMode) : Except SdmError PlainSun := do
  require (sdmmac = calculateSdmmac c .separated sdmFileReadKey (uid ++ readCtr.reverse) none mode) invalidMac
  return ⟨mode,uid,fromBigEndian readCtr⟩

def MAX_ENC_FILE_DATA : ℕ := 128

def getEncryptionMode (piccEncData : List Byte) : Except SdmError EncMode :=
  if piccEncData.length = 16 then .ok .aes
  else if piccEncData.length = 24 then .ok .lrp
  else .error (.invalidMessage "Unsupported encryption mode.")

def piccLrp (sdmMetaReadKey : Block) (piccRand : List Byte) : Lrp := ⟨sdmMetaReadKey,0,piccRand,false⟩

def decryptPicc (mode : EncMode) (sdmMetaReadKey : Block) (piccEncData : List Byte) : Except SdmError (List Byte) :=
  match mode with
  | .aes => do
    let blocks ← wholeBlocks (blocksOf 16 piccEncData)
    return joined (chainDecrypt c.aes strxor sdmMetaReadKey (filled 0) blocks)
  | .lrp => do
    let (_,plaintext) ← (piccLrp sdmMetaReadKey (piccEncData.take 8)).decrypt c.aes (piccEncData.drop 8)
    return plaintext

-- What the plaintext of a chip message holds: the tag byte, and the UID and the counter when they are mirrored.
structure PiccData where
  tag : Byte
  uid : Option (List Byte)
  readCtr : Option (List Byte)
  deriving DecidableEq

def uidMirrored (tag : Byte) : Prop := tag.val &&& 0x80 = 0x80
def readCtrMirrored (tag : Byte) : Prop := tag.val &&& 0x40 = 0x40
def uidLength (tag : Byte) : ℕ := tag.val &&& 0x0f

instance (tag : Byte) : Decidable (uidMirrored tag) := inferInstanceAs (Decidable (_ = _))
instance (tag : Byte) : Decidable (readCtrMirrored tag) := inferInstanceAs (Decidable (_ = _))

def readPicc (plaintext : List Byte) : PiccData :=
  let tag := plaintext.headD 0
  let stream := plaintext.drop 1
  let uid := if uidMirrored tag then some (stream.take 7) else none
  let stream := if uidMirrored tag then stream.drop 7 else stream
  ⟨tag,uid,if readCtrMirrored tag then some (stream.take 3) else none⟩

def PiccData.stream (data : PiccData) : List Byte := data.uid.getD [] ++ data.readCtr.getD []

structure SunMessage where
  piccDataTag : Byte
  uid : List Byte
  readCtr : Option ℕ
  fileData : Option (List Byte)
  encryptionMode : EncMode
  deriving DecidableEq

def readFile (mode : EncMode) (fileKey : Block) (data : PiccData) (encFileData : Option (List Byte)) :
    Except SdmError (Option (List Byte)) :=
  match encFileData.filter (· ≠ []) with
  | none => .ok none
  | some file => do
    let readCtr ← orRefuse data.readCtr (.invalidMessage "SDMReadCtr is required to decipher SDMENCFileData.")
    let plain ← decryptFileData c fileKey data.stream readCtr file mode
    return some plain

-- The MAC that is computed for an unknown UID length only to take its time is left out.
def decryptSunMessage (paramMode : ParamMode) (sdmMetaReadKey : Block) (sdmFileReadKey : List Byte → Except SdmError Block)
    (piccEncData sdmmac : List Byte) (encFileData : Option (List Byte)) : Except SdmError SunMessage := do
  require (encFileData.all fun file => decide (file.length ≤ MAX_ENC_FILE_DATA)) (.invalidMessage "SDMENCFileData too long")
  let mode ← getEncryptionMode piccEncData
  let plaintext ← decryptPicc c mode sdmMetaReadKey piccEncData
  let data := readPicc plaintext
  require (uidLength data.tag = 7) (.invalidMessage "Unsupported UID length")
  let uid ← orRefuse data.uid (.invalidMessage "UID cannot be None.")
  let fileKey ← sdmFileReadKey uid
  require (sdmmac = calculateSdmmac c paramMode fileKey data.stream encFileData mode) invalidMac
  let fileData ← readFile c mode fileKey data encFileData
  return ⟨data.tag,uid,data.readCtr.map Bytes.fromLittleEndian,fileData,mode⟩

end Messages

section Keys
variable (c : Primitives)

def FACTORY_KEY : Block := filled 0
def KEY_DIV_APP_ID : List Byte := [0xd2,0x76,0x00,0x00,0x85,0x01,0x01]
def KEY_DIV_SYS_ID : List Byte := ascii "FlaconVault".toList

def diversify (master : Block) (uid aid sysid : List Byte) : Except SdmError Block := do
  let d := 0x01 :: (uid ++ aid ++ sysid)
  require (d.length ≤ 32) .valueError
  return c.cmac master d

def DIV_CONST1 : List Byte := ascii "PICCDataKey".toList
def DIV_CONST2 : List Byte := ascii "SlotMasterKey".toList
def DIV_CONST3 : List Byte := ascii "DivBaseKey".toList

def hmacShort (key msg : List Byte) : Block := blockOf ((c.hmacSha256 key msg).1.take 16)

-- libsdm's two derivations.
def deriveTagKey (derive : SdmDerive) (master : Block) (uid : List Byte) (keyNo : Byte) : Block :=
  if master = filled 0 then filled 0
  else match derive with
    | .legacy => c.pbkdf2 master.1 (ascii "key".toList ++ uid ++ [keyNo])
    | .standard =>
      c.cmac (hmacShort c master.1 (DIV_CONST2 ++ [keyNo]))
        (0x01 :: (hmacShort c (c.hmacSha256 master.1 DIV_CONST3).1 uid).1)

def deriveUndiversifiedKey (derive : SdmDerive) (master : Block) (keyNo : Byte) : Except SdmError Block :=
  match derive with
  | .legacy => .ok (if master = filled 0 then filled 0 else c.pbkdf2 master.1 (ascii "key_no_uid".toList ++ [keyNo]))
  | .standard => do
    require (keyNo = 1) (.runtimeError "Only key #1 can be derived in undiversified mode.")
    return if master = filled 0 then filled 0 else hmacShort c master.1 DIV_CONST1

def keyForUid (config : SdmConfig) (uid : List Byte) : Except SdmError Block :=
  match config.keyMode with
  | .factory => .ok FACTORY_KEY
  | .diversified => diversify c config.masterKey uid KEY_DIV_APP_ID KEY_DIV_SYS_ID
  | .sdmbackend => .ok (deriveTagKey c config.sdmDerive config.masterKey uid 2)

def metaReadKey (config : SdmConfig) : Except SdmError Block :=
  match config.keyMode with
  | .sdmbackend => deriveUndiversifiedKey c config.sdmDerive config.masterKey 1
  | _ => .ok FACTORY_KEY

def sdmCmac (uid : List Byte) (ctr : ℕ) (key : Block) : List Byte :=
  let ctrLsbFirst := (toBigEndian 3 ctr).reverse
  calculateSdmmac c .separated key (uid ++ ctrLsbFirst) none .aes

def validateTap (uid : List Byte) (ctr : ℕ) (cmac : List Byte) (key : Block) : Bool :=
  (validatePlainSun c uid (toBigEndian 3 ctr) cmac key .aes).toBool

def ctrHex (ctr : ℕ) : List Char := hexUpper (toBigEndian 3 ctr)

-- An error other than the two that are caught is never raised: an LRP object without padding only raises ValueError.
def decryptTap (config : SdmConfig) (piccData cmac : List Byte) (enc : Option (List Byte)) : Option (List Byte × ℕ) :=
  let opened : Except SdmError SunMessage := do
    let metaKey ← metaReadKey c config
    decryptSunMessage c .separated metaKey (keyForUid c config) piccData cmac (enc.filter (· ≠ []))
  match opened with
  | .error _ => none
  | .ok message => message.readCtr.map fun readCtr => (message.uid,readCtr)

end Keys

def uidOf (bytes : List Byte) : Uid := ⟨bytesOf 7 bytes,bytesOf_length 7 bytes⟩

-- A deployment whose taps are checked by the code above.
def Settings.withChips (settings : Settings) (c : Primitives) (config : SdmConfig) : Settings :=
  {settings with validateTap := fun uid counter cmac =>
                   match keyForUid c config uid.1 with
                   | .ok key => Verifier.validateTap c uid.1 counter.val cmac key
                   | .error _ => false
                 decryptTap := fun piccData cmac enc =>
                   (Verifier.decryptTap c config piccData cmac enc).map fun told => (uidOf told.1,Fin.ofNat _ told.2)}

end FlaconVault.Verifier
