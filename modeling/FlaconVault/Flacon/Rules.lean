import FlaconVault.Lib.Guards
import FlaconVault.Ledger.Accounts
namespace FlaconVault.Flacon
open Guards Bytes

def MAX_SERVER_KEYS : ℕ := 8
def MAX_PARTNERS : ℕ := 16
def MAX_SITES : ℕ := 16
def MAX_SEALS_PER_PASSPORT : ℕ := 2
def TAMPER_OPENED_NOW : U8 := 1
def TAMPER_OPENED_BEFORE : U8 := 2
def TAMPER_UNKNOWN : U8 := 3
def INDICATOR_INTACT : U8 := 0
def INDICATOR_TRIGGERED : U8 := 1
def TIER_SELF_MEDIA : U8 := 2
def TIER_CERTIFIED : U8 := 3
def ROLE_VAULT : U8 := 3
def ROLE_PARTNER : U8 := 4
def SEAL_KIND_BOX : U8 := 0
def SEAL_KIND_NECK : U8 := 1
def MAX_INDICATOR : U8 := 3
def MAX_TIER : U8 := 4
def MAX_ROLE : U8 := 4
def MAX_FILL : U8 := 100
def HEAT_LEVELS_BITS : ℕ := 6
def HEAT_DECISIVE_INDEX : ℕ := 4
def MAX_SCAN_TS_SKEW_S : Int := 600
def MAX_COUNTER : ℕ := 0x00FFFFFF
def GRADE_FILL_A_MIN : U8 := 90
def GRADE_FILL_B_MIN : U8 := 60

-- Grade rule. VOID and C are sticky, A/B/D follow the fill level of the latest scan.
def gradeFromFill (fill : U8) : Grade :=
  if fill ≥ GRADE_FILL_A_MIN then .a else if fill ≥ GRADE_FILL_B_MIN then .b else .d

def isOpened (tamper : U8) : Bool := tamper == TAMPER_OPENED_NOW || tamper == TAMPER_OPENED_BEFORE

def isTriggered (heat hum : U8) : Bool := heat == INDICATOR_TRIGGERED || hum == INDICATOR_TRIGGERED

def passportAfterScan (oldGrade : Grade) (oldVoid : Bool) (tamper heat hum fill : U8) : Grade × Bool :=
  if oldVoid || oldGrade == .void || isOpened tamper then (.void,true)
  else if oldGrade == .c || isTriggered heat hum then (.c,false)
  else (gradeFromFill fill,false)

-- The signed message.
def MSG_PREFIX : List Byte := [0x46,0x56,0x53,0x43,0x41,0x4e,0x31]
def MSG_LEN : ℕ := 152
def OFF_SERIAL_HASH : ℕ := 7
def OFF_UID_HASH : ℕ := OFF_SERIAL_HASH + 32
def OFF_COUNTER : ℕ := OFF_UID_HASH + 32
def OFF_TAMPER : ℕ := OFF_COUNTER + 4
def OFF_UV : ℕ := OFF_TAMPER + 1
def OFF_HUM : ℕ := OFF_UV + 1
def OFF_HEAT : ℕ := OFF_HUM + 1
def OFF_FILL : ℕ := OFF_HEAT + 1
def OFF_MEDIA_HASH : ℕ := OFF_FILL + 1
def OFF_NONCE : ℕ := OFF_MEDIA_HASH + 32
def OFF_TS : ℕ := OFF_NONCE + 32

structure ScanMessageFields where
  serialHash : Bytes32
  uidHash : Bytes32
  counter : U32
  tamper : U8
  uv : U8
  hum : U8
  heat : U8
  fill : U8
  mediaHash : Bytes32
  nonce : Bytes32
  ts : I64
  deriving DecidableEq

def buildScanMessage (f : ScanMessageFields) : List Byte :=
  let m := List.replicate MSG_LEN 0
  let m := overwrite m 0 MSG_PREFIX
  let m := overwrite m OFF_SERIAL_HASH f.serialHash.1
  let m := overwrite m OFF_UID_HASH f.uidHash.1
  let m := overwrite m OFF_COUNTER (littleEndian 4 f.counter)
  let m := overwrite m OFF_TAMPER [f.tamper]
  let m := overwrite m OFF_UV [f.uv]
  let m := overwrite m OFF_HUM [f.hum]
  let m := overwrite m OFF_HEAT [f.heat]
  let m := overwrite m OFF_FILL [f.fill]
  let m := overwrite m OFF_MEDIA_HASH f.mediaHash.1
  let m := overwrite m OFF_NONCE f.nonce.1
  overwrite m OFF_TS (signedLittleEndian 8 f.ts)

theorem buildScanMessage_eq (f : ScanMessageFields) :
    buildScanMessage f = MSG_PREFIX ++ f.serialHash.1 ++ f.uidHash.1 ++ littleEndian 4 f.counter ++ [f.tamper] ++ [f.uv] ++
      [f.hum] ++ [f.heat] ++ [f.fill] ++ f.mediaHash.1 ++ f.nonce.1 ++ signedLittleEndian 8 f.ts := by
  have empty : List.replicate MSG_LEN (0 : Byte) = [] ++ List.replicate MSG_LEN 0 := rfl
  have serial := f.serialHash.2
  have uid := f.uidHash.2
  have media := f.mediaHash.2
  have nonce := f.nonce.2
  have front : MSG_PREFIX.length = 7 := rfl
  unfold buildScanMessage
  rw [empty]
  simp only [OFF_SERIAL_HASH,OFF_UID_HASH,OFF_COUNTER,OFF_TAMPER,OFF_UV,OFF_HUM,OFF_HEAT,OFF_FILL,OFF_MEDIA_HASH,
    OFF_NONCE,OFF_TS,MSG_LEN,signedLittleEndian]
  repeat rw [overwrite_next (by simp [front,serial,uid,media,nonce])]
  simp [front,serial,uid,media,nonce]

theorem buildScanMessage_length (f : ScanMessageFields) : (buildScanMessage f).length = MSG_LEN := by
  rw [buildScanMessage_eq]
  simp [f.serialHash.2,f.uidHash.2,f.mediaHash.2,f.nonce.2,MSG_PREFIX,MSG_LEN,signedLittleEndian]

-- The Ed25519 precompile instruction that has to stand right before `record_scan`.
def ED25519_PROGRAM_ID : Pubkey := .foreign 1
def ED25519_HEADER_LEN : ℕ := 16
def ED25519_PUBKEY_LEN : ℕ := 32
def ED25519_SIGNATURE_LEN : ℕ := 64

structure Ed25519Payload where
  pubkey : List Byte
  message : List Byte
  deriving DecidableEq

def u16At (data : List Byte) (offset : ℕ) : Except ProgramError ℕ := do
  let bytes ← orRefuse (slice data offset 2) (.flacon .malformedEd25519Instruction)
  return fromLittleEndian bytes

def indexOk (index ownIndex : ℕ) : Bool := index == 0xFFFF || index == ownIndex

def parseSingleEd25519 (data : List Byte) (ownIndex : ℕ) : Except ProgramError Ed25519Payload := do
  require (data.length ≥ ED25519_HEADER_LEN) (.flacon .malformedEd25519Instruction)
  require (data.head? = some 1) (.flacon .malformedEd25519Instruction)
  let signatureOffset ← u16At data 2
  let signatureIx ← u16At data 4
  let publicKeyOffset ← u16At data 6
  let publicKeyIx ← u16At data 8
  let messageOffset ← u16At data 10
  let messageSize ← u16At data 12
  let messageIx ← u16At data 14
  require (indexOk signatureIx ownIndex ∧ indexOk publicKeyIx ownIndex ∧ indexOk messageIx ownIndex)
    (.flacon .malformedEd25519Instruction)
  require (messageSize = MSG_LEN) (.flacon .malformedEd25519Instruction)
  let pubkey ← orRefuse (slice data publicKeyOffset ED25519_PUBKEY_LEN) (.flacon .malformedEd25519Instruction)
  let message ← orRefuse (slice data messageOffset messageSize) (.flacon .malformedEd25519Instruction)
  require (signatureOffset + ED25519_SIGNATURE_LEN ≤ data.length) (.flacon .malformedEd25519Instruction)
  return ⟨pubkey,message⟩

-- Key validity at the signed time and at the cluster clock, and freshness of the signature. The clocks are
-- 64-bit, so a difference that overflows is not fresh.
def checkKeyAndFreshness (key : ServerKey) (ts now : I64) : Except ProgramError Unit := do
  require (key.isValidAt ts) (.flacon .serverKeyNotValidAtTs)
  require (key.isValidAt now) (.flacon .serverKeyNotValidNow)
  let difference := ts.1 - now.1
  require (-2^63 ≤ difference ∧ difference < 2^63 ∧ difference.natAbs ≤ MAX_SCAN_TS_SKEW_S)
    (.flacon .staleScanTimestamp)

-- `valid_to` after a revocation: one second before the clock, and never the open-ended 0.
def revokedValidTo (currentValidTo now : I64) : Except ProgramError I64 := do
  require (currentValidTo.1 = 0 ∨ currentValidTo.1 ≥ now.1) (.flacon .serverKeyAlreadyRevoked)
  return I64.clip (max (max (now.1-1) (-2^63)) 1)

end FlaconVault.Flacon
