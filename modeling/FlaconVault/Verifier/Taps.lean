import FlaconVault.Lib.PyText
import FlaconVault.Verifier.Settings
import FlaconVault.Verifier.Store
namespace FlaconVault.Verifier
open Guards PyText

inductive TagParamError where
  | tooLong | missing | missingCmac | uidNotHex | uidLength | ctrLength | ctrNotHex | ctrRange | cmacNotHex | cmacLength
  | piccLength | lrpDisabled | encLength | notHex | badCmac | tapNotFound | tapNotAdoptable | tapUsed | tapTooOld
  deriving DecidableEq

-- The counter of a request is a text in a URL, a text or a number in a JSON body.
inductive CtrParam where
  | text (sent : String)
  | number (sent : Int)
  deriving DecidableEq

structure TapParams where
  uid : Option String
  ctr : Option CtrParam
  cmac : Option String
  piccData : Option String
  enc : Option String
  deriving DecidableEq

structure TapCheck where
  verdict : Verdict
  uid : Option TapUid
  uidHash : Option Bytes32
  counter : Option U24
  cmac : Option (List Byte)
  sealRow : Option SealRow
  error : Option TagParamError
  encrypted : Bool
  deriving DecidableEq

namespace TapCheck
def refused (error : TagParamError) : TapCheck := ⟨.invalid,none,none,none,none,none,some error,false⟩
def serial (check : TapCheck) : Option String := check.sealRow.map (·.serial)
def sealDead (check : TapCheck) : Bool := check.sealRow.any (·.dead)
end TapCheck

-- The outcome of the pure crypto step: a genuine tap's UID and counter, or why it is invalid.
inductive TapAuth where
  | genuine (uid : Uid) (counter : U24) (cmac : List Byte) (encrypted : Bool)
  | invalid (check : TapCheck)
  deriving DecidableEq

def MAX_PICC_HEX : ℕ := 48
def MAX_ENC_HEX : ℕ := 64
def MAX_PLAIN_HEX : ℕ := 64

def parseUid (value : List Char) : Except TagParamError Uid := do
  let bytes ← orRefuse (fromHex (removePrefix "0x".toList (strip value))) .uidNotHex
  if length : bytes.length = 7 then pure ⟨bytes,length⟩ else .error .uidLength

def parseCmac (value : List Char) : Except TagParamError (List Byte) := do
  let bytes ← orRefuse (fromHex (removePrefix "0x".toList (strip value))) .cmacNotHex
  require (bytes.length = 8) .cmacLength
  pure bytes

def counterOf (value : Int) : Except TagParamError U24 :=
  if range : 0 ≤ value ∧ value ≤ 0xFFFFFF then pure ⟨value.toNat,by omega⟩ else .error .ctrRange

-- Three bytes of hex from a URL, or already a number.
def parseCtr : CtrParam → Except TagParamError U24
  | .number value => counterOf value
  | .text sent => do
    let digits := removePrefix "0x".toList (strip sent.toList)
    require (digits.length = 6) .ctrLength
    let value ← orRefuse (intBase16 digits) .ctrNotHex
    counterOf value

def allHexDigits (text : List Char) : Bool := text.all fun c => (hexDigit c).isSome

-- NXP TagWriter sends `uid=<UID>x<CTR>x<MAC>`.
def splitTagwriter (uid : Option String) (ctr : Option CtrParam) (cmac : Option String) :
    Option String × Option CtrParam × Option String :=
  match uid with
  | none => (uid,ctr,cmac)
  | some sent =>
    let text := strip sent.toList
    let mirrored := sent.length ≤ 64 ∧ text.length = 38 ∧ allHexDigits (text.take 14) ∧ text[14]? = some 'x' ∧
      allHexDigits ((text.drop 15).take 6) ∧ text[21]? = some 'x' ∧ allHexDigits (text.drop 22)
    let empty (value : String) : Bool := (stripChar '0' value.toList).isEmpty
    if mirrored then
      let counter := CtrParam.text (String.ofList ((text.drop 15).take 6))
      (some (String.ofList (text.take 14)),
        (match ctr with
        | none => some counter
        | some (.text value) => if empty value then some counter else ctr
        | some (.number value) => if value = 0 then some counter else ctr),
        match cmac with
        | none => some (String.ofList (text.drop 22))
        | some value => if empty value then some (String.ofList (text.drop 22)) else cmac)
    else (uid,ctr,cmac)

def stripHex (value : Option String) : List Char :=
  let text := strip (value.getD "").toList
  if text.take 2 = "0x".toList ∨ text.take 2 = "0X".toList then text.drop 2 else text

def tooLong (value : Option String) : Bool := value.any fun text => decide (text.length > MAX_PLAIN_HEX)

def ctrTooLong : Option CtrParam → Bool
  | some (.text sent) => decide (sent.length > MAX_PLAIN_HEX)
  | _ => false

def authenticateEncrypted (settings : Settings) (piccData cmac : String) (enc : Option String) : TapAuth :=
  let refused (error : TagParamError) : TapAuth := .invalid {TapCheck.refused error with encrypted := true}
  let piccHex := stripHex (some piccData)
  let encHex := stripHex enc
  if piccHex.length > MAX_PICC_HEX ∨ encHex.length > MAX_ENC_HEX ∨ tooLong (some cmac) then refused .tooLong
  else
    let parsed : Except TagParamError (List Byte × List Byte × Option (List Byte)) := do
      let picc ← orRefuse (fromHex piccHex) .notHex
      require (picc.length = 16 ∨ picc.length = 24) .piccLength
      require (¬(picc.length = 24 ∧ settings.sdmLrp = false)) .lrpDisabled
      let mac ← parseCmac cmac.toList
      if encHex.isEmpty then pure (picc,mac,none)
      else do
        let bytes ← orRefuse (fromHex encHex) .notHex
        require (bytes.length % 16 = 0) .encLength
        pure (picc,mac,some bytes)
    match parsed with
    | .error error => refused error
    | .ok (picc,mac,bytes) =>
      match settings.decryptTap picc mac bytes with
      | none => .invalid {TapCheck.refused .badCmac with cmac := some mac
                                                         encrypted := true}
      | some (uid,counter) => .genuine uid counter mac true

-- Parsing and authenticating a tap, plain or encrypted; no database access.
def authenticateTap (settings : Settings) (params : TapParams) : TapAuth :=
  match params.piccData.filter (· ≠ "") with
  | some piccData =>
    match params.cmac with
    | none => .invalid {TapCheck.refused .missingCmac with encrypted := true}
    | some cmac => authenticateEncrypted settings piccData cmac params.enc
  | none =>
    if tooLong params.uid ∨ ctrTooLong params.ctr ∨ tooLong params.cmac then .invalid (TapCheck.refused .tooLong)
    else
      match splitTagwriter params.uid params.ctr params.cmac with
      | (some uid,some ctr,some cmac) =>
        let parsed : Except TagParamError (Uid × U24 × List Byte) := do
          let uid ← parseUid uid.toList
          let counter ← parseCtr ctr
          let mac ← parseCmac cmac.toList
          pure (uid,counter,mac)
        match parsed with
        | .error error => .invalid {TapCheck.refused error with uid := some (.text uid)}
        | .ok (uid,counter,mac) =>
          if settings.validateTap uid counter mac then .genuine uid counter mac false
          else .invalid ⟨.invalid,some (.chip uid),some (settings.uidHash uid),some counter,some mac,none,some .badCmac,false⟩
      | (uid,_,_) => .invalid {TapCheck.refused .missing with uid := (uid.filter (· ≠ "")).map .text}

-- Counter and seal lookup of an authenticated tap; with `consume` the seal's counter advances.
def checkTap (settings : Settings) (db : Database) (auth : TapAuth) (consume : Bool) : Database × TapCheck :=
  match auth with
  | .invalid check => (db,check)
  | .genuine uid counter cmac encrypted =>
    let found := db.getSealByUid uid
    let last := match found with
      | some row => row.lastCounter
      | none => db.lastCounterUnregistered uid
    let check (verdict : Verdict) (row : Option SealRow) : TapCheck :=
      ⟨verdict,some (.chip uid),some (settings.uidHash uid),some counter,some cmac,row,none,encrypted⟩
    if counter.val ≤ last then (db,check .replay found)
    else
      match found with
      | none => (db,check .unregistered none)
      | some row =>
        if consume then (db.advanceSealCounter row.uidHash counter,check .valid (some {row with lastCounter := counter}))
        else (db,check .valid (some row))

def ADOPT_WINDOW_S : Int := 180

-- A token matches the hash stored for it; a missing token or hash never does.
def tokenMatches (settings : Settings) (token : Option String) (stored : Option Bytes32) : Bool :=
  match token.filter (· ≠ ""),stored with
  | some token,some hash => settings.tokenHash token == hash
  | _,_ => false

-- A tap that /t already consumed may be adopted once, with its token, for a short time.
def adoptTap (settings : Settings) (db : Database) (tapId : ℕ) (token : Option String) (now : Int) : Database × TapCheck :=
  match db.getTap tapId with
  | none => (db,.refused .tapNotFound)
  | some tap =>
    if tap.source ≠ .t ∨ tokenMatches settings token tap.adoptHash = false then (db,.refused .tapNotFound)
    else
      match tap.verdict,tap.uid,tap.ctr with
      | .valid,some (.chip uid),some counter =>
        let used (error : TagParamError) : TapCheck :=
          ⟨.replay,some (.chip uid),none,some counter,tap.cmac,none,some error,false⟩
        if tap.adoptedAt.isSome then (db,used .tapUsed)
        else if now-tap.ts > ADOPT_WINDOW_S then (db,used .tapTooOld)
        else
          match db.markTapAdopted tapId now with
          | none => (db,used .tapUsed)
          | some adopted =>
            let row := adopted.getSealByUid uid
            (adopted,⟨if row.isSome then .valid else .unregistered,some (.chip uid),some (settings.uidHash uid),
              some counter,tap.cmac,row,none,false⟩)
      | _,_,_ => (db,.refused .tapNotAdoptable)

end FlaconVault.Verifier
