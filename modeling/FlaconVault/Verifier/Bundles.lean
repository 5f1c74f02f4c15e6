import FlaconVault.Lib.JsonDicts
import FlaconVault.Verifier.Shapes
namespace FlaconVault.Verifier
open Json

-- The signed bundle and the scan's payload as the JSON they are stored, hashed and sent as.
def BUNDLE_SCHEMA : String := "flaconvault.scanproof.v1"

def hex (bytes : List Byte) : List Char := bytes.flatMap fun byte => [hexChar (byte.val/16),hexChar (byte.val%16)]

def hex0x (bytes : List Byte) : String := String.ofList ('0' :: 'x' :: hex bytes)

-- Another kind has no name; no seal is stored with one.
def sealKindName : ℕ → String
  | 0 => "BOX"
  | 1 => "NECK"
  | _ => "LOOP"

def Verdict.text : Verdict → String
  | .valid => "VALID"
  | .invalid => "INVALID"
  | .replay => "REPLAY"
  | .nonceInvalid => "NONCE_INVALID"
  | .unregistered => "UNREGISTERED"
  | .noResponse => "NO_RESPONSE"

def Platform.text : Platform → String
  | .androidWeb => "ANDROID_WEB"
  | .iosWeb => "IOS_WEB"
  | .desktopWeb => "DESKTOP_WEB"
  | .simulator => "SIMULATOR"

def Status.text : Status → String
  | .pending => "pending"
  | .confirmed => "confirmed"
  | .failed => "failed"
  | .reported => "reported"

def AttestationSource.text : AttestationSource → String
  | .tx => "tx"
  | .chain => "chain"
  | .claimed => "claimed"
  | .unverified => "unverified"

def DecodeError.text : DecodeError → String
  | .noData => "ScanProof: no account data"
  | .foreignDiscriminator found => "ScanProof: foreign discriminator " ++ String.ofList (hex found)
  | .truncated offset needed left =>
    "ScanProof: truncated at offset " ++ toString offset ++ " (need " ++ toString needed ++ " bytes, have " ++ toString left ++ ")"
  | .otherScan => "ScanProof of another seal/counter"

def orNull {α : Type} (make : α → Json) : Option α → Json
  | some value => make value
  | none => .null

def natural (value : ℕ) : Json := .int value

section spelled
-- How a key is spelled: base58.
variable (spell : Pubkey → String)

def keyJson (key : Pubkey) : Json := .str (spell key)

def mediaJson (media : Media) : Json :=
  .obj [("type",.str "SEAL_FRAMES"),("sha256",.str (hex0x media.sha256.val)),("ar",orNull .str media.ar)]

def buildBundle (b : Bundle) : List (String × Json) :=
  [("schema",.str BUNDLE_SCHEMA),
   ("serial",.str b.serial),
   ("serialHash",.str (hex0x b.serialHash.val)),
   ("uidHash",.str (hex0x b.uidHash.val)),
   ("counter",natural b.counter),
   ("seal",.obj [("kind",.str (sealKindName b.sealKind)),("uidHash",.str (hex0x b.uidHash.val))]),
   ("tamper",natural b.tamper),
   ("indicators",.obj [("heat",natural b.indicators.heat),("humidity",natural b.indicators.humidity),("uv",natural b.indicators.uv)]),
   ("heatLevels",.arr (b.heatLevels.map natural)),
   ("fill",natural b.fill),
   ("visual",.obj [("loopIntact",.null),("note",.str b.note)]),
   ("location",.obj [("country",orNull .str b.location.country),("city",orNull .str b.location.city)]),
   ("media",.arr (b.media.map mediaJson)),
   ("logger",.null),
   ("session",.obj [("nonce",.str (hex0x b.nonce.val)),("issuedAt",.int b.issuedAt)]),
   ("device",.obj [("platform",.str b.platform.text)]),
   ("attester",.obj [("role",natural b.attester.role),("tier",natural b.attester.tier),("pubkey",orNull (keyJson spell) b.attester.pubkey)]),
   ("server",.obj [("keyId",natural b.server.keyId.val),("verdict",.str b.server.verdict.text),("ts",.int b.server.ts),
     ("sig",if b.server.sig = [] then .null else .str (hex0x b.server.sig))]),
   ("ts",.int b.ts)]

def BUNDLE_KEYS : List String :=
  ["schema","serial","serialHash","uidHash","counter","seal","tamper","indicators","heatLevels","fill",
   "visual","location","media","logger","session","device","attester","server","ts"]

-- The server extras of a stored payload left out.
def bundleFromPayload (payload : List (String × Json)) : List (String × Json) :=
  BUNDLE_KEYS.filterMap fun key => (get payload key).map (key,·)

def canonicalJson (value : Json) : List Char := dumps 0 value

def utf8 (text : List Char) : List Byte := (String.ofList text).toUTF8.toList.map fun byte => Fin.ofNat 256 byte.toNat

-- A deployment whose bundle hash is a hash of the canonical text.
def Settings.hashing (settings : Settings) (sha256 : List Byte → Bytes32) : Settings :=
  {settings with bundleHash := fun bundle => sha256 (utf8 (canonicalJson (.obj (buildBundle spell bundle))))}

def attestationJson (attestation : Attestation) : Json :=
  .obj [("attester",orNull (keyJson spell) attestation.attester),("tier",orNull natural attestation.tier),
    ("role",orNull natural attestation.role),("siteId",orNull natural attestation.siteId),
    ("source",.str attestation.source.text),("mismatch",.arr (attestation.mismatch.map .str))]

def chainJson (chain : ChainPart) : Json :=
  .obj [("attester",keyJson spell chain.attester),("tier",natural chain.tier),("role",natural chain.role),
    ("siteId",natural chain.siteId),("counter",natural chain.counter),("scanPda",keyJson spell chain.scanPda)]

-- A key that may be missing.
def optional (key : String) (value : Option Json) : List (String × Json) := value.toList.map (key,·)

def reconcileFields (part : ReconcilePart) : List (String × Json) :=
  optional "checkedAt" (part.checkedAt.map .int) ++ optional "scanPda" (part.scanPda.map (keyJson spell)) ++
    optional "ignoredAccount" (part.ignoredAccount.map fun error => .str error.text) ++ optional "reason" (part.reason.map .str) ++
    optional "mismatch" (part.mismatch.map fun names => .arr (names.map .str)) ++
    optional "signatureChecked" (if part.signatureChecked then some (.bool true) else none) ++
    optional "recoveredFrom" (part.recoveredFrom.map fun status => .str status.text)

-- The payload when it is signed, and with what later writes add to it.
def signedFields (scan : ScanPayload) : List (String × Json) :=
  buildBundle spell scan.bundle ++ [("grade",natural scan.grade),("reviewRecommended",.bool scan.reviewRecommended),
    ("msgHex",.str (String.ofList (hex scan.msg))),("bundleHash",.str (hex0x scan.bundleHash.val))]

def payloadFields (scan : ScanPayload) (note : Option ReconcilePart) : List (String × Json) :=
  signedFields spell scan ++ (optional "siteId" (scan.siteId.map natural) ++
    (optional "confirmed" (scan.confirmed.map (attestationJson spell)) ++ (optional "tier" (scan.tier.map natural) ++
      (optional "role" (scan.role.map natural) ++ (optional "chain" (scan.chain.map (chainJson spell)) ++
        optional "reconcile" (note.map fun part => .obj (reconcileFields spell part)))))))

-- The payload_json column of a scan.
def payloadJson (scan : ScanPayload) (note : Option ReconcilePart) : List Char := dumps 1 (.obj (payloadFields spell scan note))

end spelled
end FlaconVault.Verifier
