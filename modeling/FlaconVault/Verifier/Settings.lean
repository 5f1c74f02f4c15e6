import FlaconVault.Verifier.Database
namespace FlaconVault.Verifier

-- The deployment: its configuration, and what the server computes with code that is not its own. Hashes, the
-- Ed25519 signature and the chip's AES primitives are arbitrary functions; nothing is assumed about them.
structure Settings where
  programId : Option Pubkey
  escrowProgramId : Option Pubkey
  serverKeyId : U8
  serverPubkey : Bytes32
  nonceTtl : Int
  reconcileTimeout : Int
  sdmLrp : Bool
  serialHash : String → Bytes32
  uidHash : Uid → Bytes32
  tokenHash : String → Bytes32
  bundleHash : Bundle → Bytes32
  sign : List Byte → List Byte
  validateTap : Uid → U24 → List Byte → Bool
  decryptTap : List Byte → List Byte → Option (List Byte) → Option (Uid × U24)
  printable : Char → Bool
  keyOf : Bytes32 → Pubkey

def bytesOf (size : ℕ) (bytes : List Byte) : List Byte := (bytes ++ List.replicate size 0).take size

def hashOf (bytes : List Byte) : Bytes32 := ⟨bytesOf 32 bytes,by simp [bytesOf]⟩

-- A small deployment to evaluate the model on: each hash keeps the first bytes of what it is given, every tap is
-- genuine, and no tap decrypts.
def Settings.sample : Settings where
  programId := some (.foreign 1)
  escrowProgramId := some (.foreign 2)
  serverKeyId := 0
  serverPubkey := hashOf []
  nonceTtl := 300
  reconcileTimeout := 900
  sdmLrp := false
  serialHash serial := hashOf (serial.toList.map fun c => Fin.ofNat 256 c.toNat)
  uidHash uid := hashOf uid.val
  tokenHash token := hashOf (token.toList.map fun c => Fin.ofNat 256 c.toNat)
  bundleHash bundle := hashOf [Fin.ofNat 256 bundle.counter]
  sign msg := bytesOf 64 msg
  validateTap _ _ _ := true
  decryptTap _ _ _ := none
  printable _ := true
  keyOf bytes := .foreign (bytes.val.foldl (fun number byte => number * 256 + byte.val) 0)

end FlaconVault.Verifier
