import FlaconVault.Lib.Blocks
import FlaconVault.Verifier.Settings
namespace FlaconVault.Verifier
open Blocks

-- The chip's Leakage Resilient Primitive over AES-128. AES itself is any block cipher on sixteen bytes.
abbrev Block := {bytes : List Byte // bytes.length = 16}
abbrev Aes := BlockCipher Block Block

inductive SdmError where
  | invalidMessage (text : String)
  | runtimeError (text : String)
  | valueError
  deriving DecidableEq

theorem bytesOf_length (size : ℕ) (bytes : List Byte) : (bytesOf size bytes).length = size := by
  simp only [bytesOf,List.length_take,List.length_append,List.length_replicate]
  omega

def blockOf (bytes : List Byte) : Block := ⟨bytesOf 16 bytes,bytesOf_length 16 bytes⟩
def filled (byte : Byte) : Block := ⟨List.replicate 16 byte,List.length_replicate⟩

def xorByte (a b : Byte) : Byte := Fin.ofNat 256 (a.val ^^^ b.val)

theorem xor_length (a b : Block) : (List.zipWith xorByte a.1 b.1).length = 16 := by
  rw [List.length_zipWith,a.2,b.2]
  rfl

def strxor (a b : Block) : Block := ⟨List.zipWith xorByte a.1 b.1,xor_length a b⟩

theorem xorByte_xorByte (a b : Byte) : xorByte (xorByte a b) b = a := by
  have small : a.val ^^^ b.val < 2^8 := Nat.xor_lt_two_pow a.isLt b.isLt
  have back : (a.val ^^^ b.val) ^^^ b.val = a.val := by rw [Nat.xor_assoc,Nat.xor_self,Nat.xor_zero]
  apply Fin.ext
  simp only [xorByte,Fin.val_ofNat]
  rw [Nat.mod_eq_of_lt (show a.val ^^^ b.val < 256 from small),back]
  exact Nat.mod_eq_of_lt a.isLt

theorem zipWith_xor {first second : List Byte} (same : first.length = second.length) :
    List.zipWith xorByte (List.zipWith xorByte first second) second = first := by
  induction first generalizing second with
  | nil => rfl
  | cons a rest ih =>
    cases second with
    | nil => cases same
    | cons b rest' => simp [xorByte_xorByte,ih (Nat.succ.inj same)]

theorem strxor_strxor (a b : Block) : strxor (strxor a b) b = a :=
  Subtype.ext (zipWith_xor (a.2.trans b.2.symm))

-- A cipher to evaluate the model on.
def masking : Aes := .masking strxor strxor_strxor

def toBigEndian (width value : ℕ) : List Byte := (Bytes.littleEndian width value).reverse
def fromBigEndian (bytes : List Byte) : ℕ := Bytes.fromLittleEndian bytes.reverse

theorem toBigEndian_length (width value : ℕ) : (toBigEndian width value).length = width := by
  rw [toBigEndian,List.length_reverse,Bytes.littleEndian_length]

def removePadReversed : List Byte → Except SdmError (List Byte)
  | [] => .ok []
  | byte :: rest =>
    if byte = 0x80 then .ok rest.reverse
    else if byte ≠ 0 then .error (.runtimeError "Invalid padding")
    else removePadReversed rest

def removePad (pt : List Byte) : Except SdmError (List Byte) := removePadReversed pt.reverse

def nibbles (x : List Byte) : List ℕ := x.flatMap fun byte => [byte.val/16,byte.val%16]

-- The counter as a big-endian number of its own width, zero after the largest.
def incrCounter (r : List Byte) : List Byte :=
  let ctrIncr := fromBigEndian r + 1
  if 256^r.length ≤ ctrIncr then List.replicate r.length 0 else toBigEndian r.length ctrIncr

-- AES-ECB refuses what is not whole blocks.
def wholeBlocks : List (List Byte) → Except SdmError (List Block)
  | [] => .ok []
  | raw :: rest =>
    if full : raw.length = 16 then do
      let blocks ← wholeBlocks rest
      return ⟨raw,full⟩ :: blocks
    else .error .valueError

def joined (blocks : List Block) : List Byte := (blocks.map (·.1)).flatten

-- The field multiplications by 2 and by 4 in GF(2^128): one doubling and two.
def doubled (block : Block) : Block :=
  let value := 2*fromBigEndian block.1
  blockOf (toBigEndian 16 (if value < 2^128 then value else value ^^^ (2^128+0x87)))

structure Lrp where
  key : Block
  u : ℕ
  r : List Byte
  pad : Bool
  deriving DecidableEq

def Lrp.zeroCounter : List Byte := List.replicate 16 0

section Primitive
variable (aes : Aes)

-- The loop of algorithms 1 and 2.
def ladder (h : Block) : ℕ → List Block
  | 0 => []
  | count+1 => aes.encrypt h (filled 0xaa) :: ladder (aes.encrypt h (filled 0x55)) count

def generatePlaintexts (k : Block) : List Block := ladder aes (aes.encrypt k (filled 0x55)) 16
def generateUpdatedKeys (k : Block) : List Block := ladder aes (aes.encrypt k (filled 0xaa)) 4

-- Algorithm 3; a nibble always has a plaintext.
def evalLrp (p : List Block) (kp : Block) (x : List Byte) (final : Bool) : Block :=
  let y := (nibbles x).foldl (fun y nibble => aes.encrypt y (p[nibble]?.getD (filled 0))) kp
  if final then aes.encrypt y (filled 0) else y

namespace Lrp
variable (lrp : Lrp)

def p : List Block := generatePlaintexts aes lrp.key
def kp : Block := (generateUpdatedKeys aes lrp.key)[lrp.u]?.getD (filled 0)
def eval (x : List Byte) : Block := evalLrp aes (lrp.p aes) (lrp.kp aes) x true

-- What `encrypt` reads in blocks.
def plainStream (data : List Byte) : Except SdmError (List Byte) :=
  if lrp.pad then .ok (Blocks.pad 16 0x80 0 data)
  else if data.length%16 ≠ 0 then .error (.runtimeError "Parameter pt must have length multiple of AES block size.")
  else if data.length = 0 then .error (.runtimeError "Zero length pt not supported.")
  else .ok data

def encrypt (data : List Byte) : Except SdmError (Lrp × List Byte) := do
  let stream ← lrp.plainStream data
  let blocks ← wholeBlocks (blocksOf 16 stream)
  let run := counterRun (lrp.eval aes) incrCounter aes.encrypt lrp.r blocks
  return ({lrp with r := run.1},joined run.2)

-- What `decrypt` makes of the bytes it read.
def unpadded (pt : List Byte) : Except SdmError (List Byte) := if lrp.pad then removePad pt else .ok pt

def decrypt (data : List Byte) : Except SdmError (Lrp × List Byte) := do
  let blocks ← wholeBlocks (blocksOf 16 data)
  let run := counterRun (lrp.eval aes) incrCounter aes.decrypt lrp.r blocks
  let pt ← lrp.unpadded (joined run.2)
  return ({lrp with r := run.1},pt)

-- Every block but the last is full; the last is padded when it is not.
def cmac (data : List Byte) : Block :=
  let k1 := doubled (lrp.eval aes (filled 0).1)
  let k2 := doubled k1
  let blocks := blocksOf 16 data
  let y := blocks.dropLast.foldl (fun y x => lrp.eval aes (strxor (blockOf x) y).1) (filled 0)
  let x := blocks.getLastD []
  if x.length < 16 then lrp.eval aes (strxor (strxor (blockOf (x ++ [0x80])) y) k2).1
  else lrp.eval aes (strxor (strxor (blockOf x) y) k1).1

-- One object for a sequence of messages.
def encryptAll : Lrp → List (List Byte) → Except SdmError (Lrp × List (List Byte))
  | lrp, [] => .ok (lrp,[])
  | lrp, message :: rest => do
    let (moved,sent) ← lrp.encrypt aes message
    let (last,later) ← encryptAll moved rest
    return (last,sent :: later)

def decryptAll : Lrp → List (List Byte) → Except SdmError (Lrp × List (List Byte))
  | lrp, [] => .ok (lrp,[])
  | lrp, sent :: rest => do
    let (moved,message) ← lrp.decrypt aes sent
    let (last,later) ← decryptAll moved rest
    return (last,message :: later)

end Lrp
end Primitive
end FlaconVault.Verifier
