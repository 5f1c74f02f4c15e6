import FlaconVault.Lib.Bytes
namespace FlaconVault.PyText

-- Python's text functions on a string's characters.
def isSpace (c : Char) : Bool :=
  let code := c.toNat
  (9 ≤ code ∧ code ≤ 13) ∨ (28 ≤ code ∧ code ≤ 32) ∨ code = 0x85 ∨ code = 0xa0 ∨ code = 0x1680 ∨
    (0x2000 ≤ code ∧ code ≤ 0x200a) ∨ code = 0x2028 ∨ code = 0x2029 ∨ code = 0x202f ∨ code = 0x205f ∨ code = 0x3000

def strip (text : List Char) : List Char := ((text.dropWhile isSpace).reverse.dropWhile isSpace).reverse

def stripChar (c : Char) (text : List Char) : List Char := ((text.dropWhile (· == c)).reverse.dropWhile (· == c)).reverse

def removePrefix (start text : List Char) : List Char := if start.isPrefixOf text then text.drop start.length else text

def isAsciiSpace (c : Char) : Bool := (9 ≤ c.toNat ∧ c.toNat ≤ 13) ∨ c.toNat = 32

def hexDigit (c : Char) : Option ℕ :=
  let code := c.toNat
  if 48 ≤ code ∧ code ≤ 57 then some (code-48)
  else if 97 ≤ code ∧ code ≤ 102 then some (code-87)
  else if 65 ≤ code ∧ code ≤ 70 then some (code-55)
  else none

-- bytes.fromhex: two digits a byte, white space allowed between bytes.
def fromHex : List Char → Option (List Byte)
  | [] => some []
  | [c] => if isAsciiSpace c then some [] else none
  | c :: d :: rest =>
    if isAsciiSpace c then fromHex (d :: rest)
    else do
      let high ← hexDigit c
      let low ← hexDigit d
      let bytes ← fromHex rest
      return Fin.ofNat 256 (16*high+low) :: bytes

-- The zeros of the scripts that have decimal digits in Unicode 15, which Python 3.12 follows.
def decimalZeros : List ℕ :=
  [0x660,0x6f0,0x7c0,0x966,0x9e6,0xa66,0xae6,0xb66,0xbe6,0xc66,0xce6,0xd66,0xde6,0xe50,0xed0,0xf20,0x1040,0x1090,0x17e0,
   0x1810,0x1946,0x19d0,0x1a80,0x1a90,0x1b50,0x1bb0,0x1c40,0x1c50,0xa620,0xa8d0,0xa900,0xa9d0,0xa9f0,0xaa50,0xabf0,0xff10,
   0x104a0,0x10d30,0x11066,0x110f0,0x11136,0x111d0,0x112f0,0x11450,0x114d0,0x11650,0x116c0,0x11730,0x118e0,0x11950,0x11c50,
   0x11d50,0x11da0,0x11f50,0x16a60,0x16ac0,0x16b50,0x1d7ce,0x1d7d8,0x1d7e2,0x1d7ec,0x1d7f6,0x1e140,0x1e2f0,0x1e4f0,0x1e950,0x1fbf0]

-- int() first turns decimal digits of every script and white space beyond ASCII into ASCII.
def toAscii (c : Char) : Char :=
  if c.toNat < 128 then c
  else if isSpace c then ' '
  else match decimalZeros.find? fun first => first ≤ c.toNat ∧ c.toNat < first+10 with
    | some first => Char.ofNat (48+(c.toNat-first))
    | none => '?'

-- Digits that follow a digit, single underscores between them allowed.
def moreHexDigits : List Char → ℕ → Option ℕ
  | [], read => some read
  | [c], read => (hexDigit c).map (16*read + ·)
  | c :: d :: rest, read =>
    if c = '_' then do moreHexDigits rest (16*read + (← hexDigit d))
    else do moreHexDigits (d :: rest) (16*read + (← hexDigit c))

def natBase16 (text : List Char) : Option ℕ :=
  let digits := match text with
    | '0' :: 'x' :: '_' :: rest | '0' :: 'X' :: '_' :: rest => rest
    | '0' :: 'x' :: rest | '0' :: 'X' :: rest => rest
    | _ => text
  match digits with
  | [] => none
  | c :: rest => (hexDigit c).bind (moreHexDigits rest)

-- int(text, 16).
def intBase16 (text : List Char) : Option Int :=
  let ascii := text.map toAscii
  let trimmed := ((ascii.dropWhile isAsciiSpace).reverse.dropWhile isAsciiSpace).reverse
  match trimmed with
  | '-' :: digits => (natBase16 digits).map fun value => -(value : Int)
  | '+' :: digits => (natBase16 digits).map fun value => (value : Int)
  | digits => (natBase16 digits).map fun value => (value : Int)

example : fromHex "04 a1B2".toList = some [0x04,0xa1,0xb2] := by decide
example : intBase16 "0x_1f".toList = some 31 := by decide

end FlaconVault.PyText
