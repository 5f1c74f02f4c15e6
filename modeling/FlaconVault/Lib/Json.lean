import Mathlib
namespace FlaconVault

-- JSON values whose numbers are integers. An object lists its keys in the order they were set.
inductive Json where
  | null
  | bool (value : Bool)
  | int (value : Int)
  | str (value : String)
  | arr (items : List Json)
  | obj (fields : List (String × Json))

namespace Json

-- Text of a value. `gap` is the number of blanks after a comma or colon.
def hexChar (digit : ℕ) : Char := Char.ofNat (if digit < 10 then 48+digit else 87+digit)

def quoteChar (c : Char) : List Char :=
  if c = '\x22' then ['\x5c','\x22']
  else if c = '\x5c' then ['\x5c','\x5c']
  else if c = '\n' then ['\x5c','n']
  else if c = '\r' then ['\x5c','r']
  else if c = '\t' then ['\x5c','t']
  else if c = '\x08' then ['\x5c','b']
  else if c = '\x0c' then ['\x5c','f']
  else if c.toNat < 32 then ['\x5c','u','0','0',hexChar (c.toNat/16),hexChar (c.toNat%16)]
  else [c]

def quote (text : String) : List Char := '\x22' :: (text.toList.flatMap quoteChar ++ ['\x22'])

def decimal : Int → List Char
  | .ofNat value => Nat.toDigits 10 value
  | .negSucc value => '-' :: Nat.toDigits 10 (value+1)

def blanks (gap : ℕ) : List Char := List.replicate gap ' '

mutual
def write (gap : ℕ) : Json → List Char
  | .null => ['n','u','l','l']
  | .bool true => ['t','r','u','e']
  | .bool false => ['f','a','l','s','e']
  | .int value => decimal value
  | .str value => quote value
  | .arr [] => ['[',']']
  | .arr (item :: rest) => '[' :: (write gap item ++ writeMore gap rest)
  | .obj [] => ['\x7b','\x7d']
  | .obj (field :: rest) => '\x7b' :: (writeField gap field ++ writeMoreFields gap rest)
termination_by structural value => value

def writeMore (gap : ℕ) : List Json → List Char
  | [] => [']']
  | item :: rest => ',' :: (blanks gap ++ write gap item ++ writeMore gap rest)
termination_by structural items => items

def writeField (gap : ℕ) : String × Json → List Char
  | (key,value) => quote key ++ ':' :: (blanks gap ++ write gap value)
termination_by structural field => field

def writeMoreFields (gap : ℕ) : List (String × Json) → List Char
  | [] => ['\x7d']
  | field :: rest => ',' :: (blanks gap ++ writeField gap field ++ writeMoreFields gap rest)
termination_by structural fields => fields
end

-- Reading a text back.
def isBlank (c : Char) : Bool := c == ' ' || c == '\t' || c == '\n' || c == '\r'

def skip (text : List Char) : List Char := text.dropWhile isBlank

def hexValue (c : Char) : Option ℕ :=
  if 48 ≤ c.toNat ∧ c.toNat ≤ 57 then some (c.toNat-48)
  else if 97 ≤ c.toNat ∧ c.toNat ≤ 102 then some (c.toNat-87)
  else if 65 ≤ c.toNat ∧ c.toNat ≤ 70 then some (c.toNat-55)
  else none

def unescape (c : Char) : Option Char :=
  if c = '\x22' ∨ c = '\x5c' ∨ c = '/' then some c
  else if c = 'n' then some '\n'
  else if c = 'r' then some '\r'
  else if c = 't' then some '\t'
  else if c = 'b' then some '\x08'
  else if c = 'f' then some '\x0c'
  else none

-- A code unit that is no character of its own is not read.
def unescapeCode (a b c d : Char) : Option Char := do
  let code := 4096*(← hexValue a)+256*(← hexValue b)+16*(← hexValue c)+(← hexValue d)
  if code.isValidChar then some (Char.ofNat code) else none

-- The rest of a string after its opening quote, up to and including the closing one.
def readString : List Char → Option (List Char × List Char)
  | [] => none
  | '\x22' :: rest => some ([],rest)
  | '\x5c' :: 'u' :: a :: b :: c :: d :: rest => do
    let char ← unescapeCode a b c d
    let (text,rest) ← readString rest
    some (char :: text,rest)
  | '\x5c' :: c :: rest => do
    let char ← unescape c
    let (text,rest) ← readString rest
    some (char :: text,rest)
  | c :: rest => do
    let (text,rest) ← readString rest
    if c.toNat < 32 then none else some (c :: text,rest)

-- No digit follows a leading zero.
def readNat (text : List Char) : Option (ℕ × List Char) :=
  match text.takeWhile Char.isDigit,text.dropWhile Char.isDigit with
  | [],_ => none
  | '0' :: more,rest => some (0,more ++ rest)
  | digits,rest => some (Nat.ofDigitChars 10 digits 0,rest)

def readInt : List Char → Option (Int × List Char)
  | '-' :: text => (readNat text).map fun read => (-(read.1 : Int),read.2)
  | text => (readNat text).map fun read => ((read.1 : Int),read.2)

-- A key set twice keeps its place and takes the later value.
def setField (fields : List (String × Json)) (key : String) (value : Json) : List (String × Json) :=
  if key ∈ fields.map Prod.fst then fields.map fun field => if field.1 = key then (key,value) else field
  else fields ++ [(key,value)]

def dictOf (fields : List (String × Json)) : List (String × Json) :=
  fields.foldl (fun dict field => setField dict field.1 field.2) []

mutual
def read : ℕ → List Char → Option (Json × List Char)
  | 0,_ => none
  | fuel+1,text =>
    match text with
    | 'n' :: 'u' :: 'l' :: 'l' :: rest => some (.null,rest)
    | 't' :: 'r' :: 'u' :: 'e' :: rest => some (.bool true,rest)
    | 'f' :: 'a' :: 'l' :: 's' :: 'e' :: rest => some (.bool false,rest)
    | '\x22' :: rest => (readString rest).map fun read => (.str (String.ofList read.1),read.2)
    | '[' :: rest =>
      match skip rest with
      | ']' :: rest => some (.arr [],rest)
      | rest => do
        let (item,rest) ← read fuel rest
        let (more,rest) ← readMore fuel rest
        some (.arr (item :: more),rest)
    | '\x7b' :: rest =>
      match skip rest with
      | '\x7d' :: rest => some (.obj [],rest)
      | rest => do
        let (field,rest) ← readField fuel rest
        let (more,rest) ← readMoreFields fuel rest
        some (.obj (dictOf (field :: more)),rest)
    | text => (readInt text).map fun read => (.int read.1,read.2)

def readMore : ℕ → List Char → Option (List Json × List Char)
  | 0,_ => none
  | fuel+1,text =>
    match skip text with
    | ']' :: rest => some ([],rest)
    | ',' :: rest => do
      let (item,rest) ← read fuel (skip rest)
      let (more,rest) ← readMore fuel rest
      some (item :: more,rest)
    | _ => none

def readField : ℕ → List Char → Option ((String × Json) × List Char)
  | 0,_ => none
  | fuel+1,text =>
    match text with
    | '\x22' :: rest => do
      let (key,rest) ← readString rest
      match skip rest with
      | ':' :: rest => do
        let (value,rest) ← read fuel (skip rest)
        some ((String.ofList key,value),rest)
      | _ => none
    | _ => none

def readMoreFields : ℕ → List Char → Option (List (String × Json) × List Char)
  | 0,_ => none
  | fuel+1,text =>
    match skip text with
    | '\x7d' :: rest => some ([],rest)
    | ',' :: rest => do
      let (field,rest) ← readField fuel (skip rest)
      let (more,rest) ← readMoreFields fuel rest
      some (field :: more,rest)
    | _ => none
end

-- json.loads: one value, blanks around it.
def loads (text : List Char) : Option Json :=
  match read text.length (skip text) with
  | some (value,rest) => if skip rest = [] then some value else none
  | none => none

-- What is written is read back.
theorem hexValue_hexChar : ∀ digit < 16, hexValue (hexChar digit) = some digit := by decide

theorem readString_quoteChar (c : Char) (rest : List Char) :
    readString (quoteChar c ++ rest) = (readString rest).map fun read => (c :: read.1,read.2) := by
  have mapped (char : Char) : (do
      let (text,rest) ← readString rest
      some (char :: text,rest)) = (readString rest).map fun read => (char :: read.1,read.2) := by
    cases readString rest <;> rfl
  unfold quoteChar
  split
  · rename_i same
    subst same
    exact mapped _
  split
  · rename_i same
    subst same
    exact mapped _
  split
  · rename_i same
    subst same
    exact mapped _
  split
  · rename_i same
    subst same
    exact mapped _
  split
  · rename_i same
    subst same
    exact mapped _
  split
  · rename_i same
    subst same
    exact mapped _
  split
  · rename_i same
    subst same
    exact mapped _
  split
  · rename_i low
    have code : unescapeCode '0' '0' (hexChar (c.toNat/16)) (hexChar (c.toNat%16)) = some c := by
      have zero : hexValue '0' = some 0 := by decide
      have valid : c.toNat.isValidChar := c.valid
      have whole : 4096*0+256*0+16*(c.toNat/16)+c.toNat%16 = c.toNat := by omega
      simp only [unescapeCode,zero,hexValue_hexChar (c.toNat/16) (by omega),hexValue_hexChar (c.toNat%16) (by omega),
        Option.bind_eq_bind,Option.bind_some,whole,if_pos valid,Char.ofNat_toNat]
    simp only [List.cons_append,List.nil_append,readString,code,Option.bind_eq_bind,Option.bind_some]
    exact mapped c
  · rename_i mark slash _ _ _ _ _ high
    rw [List.singleton_append,readString.eq_def]
    split
    · contradiction
    · rename_i same
      exact absurd (List.cons.inj same).1 mark
    · rename_i same
      exact absurd (List.cons.inj same).1 slash
    · rename_i same
      exact absurd (List.cons.inj same).1 slash
    · rename_i head same
      obtain ⟨rfl,rfl⟩ := List.cons.inj same
      simp only [if_neg high]
      exact mapped c

theorem readString_quoted (text rest : List Char) : readString (text.flatMap quoteChar ++ '\x22' :: rest) = some (text,rest) := by
  induction text with
  | nil => rfl
  | cons c text ih =>
    rw [List.flatMap_cons,List.append_assoc,readString_quoteChar,ih]
    rfl

def startsWithDigit : List Char → Bool
  | [] => false
  | c :: _ => c.isDigit

theorem toDigits_head {value : ℕ} (positive : 0 < value) : ∃ digit more, Nat.toDigits 10 value = digit :: more ∧ digit ≠ '0' := by
  induction value using Nat.strong_induction_on with
  | h value ih =>
    by_cases small : value < 10
    · refine ⟨value.digitChar,[],Nat.toDigits_of_lt_base small,?_⟩
      intro zero
      exact absurd (Nat.digitChar_eq_zero.mp zero) (by omega)
    · obtain ⟨digit,more,starts,nonzero⟩ := ih (value/10) (by omega) (by omega)
      rw [Nat.toDigits_of_base_le (by decide) (not_lt.mp small),starts]
      exact ⟨digit,_,rfl,nonzero⟩

theorem readNat_digits (value : ℕ) {rest : List Char} (ends : startsWithDigit rest = false) :
    readNat (Nat.toDigits 10 value ++ rest) = some (value,rest) := by
  have digits : ∀ c ∈ Nat.toDigits 10 value, c.isDigit = true :=
    fun c inside => Nat.isDigit_of_mem_toDigits (by decide) (by decide) inside
  have stops : rest.takeWhile Char.isDigit = [] ∧ rest.dropWhile Char.isDigit = rest := by
    cases rest with
    | nil => exact ⟨rfl,rfl⟩
    | cons c more =>
      have : c.isDigit = false := ends
      simp [this]
  unfold readNat
  rw [List.takeWhile_append_of_pos digits,List.dropWhile_append_of_pos digits,stops.1,stops.2,List.append_nil]
  rcases Nat.eq_zero_or_pos value with zero | positive
  · subst zero
    rfl
  · obtain ⟨digit,more,starts,nonzero⟩ := toDigits_head positive
    have back : Nat.ofDigitChars 10 (digit :: more) 0 = value := starts ▸ Nat.ofDigitChars_ten_toDigits
    rw [starts]
    split
    · contradiction
    · rename_i same
      exact absurd (List.cons.inj same).1 nonzero
    · rename_i read _ _
      rw [back]

theorem decimal_head (value : Int) : ∃ c more, decimal value = c :: more ∧ (c = '-' ∨ c.isDigit = true) := by
  cases value with
  | ofNat value =>
    cases written : Nat.toDigits 10 value with
    | nil => exact absurd written Nat.toDigits_ne_nil
    | cons c more =>
      refine ⟨c,more,written,.inr (Nat.isDigit_of_mem_toDigits (b := 10) (n := value) (by decide) (by decide) ?_)⟩
      rw [written]
      exact List.mem_cons_self
  | negSucc value => exact ⟨'-',_,rfl,.inl rfl⟩

theorem readInt_decimal (value : Int) {rest : List Char} (ends : startsWithDigit rest = false) :
    readInt (decimal value ++ rest) = some (value,rest) := by
  cases value with
  | ofNat value =>
    have read := readNat_digits value ends
    obtain ⟨c,more,written,kind⟩ := decimal_head (.ofNat value)
    have plain : c ≠ '-' := by
      intro minus
      subst minus
      have inside : '-' ∈ Nat.toDigits 10 value := by
        have : Nat.toDigits 10 value = '-' :: more := written
        rw [this]
        exact List.mem_cons_self
      exact absurd (Nat.isDigit_of_mem_toDigits (by decide) (by decide) inside) (by decide)
    have digits : Nat.toDigits 10 value = c :: more := written
    rw [digits] at read
    rw [written]
    unfold readInt
    split
    · rename_i same
      exact absurd (List.cons.inj same).1 plain
    · rw [read]
      rfl
  | negSucc value =>
    have read := readNat_digits (value+1) ends
    simp only [decimal,List.cons_append,readInt,read,Option.map_some,Option.some.injEq,Prod.mk.injEq,and_true]
    omega

-- No object of the value has a key twice.
mutual
def distinct : Json → Bool
  | .arr items => distinctAll items
  | .obj fields => decide (fields.map Prod.fst).Nodup && distinctFields fields
  | _ => true
termination_by structural value => value

def distinctAll : List Json → Bool
  | [] => true
  | item :: rest => distinct item && distinctAll rest
termination_by structural items => items

def distinctField : String × Json → Bool
  | (_,value) => distinct value
termination_by structural field => field

def distinctFields : List (String × Json) → Bool
  | [] => true
  | field :: rest => distinctField field && distinctFields rest
termination_by structural fields => fields
end

theorem setField_fresh {fields : List (String × Json)} {key : String} (fresh : key ∉ fields.map Prod.fst) (value : Json) :
    setField fields key value = fields ++ [(key,value)] := if_neg fresh

theorem dictOf_nodup {fields : List (String × Json)} (nodup : (fields.map Prod.fst).Nodup) : dictOf fields = fields := by
  have general : ∀ rest known : List (String × Json), ((known ++ rest).map Prod.fst).Nodup →
      rest.foldl (fun dict field => setField dict field.1 field.2) known = known ++ rest := by
    intro rest
    induction rest with
    | nil => simp
    | cons field rest ih =>
      intro known nodup
      have fresh : field.1 ∉ known.map Prod.fst := by
        rw [List.map_append,List.map_cons] at nodup
        intro inside
        exact (List.disjoint_of_nodup_append nodup) inside List.mem_cons_self
      rw [List.foldl_cons,setField_fresh fresh,ih (known ++ [field]) (by simpa using nodup),List.append_assoc]
      rfl
  exact general fields [] (by simpa using nodup)

theorem skip_solid {c : Char} (solid : isBlank c = false) (rest : List Char) : skip (c :: rest) = c :: rest := by
  simp [skip,solid]

theorem skip_blanks (gap : ℕ) (text : List Char) : skip (blanks gap ++ text) = skip text :=
  List.dropWhile_append_of_pos fun _ inside => (List.eq_of_mem_replicate inside) ▸ rfl

theorem isDigit_solid {c : Char} (digit : c = '-' ∨ c.isDigit = true) : isBlank c = false ∧ c ≠ ']' := by
  rcases digit with minus | digit
  · subst minus
    decide
  · constructor
    · by_contra blank
      simp only [isBlank,Bool.not_eq_false,Bool.or_eq_true,beq_iff_eq] at blank
      rcases blank with ((same | same) | same) | same <;> subst same <;> revert digit <;> decide
    · intro same
      subst same
      revert digit
      decide

theorem write_head (gap : ℕ) (value : Json) : ∃ c more, write gap value = c :: more ∧ isBlank c = false ∧ c ≠ ']' := by
  cases value with
  | null => exact ⟨_,_,rfl,by decide⟩
  | bool value => cases value <;> exact ⟨_,_,rfl,by decide⟩
  | int value =>
    obtain ⟨c,more,written,kind⟩ := decimal_head value
    exact ⟨c,more,written,isDigit_solid kind⟩
  | str value => exact ⟨_,_,rfl,by decide⟩
  | arr items => cases items <;> exact ⟨_,_,rfl,by decide⟩
  | obj fields => cases fields <;> exact ⟨_,_,rfl,by decide⟩

theorem skip_write (gap : ℕ) (value : Json) (rest : List Char) : skip (write gap value ++ rest) = write gap value ++ rest := by
  obtain ⟨c,more,written,solid,_⟩ := write_head gap value
  rw [written]
  exact skip_solid solid _

theorem writeField_head (gap : ℕ) (field : String × Json) : ∃ text, writeField gap field = '\x22' :: text := by
  cases field
  exact ⟨_,rfl⟩

theorem skip_writeField (gap : ℕ) (field : String × Json) (rest : List Char) :
    skip (writeField gap field ++ rest) = writeField gap field ++ rest := by
  obtain ⟨text,written⟩ := writeField_head gap field
  rw [written]
  exact skip_solid (by decide) _

theorem read_decimal (value : Int) (fuel : ℕ) {rest : List Char} (ends : startsWithDigit rest = false) :
    read (fuel+1) (decimal value ++ rest) = some (.int value,rest) := by
  have back := readInt_decimal value ends
  obtain ⟨c,more,written,kind⟩ := decimal_head value
  have apart : ∀ other : Char, (other = '-' ∨ other.isDigit = true) → other ≠ 'n' ∧ other ≠ 't' ∧ other ≠ 'f' ∧ other ≠ '\x22' ∧
      other ≠ '[' ∧ other ≠ '\x7b' := by
    intro other kind
    refine ⟨?_,?_,?_,?_,?_,?_⟩ <;> (intro same; subst same; revert kind; decide)
  obtain ⟨n,t,f,q,a,o⟩ := apart c kind
  rw [written] at back ⊢
  unfold read
  split
  · rename_i same
    exact absurd (List.cons.inj same).1 n
  · rename_i same
    exact absurd (List.cons.inj same).1 t
  · rename_i same
    exact absurd (List.cons.inj same).1 f
  · rename_i same
    exact absurd (List.cons.inj same).1 q
  · rename_i same
    exact absurd (List.cons.inj same).1 a
  · rename_i same
    exact absurd (List.cons.inj same).1 o
  · rw [back]
    rfl

theorem writeMore_ends (gap : ℕ) (items : List Json) (rest : List Char) : startsWithDigit (writeMore gap items ++ rest) = false := by
  cases items <;> rfl

theorem writeMoreFields_ends (gap : ℕ) (fields : List (String × Json)) (rest : List Char) :
    startsWithDigit (writeMoreFields gap fields ++ rest) = false := by
  cases fields <;> rfl

mutual
theorem read_write (gap : ℕ) : ∀ (value : Json) (fuel : ℕ) (rest : List Char), distinct value = true →
    (write gap value).length ≤ fuel → startsWithDigit rest = false → read fuel (write gap value ++ rest) = some (value,rest)
  | .null,fuel+1,rest,_,_,_ => rfl
  | .bool true,fuel+1,rest,_,_,_ => rfl
  | .bool false,fuel+1,rest,_,_,_ => rfl
  | .int value,fuel+1,rest,_,_,ends => read_decimal value fuel ends
  | .str value,fuel+1,rest,_,_,_ => by
    have back := readString_quoted value.toList rest
    simp only [write,quote,List.cons_append,List.append_assoc,List.nil_append,read,back,Option.map_some,String.ofList_toList]
  | .arr [],fuel+1,rest,_,_,_ => rfl
  | .arr (item :: more),fuel+1,rest,apart,enough,_ => by
    simp only [distinct,distinctAll,Bool.and_eq_true] at apart
    simp only [write,List.length_cons,List.length_append] at enough
    have first := read_write gap item fuel (writeMore gap more ++ rest) apart.1 (by omega) (writeMore_ends gap more rest)
    have others := readMore_write gap more fuel rest apart.2 (by omega)
    obtain ⟨c,text,written,solid,open_list⟩ := write_head gap item
    simp only [write,List.cons_append,List.append_assoc,read]
    rw [written] at first ⊢
    rw [List.cons_append] at first ⊢
    rw [skip_solid solid]
    split
    · rename_i same
      exact absurd (List.cons.inj same).1 open_list
    · rw [first]
      simp only [Option.bind_eq_bind,Option.bind_some,others]
  | .obj [],fuel+1,rest,_,_,_ => rfl
  | .obj (field :: more),fuel+1,rest,apart,enough,_ => by
    simp only [distinct,distinctFields,Bool.and_eq_true,decide_eq_true_eq] at apart
    simp only [write,List.length_cons,List.length_append] at enough
    have first := readField_write gap field fuel (writeMoreFields gap more ++ rest) apart.2.1 (by omega) (writeMoreFields_ends gap more rest)
    have others := readMoreFields_write gap more fuel rest apart.2.2 (by omega)
    obtain ⟨text,written⟩ := writeField_head gap field
    simp only [write,List.cons_append,List.append_assoc,read]
    rw [written] at first ⊢
    rw [List.cons_append] at first ⊢
    rw [skip_solid (by decide)]
    split
    · rename_i same
      exact absurd (List.cons.inj same).1 (by decide)
    · rw [first]
      simp only [Option.bind_eq_bind,Option.bind_some,others,dictOf_nodup apart.1]
  | value,0,rest,_,enough,_ => by
    obtain ⟨c,text,written,_⟩ := write_head gap value
    simp [written] at enough

theorem readMore_write (gap : ℕ) : ∀ (items : List Json) (fuel : ℕ) (rest : List Char), distinctAll items = true →
    (writeMore gap items).length ≤ fuel → readMore fuel (writeMore gap items ++ rest) = some (items,rest)
  | [],fuel+1,rest,_,_ => rfl
  | item :: more,fuel+1,rest,apart,enough => by
    simp only [distinctAll,Bool.and_eq_true] at apart
    simp only [writeMore,List.length_cons,List.length_append] at enough
    have first := read_write gap item fuel (writeMore gap more ++ rest) apart.1 (by omega) (writeMore_ends gap more rest)
    have others := readMore_write gap more fuel rest apart.2 (by omega)
    simp only [writeMore,List.cons_append,List.append_assoc,readMore]
    rw [skip_solid (by decide)]
    simp only [skip_blanks,skip_write,first,Option.bind_eq_bind,Option.bind_some,others]
  | [],0,rest,_,enough => by simp [writeMore] at enough
  | _ :: _,0,rest,_,enough => by simp [writeMore] at enough

theorem readField_write (gap : ℕ) : ∀ (field : String × Json) (fuel : ℕ) (rest : List Char), distinctField field = true →
    (writeField gap field).length ≤ fuel → startsWithDigit rest = false →
    readField fuel (writeField gap field ++ rest) = some (field,rest)
  | (key,value),fuel+1,rest,apart,enough,ends => by
    simp only [writeField,quote,List.length_cons,List.length_append] at enough
    have back := readString_quoted key.toList (':' :: (blanks gap ++ (write gap value ++ rest)))
    have first := read_write gap value fuel rest apart (by omega) ends
    simp only [writeField,quote,List.cons_append,List.append_assoc,List.nil_append,readField,back,Option.bind_eq_bind,Option.bind_some]
    rw [skip_solid (by decide)]
    simp only [skip_blanks,skip_write,first,Option.bind_some,String.ofList_toList]
  | (key,value),0,rest,_,enough,_ => by simp [writeField,quote] at enough

theorem readMoreFields_write (gap : ℕ) : ∀ (fields : List (String × Json)) (fuel : ℕ) (rest : List Char), distinctFields fields = true →
    (writeMoreFields gap fields).length ≤ fuel → readMoreFields fuel (writeMoreFields gap fields ++ rest) = some (fields,rest)
  | [],fuel+1,rest,_,_ => rfl
  | field :: more,fuel+1,rest,apart,enough => by
    simp only [distinctFields,Bool.and_eq_true] at apart
    simp only [writeMoreFields,List.length_cons,List.length_append] at enough
    have first := readField_write gap field fuel (writeMoreFields gap more ++ rest) apart.1 (by omega) (writeMoreFields_ends gap more rest)
    have others := readMoreFields_write gap more fuel rest apart.2 (by omega)
    simp only [writeMoreFields,List.cons_append,List.append_assoc,readMoreFields]
    rw [skip_solid (by decide)]
    simp only [skip_blanks,skip_writeField,first,Option.bind_eq_bind,Option.bind_some,others]
  | [],0,rest,_,enough => by simp [writeMoreFields] at enough
  | _ :: _,0,rest,_,enough => by simp [writeMoreFields] at enough
end

theorem loads_write {gap : ℕ} {value : Json} (apart : distinct value = true) : loads (write gap value) = some value := by
  have back := read_write gap value (write gap value).length [] apart le_rfl rfl
  have whole := skip_write gap value []
  rw [List.append_nil] at back whole
  unfold loads
  rw [whole,back]
  rfl

end Json
end FlaconVault
