import FlaconVault.Lib.Schemas
namespace FlaconVault.Web
open Json Schemas

-- The canonical text as the web client renders it. A number's text is JavaScript's own; an integer below 2^53 is exact and
-- spelled in decimal digits.
structure NumberText where
  text : Int → List Char
  exact : ∀ value : Int, value.natAbs < 2^53 → text value = decimal value

def NumberText.sample : NumberText := ⟨decimal,fun _ _ => rfl⟩

-- JSON.stringify of a string.
def unicodeEscape (c : Char) : List Char :=
  let code := c.toNat
  ['\x5c','u',hexChar (code/0x1000%16),hexChar (code/0x100%16),hexChar (code/0x10%16),hexChar (code%16)]

def stringifyChar (c : Char) : List Char :=
  match c with
  | '\x08' => ['\x5c','b']
  | '\t' => ['\x5c','t']
  | '\n' => ['\x5c','n']
  | '\x0c' => ['\x5c','f']
  | '\r' => ['\x5c','r']
  | '\x22' => ['\x5c','\x22']
  | '\x5c' => ['\x5c','\x5c']
  | c => if c.toNat < 0x20 then unicodeEscape c else [c]

def stringify (text : String) : List Char := ['\x22'] ++ text.toList.flatMap stringifyChar ++ ['\x22']

section rendered
variable (numbers : NumberText)

mutual
def canonicalize : Json → List Char
  | .null => "null".toList
  | .bool value => if value then "true".toList else "false".toList
  | .int value => numbers.text value
  | .str value => stringify value
  | .arr items => ['['] ++ List.intercalate [','] (canonicalizeItems items) ++ [']']
  | .obj fields =>
    let keys := (canonicalizeFields fields).insertionSort fun a b => utf16 a.1 ≤ utf16 b.1
    ['\x7b'] ++ List.intercalate [','] (keys.map fun entry => stringify entry.1 ++ [':'] ++ entry.2) ++ ['\x7d']
termination_by structural value => value

def canonicalizeItems : List Json → List (List Char)
  | [] => []
  | item :: rest => canonicalize item :: canonicalizeItems rest
termination_by structural items => items

def canonicalizeField : String × Json → String × List Char
  | (key,value) => (key,canonicalize value)
termination_by structural field => field

def canonicalizeFields : List (String × Json) → List (String × List Char)
  | [] => []
  | field :: rest => canonicalizeField field :: canonicalizeFields rest
termination_by structural fields => fields
end

end rendered

-- Both sides escape the same characters.
theorem stringifyChar_quoteChar (c : Char) : stringifyChar c = quoteChar c := by
  unfold stringifyChar
  split
  · rfl
  · rfl
  · rfl
  · rfl
  · rfl
  · rfl
  · rfl
  · rename_i backspace tab line feed carriage mark slash
    unfold quoteChar
    rw [if_neg mark,if_neg slash,if_neg line,if_neg carriage,if_neg tab,if_neg backspace,if_neg feed]
    by_cases low : c.toNat < 32
    · rw [if_pos low,if_pos low]
      unfold unicodeEscape
      have first : c.toNat/0x1000%16 = 0 := by omega
      have second : c.toNat/0x100%16 = 0 := by omega
      have third : c.toNat/0x10%16 = c.toNat/16 := by omega
      dsimp only
      rw [first,second,third]
      rfl
    · rw [if_neg low,if_neg low]

theorem stringify_quote (text : String) : stringify text = quote text := by
  unfold stringify quote
  rw [List.append_assoc]
  have each : stringifyChar = quoteChar := funext stringifyChar_quoteChar
  rw [each]
  rfl

-- Values whose numbers are exact and whose keys have no character outside the basic plane.
def basic (key : String) : Bool := key.toList.all fun c => decide (c.toNat < 0x10000)

mutual
def plain : Json → Bool
  | .int value => decide (value.natAbs < 2^53)
  | .arr items => plainAll items
  | .obj fields => plainFields fields
  | _ => true
termination_by structural value => value

def plainAll : List Json → Bool
  | [] => true
  | item :: rest => plain item && plainAll rest
termination_by structural items => items

def plainField : String × Json → Bool
  | (key,value) => basic key && plain value
termination_by structural field => field

def plainFields : List (String × Json) → Bool
  | [] => true
  | field :: rest => plainField field && plainFields rest
termination_by structural fields => fields
end

theorem utf16_basic {text : String} (is_basic : basic text = true) : utf16 text = text.toList.map Char.toNat := by
  unfold basic at is_basic
  rw [List.all_eq_true] at is_basic
  unfold utf16
  rw [List.map_eq_flatMap]
  refine List.flatMap_congr ?_
  intro c inside
  have low := of_decide_eq_true (is_basic c inside)
  unfold unitsOf
  rw [if_pos low]

-- On such keys the order of the code units is the order of the characters.
theorem toNat_lt (first second : List Char) : first.map Char.toNat < second.map Char.toNat ↔ first < second := by
  induction first generalizing second with
  | nil => cases second <;> simp
  | cons c rest ih =>
    cases second with
    | nil => simp
    | cons d more =>
      have order : c.toNat < d.toNat ↔ c < d := Iff.rfl
      have same : c.toNat = d.toNat ↔ c = d := ⟨fun equal => Char.toNat_inj.mp equal,congrArg Char.toNat⟩
      rw [List.map_cons,List.map_cons,List.cons_lt_cons_iff,List.cons_lt_cons_iff,ih more,order,same]

theorem utf16_le {first second : String} (is_basic : basic first = true) (is_basic' : basic second = true) :
    utf16 first ≤ utf16 second ↔ first ≤ second := by
  rw [utf16_basic is_basic,utf16_basic is_basic',← not_lt,toNat_lt,← String.lt_iff_toList_lt,not_lt]

theorem intercalate_flatMap (first : List Char) (rest : List (List Char)) :
    List.intercalate [','] (first :: rest) = first ++ rest.flatMap fun text => ',' :: text := by
  induction rest generalizing first with
  | nil => simp
  | cons second rest ih =>
    rw [List.intercalate_cons_cons,ih second]
    simp

theorem writeMore_flatMap (items : List Json) : writeMore 0 items = (items.flatMap fun item => ',' :: write 0 item) ++ [']'] := by
  induction items with
  | nil => rfl
  | cons item rest ih =>
    rw [writeMore,ih]
    simp [blanks]

theorem write_arr (items : List Json) : write 0 (.arr items) = ['['] ++ List.intercalate [','] (items.map (write 0)) ++ [']'] := by
  cases items with
  | nil => rfl
  | cons item rest =>
    rw [write,List.map_cons,intercalate_flatMap,writeMore_flatMap]
    simp [List.flatMap_map]

theorem writeField_eq (field : String × Json) : writeField 0 field = quote field.1 ++ [':'] ++ write 0 field.2 := by
  cases field
  simp [writeField,blanks]

theorem writeMoreFields_flatMap (fields : List (String × Json)) :
    writeMoreFields 0 fields = (fields.flatMap fun field => ',' :: writeField 0 field) ++ ['\x7d'] := by
  induction fields with
  | nil => rfl
  | cons field rest ih =>
    rw [writeMoreFields,ih]
    simp [blanks]

theorem write_obj (fields : List (String × Json)) :
    write 0 (.obj fields) = ['\x7b'] ++ List.intercalate [','] (fields.map (writeField 0)) ++ ['\x7d'] := by
  cases fields with
  | nil => rfl
  | cons field rest =>
    rw [write,List.map_cons,intercalate_flatMap,writeMoreFields_flatMap]
    simp [List.flatMap_map]

section rendered
variable (numbers : NumberText)

theorem plainFields_basic {fields : List (String × Json)} (is_plain : plainFields fields = true) :
    ∀ field ∈ fields, basic field.1 = true := by
  induction fields with
  | nil => simp
  | cons field rest ih =>
    obtain ⟨key,value⟩ := field
    simp only [plainFields,plainField,Bool.and_eq_true] at is_plain
    intro other inside
    rcases List.mem_cons.mp inside with here | later
    · exact here ▸ is_plain.1.1
    · exact ih is_plain.2 other later

-- The two renderings agree on such values.
mutual
theorem canonicalize_plain : ∀ value : Json, plain value = true → canonicalize numbers value = write 0 (sorted value)
  | .null,_ => rfl
  | .bool true,_ => rfl
  | .bool false,_ => rfl
  | .int value,is_plain => numbers.exact value (of_decide_eq_true is_plain)
  | .str value,_ => stringify_quote value
  | .arr items,is_plain => by
    rw [canonicalize,sorted,write_arr,canonicalizeItems_plain items is_plain,sortedItems_eq,List.map_map]
    rfl
  | .obj fields,is_plain => by
    have keys := plainFields_basic is_plain
    have moved : (canonicalizeFields numbers fields).insertionSort (fun a b => utf16 a.1 ≤ utf16 b.1) =
        (ordered (sortedFields fields)).map fun field => (field.1,write 0 field.2) := by
      unfold ordered
      rw [canonicalizeFields_plain fields is_plain,List.map_insertionSort (fun a b : String × Json => a.1 ≤ b.1) fun a b : String × List Char => utf16 a.1 ≤ utf16 b.1]
      intro first inside second inside'
      rw [sortedFields_eq] at inside inside'
      obtain ⟨field,there,rfl⟩ := List.mem_map.mp inside
      obtain ⟨field',there',rfl⟩ := List.mem_map.mp inside'
      exact (utf16_le (keys field there) (keys field' there')).symm
    rw [canonicalize,sorted,write_obj]
    rw [moved,List.map_map]
    congr 3
    refine List.map_congr_left ?_
    intro field _
    rw [writeField_eq,← stringify_quote]
    rfl

theorem canonicalizeItems_plain : ∀ items : List Json, plainAll items = true →
    canonicalizeItems numbers items = items.map fun item => write 0 (sorted item)
  | [],_ => rfl
  | item :: rest,is_plain => by
    simp only [plainAll,Bool.and_eq_true] at is_plain
    rw [canonicalizeItems,canonicalize_plain item is_plain.1,canonicalizeItems_plain rest is_plain.2]
    rfl

theorem canonicalizeField_plain : ∀ field : String × Json, plainField field = true →
    canonicalizeField numbers field = (field.1,write 0 (sorted field.2))
  | (key,value),is_plain => by
    simp only [plainField,Bool.and_eq_true] at is_plain
    rw [canonicalizeField,canonicalize_plain value is_plain.2]

theorem canonicalizeFields_plain : ∀ fields : List (String × Json), plainFields fields = true →
    canonicalizeFields numbers fields = (sortedFields fields).map fun field => (field.1,write 0 field.2)
  | [],_ => rfl
  | field :: rest,is_plain => by
    simp only [plainFields,Bool.and_eq_true] at is_plain
    rw [canonicalizeFields,canonicalizeField_plain field is_plain.1,canonicalizeFields_plain rest is_plain.2,sortedFields,
      sortedField_eq]
    rfl
end

end rendered
end FlaconVault.Web
