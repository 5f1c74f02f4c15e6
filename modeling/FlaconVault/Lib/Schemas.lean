import FlaconVault.Lib.JsonDicts
namespace FlaconVault.Schemas
open Json

-- Strings as sequences of UTF-16 code units.
def unitsOf (c : Char) : List ℕ :=
  if c.toNat < 0x10000 then [c.toNat] else [0xd800+(c.toNat-0x10000)/0x400,0xdc00+(c.toNat-0x10000)%0x400]

def utf16 (text : String) : List ℕ := text.toList.flatMap unitsOf

def units (text : String) : ℕ := (utf16 text).length

-- Schemas of a validator: the parsed value, or a refusal. An object keeps the keys of its schema only.
abbrev Schema := Json → Option Json

def string (check : String → Bool) : Schema
  | .str text => if check text then some (.str text) else none
  | _ => none

def number (check : Int → Bool) : Schema
  | .int value => if check value then some (.int value) else none
  | _ => none

def boolean : Schema
  | .bool value => some (.bool value)
  | _ => none

def nothing : Schema
  | .null => some .null
  | _ => none

def literal (text : String) : Schema := string (· == text)

def enumeration (names : List String) : Schema := string fun text => names.contains text

def integer : Schema := number fun _ => true

def between (low high : Int) : Schema := number fun value => decide (low ≤ value ∧ value ≤ high)

def union (schemas : List Schema) : Schema := fun value => schemas.findSome? fun schema => schema value

def nullable (schema : Schema) : Schema
  | .null => some .null
  | value => schema value

def array (schema : Schema) : Schema
  | .arr items => (items.mapM schema).map .arr
  | _ => none

def tuple (schemas : List Schema) : Schema
  | .arr items => if items.length = schemas.length then ((schemas.zip items).mapM fun entry : Schema × Json => entry.1 entry.2).map .arr else none
  | _ => none

def object (shape : List (String × Schema)) : Schema
  | .obj fields => (shape.mapM fun entry => ((get fields entry.1).bind entry.2).map (entry.1,·)).map .obj
  | _ => none

-- A value that a schema accepts as it is.
def Accepts (schema : Schema) (value : Json) : Prop := schema value = some value

theorem accepts_string {check : String → Bool} {text : String} : Accepts (string check) (.str text) ↔ check text = true := by
  unfold Accepts string
  split <;> simp_all

theorem accepts_number {check : Int → Bool} {value : Int} : Accepts (number check) (.int value) ↔ check value = true := by
  unfold Accepts number
  split <;> simp_all

theorem accepts_between {low high value : Int} : Accepts (between low high) (.int value) ↔ low ≤ value ∧ value ≤ high := by
  unfold between
  rw [accepts_number,decide_eq_true_eq]

theorem accepts_integer (value : Int) : Accepts integer (.int value) := rfl

theorem accepts_null (schema : Schema) : Accepts (nullable schema) .null := rfl

theorem accepts_nullable {schema : Schema} {value : Json} (accepted : Accepts schema value) : Accepts (nullable schema) value := by
  cases value with
  | null => rfl
  | _ => exact accepted

theorem mapM_some {α β : Type} {f : α → Option β} {g : α → β} {items : List α} (each : ∀ item ∈ items, f item = some (g item)) :
    items.mapM f = some (items.map g) := by
  induction items with
  | nil => rfl
  | cons first rest ih =>
    rw [List.mapM_cons,each first List.mem_cons_self,ih fun item inside => each item (List.mem_cons_of_mem first inside)]
    rfl

theorem mapM_none {α β : Type} {f : α → Option β} {items : List α} {item : α} (inside : item ∈ items) (refused : f item = none) :
    items.mapM f = none := by
  induction items with
  | nil => cases inside
  | cons first rest ih =>
    rw [List.mapM_cons]
    rcases List.mem_cons.mp inside with here | later
    · rw [← here,refused]
      rfl
    · rw [ih later]
      cases f first <;> rfl

theorem accepts_array {schema : Schema} {items : List Json} (each : ∀ item ∈ items, Accepts schema item) :
    Accepts (array schema) (.arr items) := by
  unfold Accepts array
  dsimp only
  rw [mapM_some (g := id) each]
  simp

theorem accepts_tuple {schemas : List Schema} {items : List Json} (each : List.Forall₂ Accepts schemas items) :
    Accepts (tuple schemas) (.arr items) := by
  unfold Accepts tuple
  dsimp only
  rw [if_pos each.length_eq.symm]
  have kept : (schemas.zip items).mapM (fun entry : Schema × Json => entry.1 entry.2) = some items := by
    induction each with
    | nil => rfl
    | cons first rest ih =>
      rw [List.zip_cons_cons,List.mapM_cons,ih]
      unfold Accepts at first
      simp [first]
  rw [kept]
  rfl

-- An object whose entries follow its schema is accepted, and one with a refused entry is not.
theorem accepts_object {shape : List (String × Schema)} {fields : List (String × Json)} (nodup : (fields.map Prod.fst).Nodup)
    (each : List.Forall₂ (fun entry field => entry.1 = field.1 ∧ Accepts entry.2 field.2) shape fields) :
    Accepts (object shape) (.obj fields) := by
  have lookup : ∀ field ∈ fields, get fields field.1 = some field.2 := fun field inside => (get_some nodup).mpr inside
  have kept : ∀ rest : List (String × Json), rest ⊆ fields → ∀ shape : List (String × Schema),
      List.Forall₂ (fun entry field => entry.1 = field.1 ∧ Accepts entry.2 field.2) shape rest →
      shape.mapM (fun entry => ((get fields entry.1).bind entry.2).map (entry.1,·)) = some rest := by
    intro rest inside shape each
    induction each with
    | nil => rfl
    | @cons entry field shape rest first _ ih =>
      obtain ⟨named,accepted⟩ := first
      unfold Accepts at accepted
      rw [List.mapM_cons,named,lookup field (inside List.mem_cons_self),ih fun other later => inside (List.mem_cons_of_mem field later)]
      simp [accepted]
  unfold Accepts object
  dsimp only
  rw [kept fields (List.Subset.refl _) shape each]
  rfl

theorem object_refuses {shape : List (String × Schema)} {fields : List (String × Json)} (key : String) {schema : Schema} {value : Json}
    (entry : (key,schema) ∈ shape) (found : get fields key = some value) (refused : schema value = none) :
    object shape (.obj fields) = none := by
  unfold object
  dsimp only
  rw [mapM_none entry]
  · rfl
  · simp [found,refused]

end FlaconVault.Schemas
