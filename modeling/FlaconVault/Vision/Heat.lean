import FlaconVault.Verifier.Grades
namespace FlaconVault.Vision
open Verifier

-- The heat verdict of the seal camera.
def CONFIDENCE_THRESHOLD : ℚ := 17/20

-- The 40 °C field.
def HEAT_DECISIVE_INDEX : ℕ := 4

-- What the verdict reads of a field and of its place on the card.
structure FieldReading where
  level : ℕ
  confidence : ℚ
  glare : Bool
  deriving DecidableEq

structure FieldLayout where
  tempC : ℚ
  decisive : Bool
  deriving DecidableEq

structure HeatVerdict where
  heat : ℕ
  heatLevels : List ℕ
  confidence : ℚ
  consistent : Bool
  glare : Bool
  deriving DecidableEq

def isDecided (indicator : ℕ) : Bool := indicator == Indicator.INTACT || indicator == Indicator.TRIGGERED

structure Shown where
  t : ℚ
  level : ℕ
  sure : Bool

-- The fields without glare; a place of the layout without a reading has no level either.
def shownFields (fields : List FieldReading) (layout : List FieldLayout) : List Shown :=
  layout.zipIdx.filterMap fun (place,i) =>
    match fields[i]? with
    | none => none
    | some field => if field.glare then none else some ⟨place.tempC,field.level,decide (field.confidence ≥ CONFIDENCE_THRESHOLD)⟩

def heatFieldsConsistent (fields : List FieldReading) (layout : List FieldLayout) : Bool :=
  let f := shownFields fields layout
  !f.any fun cool => f.any fun hot => decide (cool.t < hot.t) && cool.level == 0 && hot.level == 1 && (cool.sure || hot.sure)

def decisiveIndex (layout : List FieldLayout) : ℕ := (layout.findIdx? (·.decisive)).getD HEAT_DECISIVE_INDEX

-- What the decisive field measures; `none` is the TypeError of a decisive field that was not read.
def measure (usable : Bool) (decisive : Option FieldReading) : Option ℕ :=
  if usable then decisive.map fun f => if f.glare ∨ f.confidence < CONFIDENCE_THRESHOLD then Indicator.UNREADABLE else f.level
  else some Indicator.UNREADABLE

-- The level of one field, `none` inside where glare hides it; `none` outside is the TypeError of a place the layout lacks.
def fieldLevel (layout : List FieldLayout) (d measured : ℕ) (f : FieldReading) (i : ℕ) : Option (Option ℕ) :=
  if f.glare = false then some (some f.level)
  else if i = d then some none
  else match layout[i]?, layout[d]? with
    | some place, some decisive =>
      let hotter := place.tempC > decisive.tempC
      if hotter ∧ measured = Indicator.INTACT then some (some 0)
      else if ¬hotter ∧ measured = Indicator.TRIGGERED then some (some 1)
      else some none
    | _, _ => none

def heatVerdict (fields : List FieldReading) (layout : List FieldLayout) (wbOk : Bool) : Option HeatVerdict := do
  let d := decisiveIndex layout
  let decisive := fields[d]?
  let consistent := heatFieldsConsistent fields layout
  let usable := wbOk && consistent
  let measured ← measure usable decisive
  let levels ← fields.zipIdx.mapM fun entry => fieldLevel layout d measured entry.1 entry.2
  let glare := usable && (decisive.any (·.glare) || isDecided measured && levels.any (·.isNone))
  let heat := if glare then Indicator.UNREADABLE else measured
  some {
    heat := heat
    heatLevels := if isDecided heat then levels.map (·.getD 0) else List.replicate 6 0
    confidence := if usable && !glare then (decisive.map (·.confidence)).getD 0 else 0
    consistent := consistent
    glare := glare}

-- What a strip can show: it is irreversible, and a field triggers only when every cooler one has.
structure Strip (layout : List FieldLayout) where
  levels : List ℕ
  each : levels.length = layout.length
  binary : ∀ level ∈ levels, level = 0 ∨ level = 1
  coolFirst : ∀ cool ∈ layout.zip levels, ∀ hot ∈ layout.zip levels, cool.1.tempC < hot.1.tempC → hot.2 = 1 → cool.2 = 1

theorem mem_zip_of_getElem? {α β : Type} {items : List α} {others : List β} {i : ℕ} {item : α} {other : β}
    (here : items[i]? = some item) (there : others[i]? = some other) : (item,other) ∈ items.zip others := by
  apply List.mem_of_getElem? (i := i)
  rw [List.getElem?_zip_eq_some]
  exact ⟨here,there⟩

theorem mapM_each {α β : Type} {f : α → Option β} {items : List α} {out : List β} (done : items.mapM f = some out) :
    out.length = items.length ∧ ∀ (i : ℕ) (item : α), items[i]? = some item → f item = out[i]? := by
  induction items generalizing out with
  | nil =>
    have nothing : out = [] := (Option.some.inj done).symm
    rw [nothing]
    exact ⟨rfl,by simp⟩
  | cons first rest ih =>
    rw [List.mapM_cons] at done
    obtain ⟨made,here,later⟩ := Option.bind_eq_some_iff.mp done
    obtain ⟨others,rest_done,same⟩ := Option.bind_eq_some_iff.mp later
    obtain ⟨length,each⟩ := ih rest_done
    rw [← Option.some.inj same]
    refine ⟨by rw [List.length_cons,List.length_cons,length],?_⟩
    intro i item found
    cases i with
    | zero =>
      rw [← Option.some.inj found]
      exact here
    | succ i => exact each i item found

theorem mapM_returns {α β : Type} {f : α → Option β} {items : List α} (each : ∀ item ∈ items, (f item).isSome) :
    ∃ out, items.mapM f = some out := by
  induction items with
  | nil => exact ⟨[],rfl⟩
  | cons first rest ih =>
    obtain ⟨here,later⟩ := List.forall_mem_cons.mp each
    obtain ⟨made,made_here⟩ := Option.isSome_iff_exists.mp here
    obtain ⟨others,rest_done⟩ := ih later
    refine ⟨made :: others,?_⟩
    rw [List.mapM_cons,made_here,rest_done]
    rfl

theorem measure_some {usable : Bool} {decisive : Option FieldReading} {measured : ℕ} (returned : measure usable decisive = some measured) :
    measured = Indicator.UNREADABLE ∨ usable = true ∧ ∃ f, decisive = some f ∧ f.glare = false ∧ measured = f.level := by
  unfold measure at returned
  split at returned
  case isFalse => exact .inl (Option.some.inj returned).symm
  case isTrue usable =>
    obtain ⟨f,read,same⟩ := Option.map_eq_some_iff.mp returned
    split at same
    case isTrue => exact .inl same.symm
    case isFalse sure =>
      refine .inr ⟨usable,f,read,?_,same.symm⟩
      simpa using fun glare => sure (.inl glare)

-- A verdict other than UNREADABLE is the level of the decisive field, read without glare, and no other field stays hidden.
theorem heatVerdict_some {fields : List FieldReading} {layout : List FieldLayout} {wbOk : Bool} {v : HeatVerdict}
    (returned : heatVerdict fields layout wbOk = some v) : v.heat = Indicator.UNREADABLE ∨
      ∃ decisive levels, fields[decisiveIndex layout]? = some decisive ∧ decisive.glare = false ∧ v.heat = decisive.level ∧
        (fields.zipIdx.mapM fun entry => fieldLevel layout (decisiveIndex layout) v.heat entry.1 entry.2) = some levels ∧
        (isDecided v.heat = true → none ∉ levels ∧ v.heatLevels = levels.map (·.getD 0)) := by
  obtain ⟨measured,how_measured,returned⟩ := Option.bind_eq_some_iff.mp returned
  obtain ⟨levels,every_level,returned⟩ := Option.bind_eq_some_iff.mp returned
  obtain same := (Option.some.inj returned).symm
  clear returned
  obtain void | ⟨usable,decisive,read,clear_field,level⟩ := measure_some how_measured
  · left
    rw [same]
    dsimp only
    split
    · rfl
    · exact void
  · rw [same]
    dsimp only
    rw [usable,read,Option.any_some,clear_field,Bool.false_or,Bool.true_and]
    split
    case isTrue => exact .inl rfl
    case isFalse open_field =>
      refine .inr ⟨decisive,levels,rfl,clear_field,level,every_level,?_⟩
      intro decided
      rw [decided,Bool.true_and] at open_field
      refine ⟨?_,if_pos decided⟩
      intro hidden
      exact open_field (List.any_eq_true.mpr ⟨none,hidden,rfl⟩)

-- The rule for glared fields is sound: where it names a level, the strip has it.
theorem fieldLevel_true {layout : List FieldLayout} (strip : Strip layout) (distinct : (layout.map (·.tempC)).Nodup)
    {d i measured level : ℕ} {f : FieldReading} (decisive : strip.levels[d]? = some measured) (inside : i < layout.length)
    (truly : f.glare = false → strip.levels[i]? = some f.level) (known : fieldLevel layout d measured f i = some (some level)) :
    strip.levels[i]? = some level := by
  unfold fieldLevel at known
  split at known
  case isTrue clear_field =>
    rw [truly clear_field]
    exact Option.some.inj known
  case isFalse covered =>
    split at known
    case isTrue same => cases known
    case isFalse other =>
      split at known
      case h_2 => cases known
      case h_1 place center here there =>
        have apart : place.tempC ≠ center.tempC := by
          intro equal
          apply other
          apply (List.getElem?_inj (by simpa using inside) distinct).mp
          rw [List.getElem?_map,List.getElem?_map,here,there,Option.map_some,Option.map_some,equal]
        obtain ⟨truth,shown⟩ : ∃ truth, strip.levels[i]? = some truth :=
          ⟨_,List.getElem?_eq_getElem (by rwa [strip.each])⟩
        obtain zero | one := strip.binary truth (List.mem_of_getElem? shown)
        · -- an intact field: the rule for cooler fields would need a triggered decisive field
          dsimp only at known
          split at known
          case isTrue => rw [shown,zero]; exact Option.some.inj known
          case isFalse =>
            split at known
            case isFalse => cases known
            case isTrue cooler =>
              obtain ⟨not_hotter,triggered⟩ := cooler
              have below : place.tempC < center.tempC := lt_of_le_of_ne (not_lt.mp not_hotter) apart
              have must := strip.coolFirst _ (mem_zip_of_getElem? here shown) _ (mem_zip_of_getElem? there decisive) below triggered
              rw [zero] at must
              cases must
        · -- a triggered field: so is every cooler one, which excludes an intact decisive field
          dsimp only at known
          split at known
          case isTrue hotter =>
            obtain ⟨above,intact⟩ := hotter
            have must := strip.coolFirst _ (mem_zip_of_getElem? there decisive) _ (mem_zip_of_getElem? here shown) above one
            rw [intact] at must
            cases must
          case isFalse =>
            split at known
            case isFalse => cases known
            case isTrue => rw [shown,one]; exact Option.some.inj known

theorem heatVerdict_returns {fields : List FieldReading} {layout : List FieldLayout} (wbOk : Bool)
    (each : fields.length = layout.length) (decisive : decisiveIndex layout < layout.length) :
    ∃ v, heatVerdict fields layout wbOk = some v := by
  have measured : ∃ measured, measure (wbOk && heatFieldsConsistent fields layout) fields[decisiveIndex layout]? = some measured := by
    rw [measure,List.getElem?_eq_getElem (by rwa [each])]
    split
    · exact ⟨_,rfl⟩
    · exact ⟨_,rfl⟩
  obtain ⟨measured,how_measured⟩ := measured
  have levels : ∃ levels, (fields.zipIdx.mapM fun entry => fieldLevel layout (decisiveIndex layout) measured entry.1 entry.2) = some levels := by
    apply mapM_returns
    intro entry inside
    have here : entry.2 < layout.length := by
      have := List.snd_lt_of_mem_zipIdx inside
      omega
    unfold fieldLevel
    rw [List.getElem?_eq_getElem here,List.getElem?_eq_getElem decisive]
    dsimp only
    split_ifs <;> rfl
  obtain ⟨levels,every_level⟩ := levels
  exact ⟨_,Option.bind_eq_some_iff.mpr ⟨measured,how_measured,Option.bind_eq_some_iff.mpr ⟨levels,every_level,rfl⟩⟩⟩

-- Whatever glare hides and however the fields under it are read: the verdict is UNREADABLE or the strip's own levels.
theorem no_false_heat {layout : List FieldLayout} (strip : Strip layout) (fields : List FieldReading) (wbOk : Bool)
    (distinct : (layout.map (·.tempC)).Nodup) (each : fields.length = layout.length)
    (truly : ∀ read ∈ fields.zip strip.levels, read.1.glare = false → read.1.level = read.2) :
    (decisiveIndex layout < layout.length → ∃ v, heatVerdict fields layout wbOk = some v) ∧
    ∀ v, heatVerdict fields layout wbOk = some v → v.heat = Indicator.UNREADABLE ∨
      v.heatLevels = strip.levels ∧ strip.levels[decisiveIndex layout]? = some v.heat := by
  have truly_at : ∀ (i : ℕ) (f : FieldReading), fields[i]? = some f → f.glare = false → strip.levels[i]? = some f.level := by
    intro i f here clear_field
    have inside : i < strip.levels.length := by
      rw [strip.each,← each]
      exact (List.getElem?_eq_some_iff.mp here).1
    have there := List.getElem?_eq_getElem inside
    rw [there]
    exact congrArg some (truly _ (mem_zip_of_getElem? here there) clear_field).symm
  refine ⟨heatVerdict_returns wbOk each,?_⟩
  intro v returned
  obtain void | ⟨decisive,levels,read,clear_field,level,every_level,reported⟩ := heatVerdict_some returned
  · exact .inl void
  · right
    have verdict : strip.levels[decisiveIndex layout]? = some v.heat := by
      rw [level]
      exact truly_at _ _ read clear_field
    have decided : isDecided v.heat = true := by
      obtain zero | one := strip.binary v.heat (List.mem_of_getElem? verdict)
      · rw [zero]; rfl
      · rw [one]; rfl
    obtain ⟨none_hidden,same⟩ := reported decided
    obtain ⟨length,at_each⟩ := mapM_each every_level
    rw [List.length_zipIdx] at length
    refine ⟨?_,verdict⟩
    rw [same]
    apply List.ext_getElem?
    intro i
    by_cases inside : i < layout.length
    · obtain ⟨f,here⟩ : ∃ f, fields[i]? = some f := ⟨_,List.getElem?_eq_getElem (by rwa [each])⟩
      obtain ⟨found,there⟩ : ∃ found, levels[i]? = some found := ⟨_,List.getElem?_eq_getElem (by omega)⟩
      have known := at_each i (f,i) (by rw [List.getElem?_zipIdx,here]; simp)
      rw [there] at known
      rw [List.getElem?_map,there]
      cases found with
      | none => exact absurd (List.mem_of_getElem? there) none_hidden
      | some level => exact (fieldLevel_true strip distinct verdict inside (truly_at i f here) known).symm
    · rw [List.getElem?_eq_none (by rw [List.length_map]; omega),List.getElem?_eq_none (by rw [strip.each]; omega)]

-- Six fields, the two coolest triggered; glare lies on the hottest, which is misread as triggered.
namespace Glare
def layout : List FieldLayout := [⟨29,false⟩,⟨33,false⟩,⟨34,false⟩,⟨37,false⟩,⟨40,true⟩,⟨42,false⟩]

def strip : Strip layout where
  levels := [1,1,0,0,0,0]
  each := by decide
  binary := by decide
  coolFirst := by decide

def fields : List FieldReading :=
  [⟨1,1,false⟩,⟨1,1,false⟩,⟨0,1,false⟩,⟨0,1,false⟩,⟨0,1,false⟩,⟨1,1,true⟩]

theorem glare_filled : (∃ v, heatVerdict fields layout true = some v) ∧ ∀ v, heatVerdict fields layout true = some v →
    v.heat = Indicator.UNREADABLE ∨ v.heatLevels = [1,1,0,0,0,0] ∧ some 0 = some v.heat := by
  obtain ⟨returns,sound⟩ := no_false_heat strip fields true (by decide) (by decide) (by decide)
  exact ⟨returns (by decide),sound⟩

example : (heatVerdict fields layout true).map (·.heatLevels) = some [1,1,0,0,0,0] := by decide +kernel

end Glare

end FlaconVault.Vision
