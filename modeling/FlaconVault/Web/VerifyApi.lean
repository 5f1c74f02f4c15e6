import FlaconVault.Vision.Combine
import FlaconVault.Verifier.Scans
import FlaconVault.Flacon.Instructions
namespace FlaconVault.Web
open Verifier Guards Vision

-- The body of POST /api/verify as the web app builds it; an absent member is `none`.
structure Tag where
  uid : String
  ctr : String
  cmac : String
  piccData : Option String
  enc : Option String
  simulator : Bool
  tapId : Option ℕ
  tapToken : Option String

structure Reading where
  heat : ℕ
  humidity : ℕ
  uv : ℕ
  heatLevels : List ℕ

structure VerifyInput where
  tag : Tag
  nonce : String
  role : ℕ
  tier : ℕ
  reading : Option Reading
  fill : ℕ
  mediaHash : Option String
  serial : Option String
  country : Option String
  city : Option String
  attester : Option String
  platform : String

structure SentBody where
  uid : Option String
  ctr : Option String
  cmac : Option String
  piccData : Option String
  enc : Option String
  tapId : Option ℕ
  tapToken : Option String
  nonce : String
  role : ℕ
  tier : ℕ
  indicators : Indicators
  heatLevels : List ℕ
  fill : ℕ
  mediaHash : Option String
  serial : Option String
  location : Option String × Option String
  attester : Option String
  platform : String

def decidedHeat (h : ℕ) : Bool := h == 0 || h == 1

-- The white space of JavaScript's trim.
def isSpace (c : Char) : Bool :=
  let code := c.toNat
  (9 ≤ code ∧ code ≤ 13) ∨ code = 32 ∨ code = 0xa0 ∨ code = 0x1680 ∨ (0x2000 ≤ code ∧ code ≤ 0x200a) ∨ code = 0x2028 ∨
    code = 0x2029 ∨ code = 0x202f ∨ code = 0x205f ∨ code = 0x3000 ∨ code = 0xfeff

def trim (text : String) : String := String.ofList ((text.toList.dropWhile isSpace).reverse.dropWhile isSpace).reverse

-- `x || undefined` and `x || null` of a text.
def orAbsent (text : String) : Option String := if text = "" then none else some text

def verifyBody (i : VerifyInput) : SentBody where
  uid := if i.tag.tapId.isSome then none else orAbsent i.tag.uid
  ctr := if i.tag.tapId.isSome then none else orAbsent i.tag.ctr
  cmac := if i.tag.tapId.isSome then none else some i.tag.cmac
  piccData := i.tag.piccData
  enc := i.tag.enc
  tapId := i.tag.tapId
  tapToken := if i.tag.tapId.isSome then i.tag.tapToken else none
  nonce := i.nonce
  role := i.role
  tier := i.tier
  indicators := match i.reading with
    | some r => ⟨r.heat,r.humidity,r.uv⟩
    | none => ⟨Indicator.MISSING,Indicator.MISSING,Indicator.MISSING⟩
  heatLevels := match i.reading with
    | some r => if decidedHeat r.heat then r.heatLevels.take 6 else [0,0,0,0,0,0]
    | none => [0,0,0,0,0,0]
  fill := i.fill
  mediaHash := i.mediaHash
  serial := i.serial
  location := ⟨i.country.bind orAbsent,i.city.bind fun city => orAbsent (trim city)⟩
  attester := i.attester
  platform := if i.tag.simulator then "SIMULATOR" else i.platform

def readingOf {ρ : Type} (r : CardReading ρ) : Reading := ⟨r.heat,r.humidity,r.uv,r.heatLevels⟩

-- The server reads the heat members of what was sent.
structure Carries (sent : SentBody) (body : VerifyBody) : Prop where
  heat : body.heat.val = sent.indicators.heat
  heatLevels : body.heatLevels.val.map (·.val) = sent.heatLevels

-- The rule both /api/verify and record_scan enforce.
def HeatConsistent (heat : ℕ) (levels : List ℕ) : Prop := isDecided heat = true → levels[HEAT_DECISIVE_INDEX]? = some heat

theorem admitVerify_consistent {body : VerifyBody} (consistent : HeatConsistent body.heat.val (body.heatLevels.val.map (·.val)))
    (settings : Settings) (db : Database) (around : Surroundings) :
    Avoids ⟨422,"indicators.heat must equal heatLevels[4] (the 40 °C field)"⟩ (admitVerify settings db body around) := by
  have passes : ¬((body.heat.val = Indicator.INTACT ∨ body.heat.val = Indicator.TRIGGERED) ∧
      some body.heat.val ≠ body.heatLevels.val[4]?.map (·.val)) := by
    intro ⟨decided,different⟩
    have same := consistent (by simpa [isDecided] using decided)
    rw [List.getElem?_map] at same
    exact different same.symm
  unfold admitVerify
  apply Avoids.bind (Avoids.require (by decide))
  intro _ _
  apply Avoids.bind (Avoids.require (by decide))
  intro _ _
  apply Avoids.bind (Avoids.require (by decide))
  intro _ _
  rw [require_pass passes,ok_bind]
  split
  · split
    · exact nofun
    · apply Avoids.orRefuse (by decide)
  · exact Avoids.pure

-- The decisive bit of the mask is the decisive level.
theorem decisive_bit {levels : List ℕ} (six : levels.length = 6) (binary : ∀ level ∈ levels, level ≤ 1) :
    levels[HEAT_DECISIVE_INDEX]? = some (heatLevelsToMask levels/2^HEAT_DECISIVE_INDEX%2) := by
  match levels, six with
  | [a,b,c,d,e,f], _ =>
    have all : ∀ a b c d e f : Fin 2, some e.val = some (heatLevelsToMask [a.val,b.val,c.val,d.val,e.val,f.val]/2^HEAT_DECISIVE_INDEX%2) := by
      decide
    have small : ∀ level ∈ [a,b,c,d,e,f], level < 2 := fun level inside => Nat.lt_succ_of_le (binary level inside)
    exact all ⟨a,small a (by simp)⟩ ⟨b,small b (by simp)⟩ ⟨c,small c (by simp)⟩ ⟨d,small d (by simp)⟩ ⟨e,small e (by simp)⟩
      ⟨f,small f (by simp)⟩

theorem checkFields_consistent {args : Flacon.RecordScanArgs} {levels : List ℕ} (six : levels.length = 6)
    (binary : ∀ level ∈ levels, level ≤ 1) (consistent : HeatConsistent args.heat.val levels)
    (masked : args.heatLevels.val = heatLevelsToMask levels) (registry : Registry) (attester : Pubkey) :
    Avoids (.flacon .heatInconsistent) (Flacon.checkFields registry attester args) := by
  have passes : args.heat = Flacon.INDICATOR_INTACT ∨ args.heat = Flacon.INDICATOR_TRIGGERED →
      args.heat.val = args.heatLevels.val/2^Flacon.HEAT_DECISIVE_INDEX%2 := by
    intro decided
    have same : levels[HEAT_DECISIVE_INDEX]? = some args.heat.val := by
      apply consistent
      obtain intact | triggered := decided
      · rw [intact]
        decide
      · rw [triggered]
        decide
    rw [decisive_bit six binary] at same
    rw [masked]
    exact (Option.some.inj same).symm
  unfold Flacon.checkFields
  iterate 9
    apply Avoids.bind (Avoids.require (by decide))
    intro _ _
  rw [require_pass passes]
  exact Avoids.pure

section
variable {ρ : Type} (blank : ρ) (readings : List (CardReading ρ)) (total : ℕ)

structure SoundMajority : Prop where
  order : ∀ others, readings.Perm others →
    verdicts (combineReadings blank others total) = verdicts (combineReadings blank readings total)
  decided : ∀ pick, pick = CardReading.heat ∨ pick = CardReading.humidity ∨ pick = CardReading.uv →
    isDecided (pick (combineReadings blank readings total)) = true →
    max total readings.length <
      2*((readings.filter frameCounts).filter fun r => pick r = pick (combineReadings blank readings total)).length
  decisive : isDecided (combineReadings blank readings total).heat = true →
    (combineReadings blank readings total).heatLevels[HEAT_DECISIVE_INDEX]? = some (combineReadings blank readings total).heat
  undecided : isDecided (combineReadings blank readings total).heat = false →
    (combineReadings blank readings total).heatLevels = [0,0,0,0,0,0]
  verified : ∀ input body settings db around, input.reading = some (readingOf (combineReadings blank readings total)) →
    Carries (verifyBody input) body →
    Avoids ⟨422,"indicators.heat must equal heatLevels[4] (the 40 °C field)"⟩ (admitVerify settings db body around)
  recorded : ∀ input args registry attester, input.reading = some (readingOf (combineReadings blank readings total)) →
    args.heat.val = (verifyBody input).indicators.heat → args.heatLevels.val = heatLevelsToMask (verifyBody input).heatLevels →
    Avoids (.flacon .heatInconsistent) (Flacon.checkFields registry attester args)
  coolFirst : (∀ r ∈ readings, frameCounts r = true → r.heat = (combineReadings blank readings total).heat →
      CoolFirst r.heatLevels ∧ r.heatLevels[HEAT_DECISIVE_INDEX]? = some r.heat) →
    CoolFirst (combineReadings blank readings total).heatLevels

theorem combined_heat : (combineReadings blank readings total).heat = combinedVerdict readings total (·.heat) :=
  congrArg (·.1) (combine_verdicts blank readings total)

theorem combined_levels : (combineReadings blank readings total).heatLevels =
    combinedLevels (combinedVerdict readings total (·.heat)) (agreeingFrames readings total (·.heat)) :=
  congrArg (·.2.2.2.1) (combine_verdicts blank readings total)

-- The levels that go with the combined reading: six zeros or ones, the verdict at the decisive field.
theorem sent_levels {input : VerifyInput} (carried : input.reading = some (readingOf (combineReadings blank readings total))) :
    (verifyBody input).indicators.heat = (combineReadings blank readings total).heat ∧ (verifyBody input).heatLevels.length = 6 ∧
      (∀ level ∈ (verifyBody input).heatLevels, level ≤ 1) ∧
      HeatConsistent (combineReadings blank readings total).heat (verifyBody input).heatLevels := by
  unfold verifyBody
  rw [carried]
  dsimp only [readingOf]
  refine ⟨rfl,?_⟩
  rw [combined_levels,combined_heat]
  generalize combinedVerdict readings total (·.heat) = heat
  generalize agreeingFrames readings total (·.heat) = agree
  by_cases decided : isDecided heat = true
  · have six : (combinedLevels heat agree).length = 6 := by
      unfold combinedLevels
      rw [if_pos decided,List.length_set,List.length_map,List.length_range]
    have whole : (combinedLevels heat agree).take 6 = combinedLevels heat agree := List.take_of_length_le six.le
    have small : heat ≤ 1 := by
      unfold isDecided at decided
      rw [Bool.or_eq_true,beq_iff_eq,beq_iff_eq] at decided
      obtain intact | triggered := decided
      · rw [intact]; decide
      · rw [triggered]; decide
    rw [if_pos (show decidedHeat heat = true from decided),whole]
    refine ⟨six,?_,?_⟩
    · intro level inside
      obtain ⟨i,here⟩ := List.getElem?_of_mem inside
      rw [combinedLevels_get decided] at here
      split at here
      · cases here; exact small
      · split at here
        · cases here
          split <;> decide
        · cases here
    · intro _
      rw [combinedLevels_get decided,if_pos rfl]
  · rw [if_neg (show ¬decidedHeat heat = true from decided)]
    exact ⟨rfl,by decide,fun yes => absurd yes decided⟩

theorem combine_sound : SoundMajority blank readings total where
  order others permuted := by
    rw [combine_verdicts,combine_verdicts,combinedVerdict_perm total _ permuted,combinedVerdict_perm total _ permuted,
      combinedVerdict_perm total _ permuted,combinedLevels_perm _ (agreeingFrames_perm total (·.heat) permuted),permuted.length_eq,
      (permuted.filter frameCounts).length_eq,(agreeingFrames_perm total (·.heat) permuted).length_eq,
      (agreeingFrames_perm total (·.humidity) permuted).length_eq,(agreeingFrames_perm total (·.uv) permuted).length_eq]
  decided pick one decided := by
    have same : pick (combineReadings blank readings total) = combinedVerdict readings total pick := by
      have parts := combine_verdicts blank readings total
      obtain heat | humidity | uv := one
      · rw [heat]; exact congrArg (·.1) parts
      · rw [humidity]; exact congrArg (·.2.1) parts
      · rw [uv]; exact congrArg (·.2.2.1) parts
    rw [same] at decided ⊢
    have enough := decided_majority decided
    unfold quorumOf agreeingFrames agreeing at enough
    omega
  decisive decided := by
    rw [combined_heat] at decided ⊢
    rw [combined_levels,combinedLevels_get decided,if_pos rfl]
  undecided not_decided := by
    rw [combined_heat] at not_decided
    rw [combined_levels,combinedLevels,if_neg (by simp [not_decided])]
  verified input body settings db around carried sent := by
    obtain ⟨heat,_,_,consistent⟩ := sent_levels blank readings total carried
    apply admitVerify_consistent
    rw [sent.heat,sent.heatLevels,heat]
    exact consistent
  recorded input args registry attester carried heat levels := by
    obtain ⟨sent,six,binary,consistent⟩ := sent_levels blank readings total carried
    rw [← sent,← heat] at consistent
    exact checkFields_consistent six binary consistent levels registry attester
  coolFirst agreeing_cool := by
    rw [combined_heat] at agreeing_cool
    rw [combined_levels]
    by_cases decided : isDecided (combinedVerdict readings total (·.heat)) = true
    · have enough := decided_majority decided
      apply combined_coolFirst decided
      · intro none_agree
        rw [none_agree] at enough
        exact absurd enough (by simp [quorumOf])
      · intro r inside
        obtain ⟨voter,agrees⟩ := List.mem_filter.mp inside
        obtain ⟨frame,counts⟩ := List.mem_filter.mp voter
        have same := of_decide_eq_true agrees
        obtain ⟨cool,level⟩ := agreeing_cool r frame counts same
        exact ⟨cool,level.trans (congrArg some same)⟩
    · rw [combinedLevels,if_neg decided]
      intro i j _ hot
      have zero : ∀ level ∈ [0,0,0,0,0,0], level ≠ 1 := by decide
      exact absurd rfl (zero 1 (List.mem_of_getElem? hot))

end

end FlaconVault.Web
