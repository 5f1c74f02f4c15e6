import FlaconVault.Lib.Votes
import FlaconVault.Vision.Heat
namespace FlaconVault.Vision
open Verifier Votes

-- Several frames of one card, combined into the reading that is signed. What a frame carries besides and the combination only
-- hands on (field readings, homography, preview) is `ρ`.
inductive Mode where
  | marker
  | frame
  deriving DecidableEq

structure Confidence where
  heat : ℚ
  humidity : ℚ
  deriving DecidableEq

structure FrameVotes where
  frames : ℕ
  found : ℕ
  heat : ℕ
  humidity : ℕ
  uv : ℕ
  deriving DecidableEq

structure CardReading (ρ : Type) where
  found : Bool
  reason : Option String
  heatLevels : List ℕ
  heat : ℕ
  humidity : ℕ
  uv : ℕ
  confidence : Confidence
  mode : Option Mode
  anchors : List String
  ms : ℚ
  votes : Option FrameVotes
  rest : ρ

variable {ρ : Type}

def frameCounts (r : CardReading ρ) : Bool :=
  r.found && (r.mode != some .frame || r.anchors.contains "heat-label")

def majority (votes : List ℕ) (quorum : ℕ) : ℕ :=
  if votes ≠ [] ∧ ∀ v ∈ votes, v = Indicator.MISSING then Indicator.MISSING
  else (reached votes (max 1 quorum)).getD Indicator.UNREADABLE

def mean (xs : List ℚ) : ℚ := if xs.isEmpty then 0 else xs.sum/xs.length

def joinList (xs : List String) : String :=
  if xs.length < 2 then String.join xs else String.intercalate ", " xs.dropLast ++ " and " ++ xs.getLastD ""

-- "No card in this frame"; `blank` is what such a reading carries besides.
def notFoundReading (blank : ρ) (reason : String) (ms : ℚ) : CardReading ρ where
  found := false
  reason := some reason
  heatLevels := [0,0,0,0,0,0]
  heat := Indicator.MISSING
  humidity := Indicator.MISSING
  uv := Indicator.MISSING
  confidence := ⟨0,0⟩
  mode := none
  anchors := []
  ms := ms
  votes := none
  rest := blank

def agreeing (voters : List (CardReading ρ)) (pick : CardReading ρ → ℕ) (v : ℕ) : List (CardReading ρ) :=
  voters.filter fun r => pick r = v

-- The voter that agrees with the most combined verdicts, heat first, then the most confident one.
def representative (heat humidity uv : ℕ) (first : CardReading ρ) (others : List (CardReading ρ)) : CardReading ρ :=
  let score (r : CardReading ρ) := (if r.heat = heat then 4 else 0) + (if r.humidity = humidity then 2 else 0) + (if r.uv = uv then 1 else 0)
  let conf (r : CardReading ρ) := r.confidence.heat + r.confidence.humidity
  others.foldl (fun best r => if score r > score best ∨ score r = score best ∧ conf r > conf best then r else best) first

def combinedLevels (heat : ℕ) (agreeHeat : List (CardReading ρ)) : List ℕ :=
  if isDecided heat then
    ((List.range 6).map fun i => if Most agreeHeat fun r => r.heatLevels[i]? = some 1 then 1 else 0).set HEAT_DECISIVE_INDEX
      (if heat = Indicator.TRIGGERED then 1 else 0)
  else [0,0,0,0,0,0]

-- Unreadable without a quorum for it although some voter read it.
def undecided (voters : List (CardReading ρ)) (quorum : ℕ) (name : String) (pick : CardReading ρ → ℕ) (v : ℕ) : List String :=
  if v = Indicator.UNREADABLE ∧ (agreeing voters pick v).length < quorum ∧ ∃ r ∈ voters, pick r ≠ Indicator.UNREADABLE then [name]
  else []

def share (agree : List (CardReading ρ)) (frames : ℕ) (pick : CardReading ρ → ℚ) : ℚ :=
  mean (agree.map pick)*(agree.length/frames)

def combineReadings (blank : ρ) (readings : List (CardReading ρ)) (total : ℕ) : CardReading ρ :=
  let ms := (readings.map (·.ms)).sum
  let frames := max total readings.length
  let noVotes : FrameVotes := ⟨frames,0,0,0,0⟩
  match readings, readings.filter frameCounts with
  | [], _ => {notFoundReading blank "No frames to read" 0 with votes := some noVotes}
  | first :: _, [] =>
    let seen := readings.find? (·.found)
    let base := seen.getD first
    {base with
      found := false
      reason := if seen.isSome then
          some "The heat label was not recognized in any frame: hold the card flat and fully in view, avoid glare"
        else some (base.reason.getD "Card not detected")
      heat := Indicator.MISSING
      humidity := Indicator.MISSING
      uv := Indicator.MISSING
      heatLevels := [0,0,0,0,0,0]
      confidence := ⟨0,0⟩
      ms := ms
      votes := some noVotes}
  | _ :: _, voter :: others =>
    let voters := voter :: others
    let quorum := frames/2 + 1
    let heat := majority (voters.map (·.heat)) quorum
    let humidity := majority (voters.map (·.humidity)) quorum
    let uv := majority (voters.map (·.uv)) quorum
    let agreeHeat := agreeing voters (·.heat) heat
    let agreeHum := agreeing voters (·.humidity) humidity
    let agreeUv := agreeing voters (·.uv) uv
    let rep := representative heat humidity uv voter others
    let names := undecided voters quorum "heat" (·.heat) heat ++ undecided voters quorum "humidity" (·.humidity) humidity ++
      undecided voters quorum "UV" (·.uv) uv
    {rep with
      reason := if names.isEmpty then rep.reason
        else if voters.length < quorum then
          some ("Only " ++ toString voters.length ++ " of " ++ toString frames ++
            " frames could be read: hold the card steady and fully in view, then retake the photos")
        else some ("Frames disagree on " ++ joinList names ++ " (" ++ toString voters.length ++ " of " ++ toString frames ++
          " frames counted): retake the photos")
      heat := heat
      humidity := humidity
      uv := uv
      heatLevels := combinedLevels heat agreeHeat
      confidence := ⟨if isDecided heat then share agreeHeat frames (·.confidence.heat) else 0,
        if isDecided humidity then share agreeHum frames (·.confidence.humidity) else 0⟩
      ms := ms
      votes := some ⟨frames,voters.length,agreeHeat.length,agreeHum.length,agreeUv.length⟩}

-- What is signed of a combined reading, and the votes it shows.
def verdicts (r : CardReading ρ) : ℕ × ℕ × ℕ × List ℕ × Option FrameVotes := ⟨r.heat,r.humidity,r.uv,r.heatLevels,r.votes⟩

def quorumOf (readings : List (CardReading ρ)) (total : ℕ) : ℕ := max total readings.length/2 + 1

-- One indicator of the combined reading.
def combinedVerdict (readings : List (CardReading ρ)) (total : ℕ) (pick : CardReading ρ → ℕ) : ℕ :=
  if readings.filter frameCounts = [] then Indicator.MISSING
  else majority ((readings.filter frameCounts).map pick) (quorumOf readings total)

def agreeingFrames (readings : List (CardReading ρ)) (total : ℕ) (pick : CardReading ρ → ℕ) : List (CardReading ρ) :=
  agreeing (readings.filter frameCounts) pick (combinedVerdict readings total pick)

theorem combine_verdicts (blank : ρ) (readings : List (CardReading ρ)) (total : ℕ) :
    verdicts (combineReadings blank readings total) =
      ⟨combinedVerdict readings total (·.heat),combinedVerdict readings total (·.humidity),combinedVerdict readings total (·.uv),
        combinedLevels (combinedVerdict readings total (·.heat)) (agreeingFrames readings total (·.heat)),
        some ⟨max total readings.length,(readings.filter frameCounts).length,(agreeingFrames readings total (·.heat)).length,
          (agreeingFrames readings total (·.humidity)).length,(agreeingFrames readings total (·.uv)).length⟩⟩ := by
  unfold combineReadings agreeingFrames combinedVerdict
  dsimp only
  cases voting : readings.filter frameCounts with
  | nil =>
    cases readings with
    | nil => rfl
    | cons first rest => rfl
  | cons voter others =>
    cases readings with
    | nil => cases voting
    | cons first rest => rfl

theorem majority_perm {votes others : List ℕ} {quorum : ℕ} (strict : votes.length < 2*quorum) (permuted : votes.Perm others) :
    majority votes quorum = majority others quorum := by
  have missing : (votes ≠ [] ∧ ∀ v ∈ votes, v = Indicator.MISSING) ↔ (others ≠ [] ∧ ∀ v ∈ others, v = Indicator.MISSING) := by
    constructor
    · intro ⟨some_vote,all⟩
      exact ⟨fun none => some_vote (List.Perm.eq_nil (none ▸ permuted)),fun v inside => all v (permuted.mem_iff.mpr inside)⟩
    · intro ⟨some_vote,all⟩
      exact ⟨fun none => some_vote (List.Perm.eq_nil (none ▸ permuted.symm)),fun v inside => all v (permuted.mem_iff.mp inside)⟩
  have threshold : votes.length < 2*max 1 quorum := by omega
  unfold majority
  rw [reached_perm threshold permuted]
  by_cases all : votes ≠ [] ∧ ∀ v ∈ votes, v = Indicator.MISSING
  · rw [if_pos all,if_pos (missing.mp all)]
  · rw [if_neg all,if_neg (fun others_all => all (missing.mpr others_all))]

theorem majority_decided {votes : List ℕ} {quorum : ℕ} (decided : isDecided (majority votes quorum) = true) :
    max 1 quorum ≤ votes.count (majority votes quorum) := by
  unfold majority at decided ⊢
  split at decided
  case isTrue => cases decided
  case isFalse unlike =>
    rw [if_neg unlike]
    cases here : reached votes (max 1 quorum) with
    | none => rw [here] at decided; cases decided
    | some v => exact (reached_some here).2

theorem combinedVerdict_perm {readings others : List (CardReading ρ)} (total : ℕ) (pick : CardReading ρ → ℕ)
    (permuted : readings.Perm others) : combinedVerdict readings total pick = combinedVerdict others total pick := by
  have voters := permuted.filter frameCounts
  have fewer : (readings.filter frameCounts).length ≤ readings.length := List.length_filter_le _ _
  unfold combinedVerdict quorumOf
  rw [← permuted.length_eq]
  by_cases none_votes : readings.filter frameCounts = []
  · rw [if_pos none_votes,if_pos (none_votes ▸ voters).symm.eq_nil]
  · rw [if_neg none_votes,if_neg (fun others_none => none_votes (others_none ▸ voters).eq_nil)]
    apply majority_perm
    · rw [List.length_map]
      omega
    · exact voters.map pick

theorem agreeingFrames_perm {readings others : List (CardReading ρ)} (total : ℕ) (pick : CardReading ρ → ℕ)
    (permuted : readings.Perm others) : (agreeingFrames readings total pick).Perm (agreeingFrames others total pick) := by
  unfold agreeingFrames agreeing
  rw [combinedVerdict_perm total pick permuted]
  exact (permuted.filter frameCounts).filter _

theorem combinedLevels_perm {agree others : List (CardReading ρ)} (heat : ℕ) (permuted : agree.Perm others) :
    combinedLevels heat agree = combinedLevels heat others := by
  unfold combinedLevels
  simp only [most_perm permuted]

-- A decided verdict has a strict majority of all frames, those without a vote included.
theorem decided_majority {readings : List (CardReading ρ)} {total : ℕ} {pick : CardReading ρ → ℕ}
    (decided : isDecided (combinedVerdict readings total pick) = true) :
    quorumOf readings total ≤ (agreeingFrames readings total pick).length := by
  have reach : max 1 (quorumOf readings total) ≤
      ((readings.filter frameCounts).map pick).count (combinedVerdict readings total pick) := by
    unfold combinedVerdict at decided ⊢
    split at decided
    case isTrue => cases decided
    case isFalse some_vote =>
      rw [if_neg some_vote]
      exact majority_decided decided
  have counted : ((readings.filter frameCounts).map pick).count (combinedVerdict readings total pick) =
      (agreeingFrames readings total pick).length := by
    rw [List.count,List.countP_map,List.countP_eq_length_filter,agreeingFrames,agreeing]
    congr 2
  rw [counted] at reach
  omega

-- A field is triggered only if all cooler ones are.
def CoolFirst (levels : List ℕ) : Prop := ∀ i j : ℕ, i < j → levels[j]? = some 1 → levels[i]? = some 1

theorem combinedLevels_get {heat : ℕ} {agree : List (CardReading ρ)} (decided : isDecided heat = true) (i : ℕ) :
    (combinedLevels heat agree)[i]? =
      if i = HEAT_DECISIVE_INDEX then some heat
      else if i < 6 then some (if Most agree fun r => r.heatLevels[i]? = some 1 then 1 else 0) else none := by
  have verdict : (if heat = Indicator.TRIGGERED then 1 else 0) = heat := by
    unfold isDecided at decided
    split
    case isTrue triggered => exact triggered.symm
    case isFalse not_triggered =>
      rw [beq_eq_false_iff_ne.mpr not_triggered,Bool.or_false] at decided
      exact (beq_iff_eq.mp decided).symm
  unfold combinedLevels
  rw [if_pos decided,verdict,List.getElem?_set]
  by_cases here : i = HEAT_DECISIVE_INDEX
  · rw [if_pos here.symm,if_pos here]
    simp [HEAT_DECISIVE_INDEX]
  · rw [if_neg (Ne.symm here),if_neg here,List.getElem?_map]
    by_cases inside : i < 6
    · rw [if_pos inside,List.getElem?_range inside]
      rfl
    · rw [if_neg inside,List.getElem?_eq_none (by simpa using inside)]
      rfl

-- Voting keeps the order of the fields, because a majority for a hotter field is one for every cooler field.
theorem combined_coolFirst {heat : ℕ} {agree : List (CardReading ρ)} (decided : isDecided heat = true) (some_frame : agree ≠ [])
    (cool : ∀ r ∈ agree, CoolFirst r.heatLevels ∧ r.heatLevels[HEAT_DECISIVE_INDEX]? = some heat) :
    CoolFirst (combinedLevels heat agree) := by
  -- the decisive field has the verdict as its majority, too
  have decisive : heat = 1 ↔ Most agree fun r => r.heatLevels[HEAT_DECISIVE_INDEX]? = some 1 := by
    constructor
    · intro triggered
      apply most_all some_frame
      intro r inside
      rw [(cool r inside).2,triggered]
      rfl
    · intro most
      obtain ⟨r,inside,yes⟩ := most.some
      have same := of_decide_eq_true yes
      rw [(cool r inside).2] at same
      exact Option.some.inj same
  have at_each : ∀ i, (combinedLevels heat agree)[i]? = some 1 ↔ i < 6 ∧ Most agree fun r => r.heatLevels[i]? = some 1 := by
    intro i
    rw [combinedLevels_get decided]
    by_cases here : i = HEAT_DECISIVE_INDEX
    · rw [if_pos here,here,Option.some.injEq,decisive]
      simp [HEAT_DECISIVE_INDEX]
    · rw [if_neg here]
      split
      case isTrue inside => simp [inside]
      case isFalse outside => simp [outside]
  intro i j below hot
  obtain ⟨inside,most⟩ := (at_each j).mp hot
  refine (at_each i).mpr ⟨by omega,most.mono ?_⟩
  intro r voter yes
  exact decide_eq_true ((cool r voter).1 i j below (of_decide_eq_true yes))

end FlaconVault.Vision
