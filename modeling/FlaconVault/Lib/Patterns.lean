import Mathlib
namespace FlaconVault

-- Regular expressions without alternatives, over any alphabet: a character of a class, a counted repetition of a class, a
-- sequence and an optional part.
inductive Pattern (α : Type*) where
  | one (cls : α → Bool)
  | times (cls : α → Bool) (least most : ℕ)
  | seq (first second : Pattern α)
  | maybe (part : Pattern α)

namespace Pattern
variable {α : Type*}

-- The texts a pattern stands for.
def Spells : Pattern α → List α → Prop
  | one cls, text => ∃ c, text = [c] ∧ cls c = true
  | times cls least most, text => least ≤ text.length ∧ text.length ≤ most ∧ ∀ c ∈ text, cls c = true
  | seq first second, text => ∃ front back, text = front ++ back ∧ first.Spells front ∧ second.Spells back
  | maybe part, text => text = [] ∨ part.Spells text

-- What is left of a text after each way to match the pattern at its start, the longest match first.
def rests : Pattern α → List α → List (List α)
  | one cls, text => match text with
    | c :: rest => if cls c then [rest] else []
    | [] => []
  | times cls least most, text =>
    ((List.range (most+1)).reverse.filter fun n => decide (least ≤ n ∧ n ≤ text.length) && (text.take n).all cls).map text.drop
  | seq first second, text => (first.rests text).flatMap second.rests
  | maybe part, text => part.rests text ++ [text]

theorem mem_rests {pattern : Pattern α} {text rest : List α} :
    rest ∈ pattern.rests text ↔ ∃ front, text = front ++ rest ∧ pattern.Spells front := by
  induction pattern generalizing text rest with
  | one cls =>
    cases text with
    | nil => simp [rests,Spells]
    | cons c more =>
      unfold rests Spells
      dsimp only
      constructor
      · intro inside
        split at inside
        · rename_i fits
          rw [List.mem_singleton.mp inside]
          exact ⟨[c],rfl,c,rfl,fits⟩
        · cases inside
      · rintro ⟨front,same,_,single,fits⟩
        subst single
        obtain ⟨rfl,rfl⟩ := List.cons.inj same
        rw [if_pos fits]
        exact List.mem_singleton.mpr rfl
  | times cls least most =>
    unfold rests Spells
    simp only [List.mem_map,List.mem_filter,List.mem_reverse,List.mem_range,Bool.and_eq_true,decide_eq_true_eq,List.all_eq_true]
    constructor
    · rintro ⟨n,⟨below,⟨enough,fits⟩,own⟩,same⟩
      subst same
      have size : (text.take n).length = n := List.length_take_of_le fits
      exact ⟨text.take n,(List.take_append_drop n text).symm,by omega,by omega,own⟩
    · rintro ⟨front,same,enough,most,own⟩
      subst same
      refine ⟨front.length,⟨by omega,⟨enough,by simp⟩,?_⟩,List.drop_left⟩
      rw [List.take_left]
      exact own
  | seq first second ih ih' =>
    unfold rests Spells
    simp only [List.mem_flatMap,ih,ih']
    constructor
    · rintro ⟨middle,⟨front,same,head⟩,back,same',tail⟩
      exact ⟨front ++ back,by rw [same,same',List.append_assoc],front,back,rfl,head,tail⟩
    · rintro ⟨whole,same,front,back,parts,head,tail⟩
      subst parts
      exact ⟨back ++ rest,⟨front,by rw [same,List.append_assoc],head⟩,back,rfl,tail⟩
  | maybe part ih =>
    unfold rests Spells
    simp only [List.mem_append,ih,List.mem_singleton]
    constructor
    · rintro (⟨front,same,head⟩ | rfl)
      · exact ⟨front,same,.inr head⟩
      · exact ⟨[],rfl,.inl rfl⟩
    · rintro ⟨front,same,head⟩
      rcases head with empty | head
      · subst empty
        exact .inr same.symm
      · exact .inl ⟨front,same,head⟩

-- A match from the start of the text to its end, where an engine decides what it takes for the end.
def reaches (ends : List α → Bool) (pattern : Pattern α) (text : List α) : Bool := (pattern.rests text).any ends

theorem reaches_iff {ends : List α → Bool} {pattern : Pattern α} {text : List α} :
    pattern.reaches ends text = true ↔ ∃ front rest, text = front ++ rest ∧ pattern.Spells front ∧ ends rest = true := by
  unfold reaches
  simp only [List.any_eq_true,mem_rests]
  constructor
  · rintro ⟨rest,⟨front,same,head⟩,last⟩
    exact ⟨front,rest,same,head,last⟩
  · rintro ⟨front,rest,same,head,last⟩
    exact ⟨rest,⟨front,same,head⟩,last⟩

-- JavaScript's end anchor holds at the end alone, Python's also before a line break that ends the text.
def atEnd (rest : List α) : Bool := rest.isEmpty

def beforeBreak [DecidableEq α] (lineBreak : α) (rest : List α) : Bool := rest.isEmpty || rest == [lineBreak]

theorem reaches_atEnd {pattern : Pattern α} {text : List α} : pattern.reaches atEnd text = true ↔ pattern.Spells text := by
  rw [reaches_iff]
  constructor
  · rintro ⟨front,rest,same,head,last⟩
    rw [List.isEmpty_iff.mp last,List.append_nil] at same
    exact same ▸ head
  · intro head
    exact ⟨text,[],(List.append_nil text).symm,head,rfl⟩

theorem reaches_beforeBreak [DecidableEq α] {pattern : Pattern α} {lineBreak : α} {text : List α} :
    pattern.reaches (beforeBreak lineBreak) text = true ↔
      pattern.Spells text ∨ ∃ front, text = front ++ [lineBreak] ∧ pattern.Spells front := by
  rw [reaches_iff]
  constructor
  · rintro ⟨front,rest,same,head,last⟩
    unfold beforeBreak at last
    rw [Bool.or_eq_true,List.isEmpty_iff,beq_iff_eq] at last
    rcases last with empty | broken
    · rw [empty,List.append_nil] at same
      exact .inl (same ▸ head)
    · exact .inr ⟨front,by rw [same,broken],head⟩
  · rintro (head | ⟨front,same,head⟩)
    · exact ⟨text,[],(List.append_nil text).symm,head,rfl⟩
    · exact ⟨front,[lineBreak],same,head,by simp [beforeBreak]⟩

end Pattern
end FlaconVault
