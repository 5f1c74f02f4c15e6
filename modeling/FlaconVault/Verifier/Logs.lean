import FlaconVault.Lib.PyText
import FlaconVault.Verifier.Transactions
namespace FlaconVault.Verifier.Logs
open PyText

-- `program_events` on the lines of a log themselves, as the RPC returns them.
abbrev Text := List Char

def isDigit (c : Char) : Bool :=
  (48 ≤ c.toNat ∧ c.toNat ≤ 57) ∨ decimalZeros.any fun first => first ≤ c.toNat ∧ c.toNat < first+10

def base64Digit (c : Char) : Option ℕ :=
  let code := c.toNat
  if 65 ≤ code ∧ code ≤ 90 then some (code-65)
  else if 97 ≤ code ∧ code ≤ 122 then some (code-71)
  else if 48 ≤ code ∧ code ≤ 57 then some (code+4)
  else if code = 43 then some 62
  else if code = 47 then some 63
  else none

-- Strict base64 after its first character: groups of four, the last one padded. Padding after a complete group is read over.
def quads : Text → Option (List Byte)
  | [] => some []
  | '=' :: rest => if rest.all (· == '=') then some [] else none
  | a :: b :: c :: d :: rest => do
    let first ← base64Digit a
    let second ← base64Digit b
    let high := first*4 + second/16
    if rest = [] ∧ d = '=' then
      if c = '=' then return [Fin.ofNat 256 high]
      else
        let third ← base64Digit c
        return [Fin.ofNat 256 high,Fin.ofNat 256 (second%16*16 + third/4)]
    else
      let third ← base64Digit c
      let fourth ← base64Digit d
      let bytes ← quads rest
      return Fin.ofNat 256 high :: Fin.ofNat 256 (second%16*16 + third/4) :: Fin.ofNat 256 (third%4*64 + fourth) :: bytes
  | _ => none

-- b64decode(text, validate=True): padding cannot stand first.
def b64decode (text : Text) : Option (List Byte) := if text.head? = some '=' then none else quads text

example : b64decode "AQID==".toList = some [1,2,3] ∧ b64decode "AQ=".toList = none := by decide

def PROGRAM : Text := ['P','r','o','g','r','a','m',' ']
def INVOKE : Text := [' ','i','n','v','o','k','e',' ','[']
def SUCCESS : Text := [' ','s','u','c','c','e','s','s']
def FAILED : Text := [' ','f','a','i','l','e','d']
def DATA : Text := ['P','r','o','g','r','a','m',' ','d','a','t','a',':',' ']

-- Both patterns of the frames begin with `Program`, a blank and a word up to the next white space.
def afterProgram (line : Text) : Option (Text × Text) :=
  if PROGRAM.isPrefixOf line then
    let word := (line.drop 8).takeWhile (!isSpace ·)
    if word = [] then none else some (word,(line.drop 8).dropWhile (!isSpace ·))
  else none

-- The program of a line that matches `^Program (\S+) invoke \[\d+\]$`.
def invoked (line : Text) : Option Text :=
  (afterProgram line).bind fun (word,rest) =>
    if INVOKE.isPrefixOf rest then
      let digits := (rest.drop 9).takeWhile isDigit
      let last := (rest.drop 9).dropWhile isDigit
      if digits ≠ [] ∧ (last = [']'] ∨ last = [']','\n']) then some word else none
    else none

-- Does a line match `^Program (\S+) (success|failed)`?
def exited (line : Text) : Bool :=
  (afterProgram line).any fun (_,rest) => SUCCESS.isPrefixOf rest || FAILED.isPrefixOf rest

def dataParts (line : Text) : List (List Byte) :=
  (((line.drop DATA.length).splitOnP isSpace).filter (· ≠ [])).filterMap b64decode

def programEvents (program : Text) : List Text → List Text → List (List Byte)
  | _, [] => []
  | stack, line :: rest =>
    match invoked line with
    | some word => programEvents program (word :: stack) rest
    | none =>
      if exited line then programEvents program stack.tail rest
      else if DATA.isPrefixOf line ∧ stack.head? = some program then dataParts line ++ programEvents program stack rest
      else programEvents program stack rest

-- A line as the transaction's log holds it, for the keys that words name.
def readLine (keyOf : Text → Option Pubkey) (line : Text) : LogLine :=
  match invoked line with
  | some word => .invoke (keyOf word)
  | none => if exited line then .exit else if DATA.isPrefixOf line then .data (dataParts line) else .other

-- Reading the lines first changes nothing.
theorem programEvents_read {keyOf : Text → Option Pubkey} {program : Text} {key : Pubkey}
    (named : ∀ word, keyOf word = some key ↔ word = program) (lines stack : List Text) :
    Verifier.programEvents key (stack.map keyOf) (lines.map (readLine keyOf)) = programEvents program stack lines := by
  induction lines generalizing stack with
  | nil => rfl
  | cons line rest ih =>
    have head : (stack.map keyOf).head? = some (some key) ↔ stack.head? = some program := by
      cases stack with
      | nil => simp
      | cons word stack => simp [named]
    simp only [List.map_cons,readLine,programEvents]
    cases opened : invoked line with
    | some word => exact ih (word :: stack)
    | none =>
      dsimp only
      cases closed : exited line with
      | true =>
        rw [if_pos rfl,if_pos rfl]
        simp only [Verifier.programEvents,← List.map_tail]
        exact ih stack.tail
      | false =>
        rw [if_neg Bool.false_ne_true,if_neg Bool.false_ne_true]
        by_cases data : DATA.isPrefixOf line
        · simp only [data,if_true,Verifier.programEvents,true_and,head,ih stack]
        · simp only [data,false_and,if_false,Bool.false_eq_true]
          exact ih stack

-- What the runtime logs. Programs are named by their addresses in base58.
def isBase58 (c : Char) : Bool :=
  let code := c.toNat
  (49 ≤ code ∧ code ≤ 57) ∨ (65 ≤ code ∧ code ≤ 90 ∧ code ≠ 73 ∧ code ≠ 79) ∨ (97 ≤ code ∧ code ≤ 122 ∧ code ≠ 108)

abbrev ProgramId := {word : Text // word ≠ [] ∧ word.all isBase58 = true}

-- The three ways a running program writes a line; the runtime puts the name of the way before the text.
inductive Channel where
  | log | data | returned
  deriving DecidableEq

def Channel.word : Channel → Text
  | .log => ['l','o','g',':']
  | .data => ['d','a','t','a',':']
  | .returned => ['r','e','t','u','r','n',':']

structure Written where
  channel : Channel
  text : Text
  deriving DecidableEq

inductive LogItem where
  | invoke (program : ProgramId) (depth : ℕ)
  | success (program : ProgramId)
  | failed (program : ProgramId) (reason : Text)
  | consumed (program : ProgramId) (used budget : ℕ)
  | wrote (line : Written)
  deriving DecidableEq

def CONSUMED : Text := [' ','c','o','n','s','u','m','e','d',' ']
def OF : Text := [' ','o','f',' ']
def UNITS : Text := [' ','c','o','m','p','u','t','e',' ','u','n','i','t','s']

def digits (n : ℕ) : Text := Nat.toDigits 10 n

def lineOf (word rest : Text) : Text := PROGRAM ++ word ++ rest

def Written.line (written : Written) : Text := lineOf written.channel.word (' ' :: written.text)

def LogItem.line : LogItem → Text
  | .invoke program depth => lineOf program.val (INVOKE ++ digits depth ++ [']'])
  | .success program => lineOf program.val SUCCESS
  | .failed program reason => lineOf program.val (FAILED ++ [':',' '] ++ reason)
  | .consumed program used budget =>
    lineOf program.val (CONSUMED ++ digits used ++ OF ++ digits budget ++ UNITS)
  | .wrote written => written.line

-- Well-nested frames; a program writes only while it runs.
def Nested : List ProgramId → List LogItem → Prop
  | stack, [] => stack = []
  | stack, .invoke program depth :: rest => depth = stack.length+1 ∧ Nested (program :: stack) rest
  | stack, .success program :: rest => stack.head? = some program ∧ Nested stack.tail rest
  | stack, .failed program _ :: rest => stack.head? = some program ∧ Nested stack.tail rest
  | stack, .consumed program .. :: rest => stack.head? = some program ∧ Nested stack rest
  | stack, .wrote _ :: rest => stack ≠ [] ∧ Nested stack rest

instance nested_decidable : (stack : List ProgramId) → (items : List LogItem) → Decidable (Nested stack items)
  | stack, [] => inferInstanceAs (Decidable (stack = []))
  | stack, .invoke program depth :: rest =>
    have := nested_decidable (program :: stack) rest
    inferInstanceAs (Decidable (depth = stack.length+1 ∧ Nested (program :: stack) rest))
  | stack, .success program :: rest =>
    have := nested_decidable stack.tail rest
    inferInstanceAs (Decidable (stack.head? = some program ∧ Nested stack.tail rest))
  | stack, .failed program _ :: rest =>
    have := nested_decidable stack.tail rest
    inferInstanceAs (Decidable (stack.head? = some program ∧ Nested stack.tail rest))
  | stack, .consumed program .. :: rest =>
    have := nested_decidable stack rest
    inferInstanceAs (Decidable (stack.head? = some program ∧ Nested stack rest))
  | stack, .wrote _ :: rest =>
    have := nested_decidable stack rest
    inferInstanceAs (Decidable (stack ≠ [] ∧ Nested stack rest))

-- The payload parts of a line a program wrote.
def Written.parts (written : Written) : List (List Byte) := if written.channel = .data then dataParts written.line else []

-- What a program emitted: the payload parts of the data lines written while it was the innermost running program.
def emitted (program : ProgramId) : List ProgramId → List LogItem → List (List Byte)
  | _, [] => []
  | stack, .invoke other _ :: rest => emitted program (other :: stack) rest
  | stack, .success _ :: rest => emitted program stack.tail rest
  | stack, .failed .. :: rest => emitted program stack.tail rest
  | stack, .consumed .. :: rest => emitted program stack rest
  | stack, .wrote written :: rest =>
    if stack.head? = some program then written.parts ++ emitted program stack rest else emitted program stack rest

-- A line that the patterns of the frames match.
def framed (line : Text) : Bool := (invoked line).isSome || exited line

theorem base58_solid {c : Char} (allowed : isBase58 c = true) : isSpace c = false ∧ c ≠ ':' := by
  simp only [isBase58,decide_eq_true_eq,Bool.decide_or,Bool.decide_and,Bool.or_eq_true,Bool.and_eq_true] at allowed
  constructor
  · unfold isSpace
    dsimp only
    rw [decide_eq_false_iff_not]
    omega
  · intro colon
    have code : c.toNat = 58 := by rw [colon]; rfl
    omega

theorem program_solid (program : ProgramId) : ∀ c ∈ program.val, isSpace c = false :=
  fun c inside => (base58_solid (List.all_eq_true.mp program.2.2 c inside)).1

theorem channel_solid (channel : Channel) : ∀ c ∈ channel.word, isSpace c = false := by
  cases channel <;> simp [Channel.word,isSpace]

theorem channel_named (channel : Channel) : channel.word ≠ [] := by
  cases channel <;> decide

-- No program is called as a channel is.
theorem program_channel (program : ProgramId) (channel : Channel) : program.val ≠ channel.word := by
  intro same
  have colon : ':' ∈ program.val := by
    rw [same]
    cases channel <;> decide
  exact (base58_solid (List.all_eq_true.mp program.2.2 ':' colon)).2 rfl

theorem afterProgram_line {word rest tail : Text} (solid : ∀ c ∈ word, isSpace c = false) (named : word ≠ [])
    (blank : rest = ' ' :: tail) : afterProgram (lineOf word rest) = some (word,rest) := by
  have start : PROGRAM.isPrefixOf (lineOf word rest) = true := by
    rw [List.isPrefixOf_iff_prefix,lineOf,List.append_assoc]
    exact List.prefix_append _ _
  have later : (lineOf word rest).drop 8 = word ++ rest := by
    rw [lineOf,List.append_assoc]
    exact List.drop_left' rfl
  have ends : isSpace ' ' = true := by decide
  unfold afterProgram
  rw [if_pos start,later,List.takeWhile_append_of_pos (by simpa using solid),List.dropWhile_append_of_pos (by simpa using solid)]
  subst blank
  simp [ends,named]

-- Only a line written as data begins like one.
theorem data_line {word rest tail : Text} (solid : ∀ c ∈ word, isSpace c = false) (named : word ≠ [])
    (blank : rest = ' ' :: tail) : DATA.isPrefixOf (lineOf word rest) = true ↔ word = Channel.data.word := by
  rw [List.isPrefixOf_iff_prefix]
  constructor
  · intro ⟨payload,same⟩
    have regrouped : lineOf Channel.data.word (' ' :: payload) = lineOf word rest := by
      rw [← same]
      simp [lineOf,PROGRAM,DATA,Channel.word]
    have read := afterProgram_line (channel_solid .data) (channel_named .data) (rfl : ' ' :: payload = _)
    rw [regrouped,afterProgram_line solid named blank] at read
    exact (Prod.mk.inj (Option.some.inj read)).1
  · intro same
    exact ⟨tail,by simp [same,blank,lineOf,PROGRAM,DATA,Channel.word]⟩

theorem digits_digit (n : ℕ) : ∀ c ∈ digits n, isDigit c = true := by
  intro c inside
  have plain := Nat.isDigit_of_mem_toDigits (by decide) (by decide) inside
  simp only [Char.isDigit,Bool.and_eq_true,decide_eq_true_eq] at plain
  have low : 48 ≤ c.toNat := plain.1
  have high : c.toNat ≤ 57 := plain.2
  simp [isDigit,low,high]

-- How each line of the runtime reads.
theorem invoke_line (program : ProgramId) (depth : ℕ) : invoked (LogItem.invoke program depth).line = some program.val := by
  have read : afterProgram (LogItem.invoke program depth).line = some (program.val,INVOKE ++ digits depth ++ [']']) :=
    afterProgram_line (program_solid program) program.2.1 rfl
  have start : INVOKE.isPrefixOf (INVOKE ++ digits depth ++ [']']) = true := by
    rw [List.isPrefixOf_iff_prefix,List.append_assoc]
    exact List.prefix_append _ _
  have later : (INVOKE ++ digits depth ++ [']']).drop 9 = digits depth ++ [']'] := by
    rw [List.append_assoc]
    exact List.drop_left' rfl
  have bracket : isDigit ']' = false := by decide
  have some_digit : digits depth ≠ [] := Nat.toDigits_ne_nil
  unfold invoked
  rw [read,Option.bind_some]
  dsimp only
  rw [if_pos start,later,List.takeWhile_append_of_pos (digits_digit depth),List.dropWhile_append_of_pos (digits_digit depth)]
  simp [bracket,some_digit]

theorem invoked_other {word rest tail : Text} (solid : ∀ c ∈ word, isSpace c = false) (named : word ≠ [])
    (blank : rest = ' ' :: tail) (other : INVOKE.isPrefixOf rest = false) : invoked (lineOf word rest) = none := by
  unfold invoked
  rw [afterProgram_line solid named blank,Option.bind_some]
  dsimp only
  rw [other,if_neg Bool.false_ne_true]

theorem exited_line {word rest tail : Text} (solid : ∀ c ∈ word, isSpace c = false) (named : word ≠ [])
    (blank : rest = ' ' :: tail) :
    exited (lineOf word rest) = (SUCCESS.isPrefixOf rest || FAILED.isPrefixOf rest) := by
  unfold exited
  rw [afterProgram_line solid named blank]
  rfl

theorem invoked_channel {written : Written} {word : Text} (opened : invoked written.line = some word) :
    word = written.channel.word := by
  unfold invoked at opened
  rw [Written.line,afterProgram_line (channel_solid _) (channel_named _) rfl,Option.bind_some] at opened
  dsimp only at opened
  split at opened
  · split at opened
    · exact (Option.some.inj opened).symm
    · cases opened
  · cases opened

theorem written_data (written : Written) : DATA.isPrefixOf written.line = true ↔ written.channel = .data := by
  rw [Written.line,data_line (channel_solid _) (channel_named _) rfl]
  cases written.channel <;> decide

-- One line: what the frames' patterns do with it.
theorem step_invoke (program other : ProgramId) (depth : ℕ) (stack lines : List Text) :
    programEvents program.val stack ((LogItem.invoke other depth).line :: lines) =
      programEvents program.val (other.val :: stack) lines := by
  rw [programEvents,invoke_line]

theorem step_success (program other : ProgramId) (stack lines : List Text) :
    programEvents program.val stack ((LogItem.success other).line :: lines) = programEvents program.val stack.tail lines := by
  have opened : invoked (LogItem.success other).line = none := invoked_other (program_solid other) other.2.1 rfl rfl
  have closed : exited (LogItem.success other).line = true := exited_line (program_solid other) other.2.1 rfl
  rw [programEvents,opened,closed]
  rfl

theorem step_failed (program other : ProgramId) (reason : Text) (stack lines : List Text) :
    programEvents program.val stack ((LogItem.failed other reason).line :: lines) = programEvents program.val stack.tail lines := by
  have opened : invoked (LogItem.failed other reason).line = none := invoked_other (program_solid other) other.2.1 rfl rfl
  have closed : exited (LogItem.failed other reason).line = true := exited_line (program_solid other) other.2.1 rfl
  rw [programEvents,opened,closed]
  rfl

theorem step_consumed (program other : ProgramId) (used budget : ℕ) (stack lines : List Text) :
    programEvents program.val stack ((LogItem.consumed other used budget).line :: lines) = programEvents program.val stack lines := by
  have opened : invoked (LogItem.consumed other used budget).line = none := invoked_other (program_solid other) other.2.1 rfl rfl
  have closed : exited (LogItem.consumed other used budget).line = false := exited_line (program_solid other) other.2.1 rfl
  have plain : ¬DATA.isPrefixOf (LogItem.consumed other used budget).line = true :=
    fun data => program_channel other .data ((data_line (program_solid other) other.2.1 rfl).mp data)
  rw [programEvents,opened,closed]
  simp [plain]

-- A line a program wrote, where the patterns leave it alone.
theorem step_wrote (program : ProgramId) {written : Written} (plain : framed written.line = false) (stack lines : List Text) :
    programEvents program.val stack (written.line :: lines) =
      if stack.head? = some program.val then written.parts ++ programEvents program.val stack lines
      else programEvents program.val stack lines := by
  have unread : invoked written.line = none ∧ exited written.line = false := by
    simpa [framed] using plain
  rw [programEvents,unread.1,unread.2]
  dsimp only
  rw [if_neg Bool.false_ne_true]
  unfold Written.parts
  by_cases data : written.channel = .data
  · simp only [(written_data written).mpr data,data,if_true,true_and]
  · have plain : DATA.isPrefixOf written.line = false := Bool.eq_false_iff.mpr fun read => data ((written_data written).mp read)
    simp [plain,data]

-- A line a program wrote that the patterns take for a frame yields nothing itself.
theorem step_framed (program : ProgramId) {written : Written} (misread : framed written.line = true) (stack lines : List Text) :
    programEvents program.val stack (written.line :: lines) =
      programEvents program.val (written.channel.word :: stack) lines ∨
    programEvents program.val stack (written.line :: lines) = programEvents program.val stack.tail lines := by
  cases opened : invoked written.line with
  | some word =>
    rw [programEvents,opened,invoked_channel opened]
    exact .inl rfl
  | none =>
    have closed : exited written.line = true := by simpa [framed,opened] using misread
    rw [programEvents,opened,closed]
    exact .inr rfl

-- The stack of the patterns is the stack of the runtime as long as no written line reads as a frame.
theorem attributed {items : List LogItem} (plain : ∀ written, .wrote written ∈ items → framed written.line = false)
    (program : ProgramId) (stack : List ProgramId) :
    programEvents program.val (stack.map (·.val)) (items.map LogItem.line) = emitted program stack items := by
  induction items generalizing stack with
  | nil => rfl
  | cons item rest ih =>
    have later := ih fun written inside => plain written (List.mem_cons_of_mem _ inside)
    rw [List.map_cons]
    cases item with
    | invoke other depth => exact (step_invoke program other depth _ _).trans (later (other :: stack))
    | success other => exact (step_success program other _ _).trans (List.map_tail (l := stack) ▸ later stack.tail)
    | failed other reason => exact (step_failed program other reason _ _).trans (List.map_tail (l := stack) ▸ later stack.tail)
    | consumed other used budget => exact (step_consumed program other used budget _ _).trans (later stack)
    | wrote written =>
      have head : (stack.map (·.val)).head? = some program.val ↔ stack.head? = some program := by
        cases stack with
        | nil => simp
        | cons running stack => simp [Subtype.ext_iff]
      refine (step_wrote program (plain written List.mem_cons_self) _ _).trans ?_
      simp only [head,later stack,emitted]

-- Without payload there is nothing to attribute.
theorem nothing_emitted {items : List LogItem} (bare : ∀ written, .wrote written ∈ items → written.parts = [])
    (program : ProgramId) (stack : List ProgramId) : emitted program stack items = [] := by
  induction items generalizing stack with
  | nil => rfl
  | cons item rest ih =>
    have later := ih fun written inside => bare written (List.mem_cons_of_mem _ inside)
    cases item with
    | invoke other depth => exact later _
    | success other => exact later _
    | failed other reason => exact later _
    | consumed other used budget => exact later _
    | wrote written => simp [emitted,bare written List.mem_cons_self,later]

theorem nothing_found {items : List LogItem} (bare : ∀ written, .wrote written ∈ items → written.parts = [])
    (program : ProgramId) (stack : List Text) : programEvents program.val stack (items.map LogItem.line) = [] := by
  induction items generalizing stack with
  | nil => rfl
  | cons item rest ih =>
    have later := ih fun written inside => bare written (List.mem_cons_of_mem _ inside)
    rw [List.map_cons]
    cases item with
    | invoke other depth => exact (step_invoke program other depth _ _).trans (later _)
    | success other => exact (step_success program other _ _).trans (later _)
    | failed other reason => exact (step_failed program other reason _ _).trans (later _)
    | consumed other used budget => exact (step_consumed program other used budget _ _).trans (later _)
    | wrote written =>
      cases misread : framed written.line with
      | true =>
        rcases step_framed program misread stack (rest.map LogItem.line) with pushed | popped
        · exact pushed.trans (later _)
        · exact popped.trans (later _)
      | false =>
        refine (step_wrote program misread stack _).trans ?_
        simp [bare written List.mem_cons_self,later]

-- A program of one letter, to build a log with.
def ProgramId.a : ProgramId := ⟨['A'],by decide⟩

def around (lines : List Written) : List LogItem := .invoke .a 1 :: (lines.map .wrote ++ [.success .a])

theorem around_nested (lines : List Written) : Nested [] (around lines) := by
  refine ⟨rfl,?_⟩
  induction lines with
  | nil => exact ⟨rfl,rfl⟩
  | cons first rest ih => exact ⟨List.cons_ne_nil _ _,ih⟩

theorem around_written {lines : List Written} {written : Written} (inside : .wrote written ∈ around lines) : written ∈ lines := by
  simpa [around] using inside

theorem around_emitted (lines : List Written) : emitted .a [] (around lines) = lines.flatMap Written.parts := by
  unfold around
  rw [emitted]
  induction lines with
  | nil => rfl
  | cons first rest ih => simpa [emitted] using ih

-- A payload that follows a misread line of the same frame is lost.
theorem payload_lost {misread payload : Written} (framed_line : framed misread.line = true) (plain : framed payload.line = false) :
    programEvents ProgramId.a.val [] ((around [misread,payload]).map LogItem.line) = [] := by
  have last (stack : List Text) : programEvents ProgramId.a.val stack [(LogItem.success .a).line] = [] :=
    step_success .a .a stack []
  refine (step_invoke .a .a 1 [] _).trans ?_
  rcases step_framed .a framed_line [ProgramId.a.val] [payload.line,(LogItem.success .a).line] with pushed | popped
  · have other : ¬(misread.channel.word :: [ProgramId.a.val]).head? = some ProgramId.a.val := by
      rw [List.head?_cons,Option.some_inj]
      exact fun same => program_channel .a misread.channel same.symm
    exact pushed.trans ((step_wrote .a plain _ _).trans ((if_neg other).trans (last _)))
  · have empty : ¬([ProgramId.a.val].tail).head? = some ProgramId.a.val := nofun
    exact popped.trans ((step_wrote .a plain _ _).trans ((if_neg empty).trans (last _)))

theorem own_payload_lost {misread : Written} (framed_line : framed misread.line = true) :
    programEvents ProgramId.a.val [] ((around [misread]).map LogItem.line) = [] := by
  have last (stack : List Text) : programEvents ProgramId.a.val stack [(LogItem.success .a).line] = [] :=
    step_success .a .a stack []
  refine (step_invoke .a .a 1 [] _).trans ?_
  rcases step_framed .a framed_line [ProgramId.a.val] [(LogItem.success .a).line] with pushed | popped
  · exact pushed.trans (last _)
  · exact popped.trans (last _)

-- Every log whose programs write lines of a given set is attributed to the emitting programs, for exactly the sets in
-- which no line reads as a frame (or no line has a payload at all).
theorem attribution_exact (written : Set Written) :
    (∀ items, Nested [] items → (∀ line, .wrote line ∈ items → line ∈ written) → ∀ program : ProgramId,
      programEvents program.val [] (items.map LogItem.line) = emitted program [] items) ↔
    (∀ line ∈ written, line.parts = []) ∨ ∀ line ∈ written, framed line.line = false := by
  constructor
  · intro right
    by_contra neither
    push Not at neither
    obtain ⟨⟨payload,used,carries⟩,misread,used',frames⟩ := neither
    have frames : framed misread.line = true := by simpa using frames
    cases plain : framed payload.line with
    | true =>
      have found := right (around [payload]) (around_nested _) (fun line inside => by
        rw [List.mem_singleton.mp (around_written inside)]
        exact used) .a
      rw [own_payload_lost plain,around_emitted] at found
      exact carries (by simpa using found.symm)
    | false =>
      have found := right (around [misread,payload]) (around_nested _) (fun line inside => by
        rcases List.mem_cons.mp (around_written inside) with first | second
        · exact first ▸ used'
        · exact List.mem_singleton.mp second ▸ used) .a
      rw [payload_lost frames plain,around_emitted] at found
      simp only [List.flatMap_cons,List.flatMap_nil,List.append_nil] at found
      exact carries (List.append_eq_nil_iff.mp found.symm).2
  · intro harmless items _ within program
    rcases harmless with bare | plain
    · have none : ∀ line, .wrote line ∈ items → line.parts = [] := fun line inside => bare line (within line inside)
      rw [nothing_emitted none]
      exact nothing_found none program []
    · exact attributed (fun line inside => plain line (within line inside)) program []

namespace Forged

-- The escrow program, and a program it calls.
def escrow : ProgramId := ⟨"9vabByStbAqKH6sM6fuf8HhfGZbV3993Ncp3uZScexKL".toList,by decide +kernel⟩
def callee : ProgramId := ⟨"7dCr825ibTyE6Y5oPHP2RCmUi5qFPCaKdZmE9TYeAcWL".toList,by decide +kernel⟩

-- The callee logs the word of a closing frame, then data.
def items : List LogItem :=
  [.invoke escrow 1,.invoke callee 2,.wrote ⟨.log,"success".toList⟩,.wrote ⟨.data,"AQID".toList⟩,.success callee,.success escrow]

-- Its data passes for the escrow program's.
theorem data_misattributed : Nested [] items ∧ emitted escrow [] items = [] ∧
    programEvents escrow.val [] (items.map LogItem.line) = [[1,2,3]] := by decide +kernel

end Forged
end FlaconVault.Verifier.Logs
