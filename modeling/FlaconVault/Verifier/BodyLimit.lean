import FlaconVault.Lib.Bytes
namespace FlaconVault.Verifier.BodyLimit
open Bytes

-- The request body limit, an ASGI middleware. An application is the tree of what it does next: it reads messages, sends
-- messages, and returns or raises. Only an application whose read was aborted can let that exception escape.
inductive Received where
  | request (body : Option (List Byte)) (more : Bool)
  | disconnect
  deriving DecidableEq

inductive Response where
  | start (status : ℕ) (headers : List (String × String))
  | body (content : List Byte) (more : Bool)
  | other (kind : String)
  deriving DecidableEq

inductive App : Bool → Type
  | finish {aborted : Bool} : App aborted
  | throw {aborted : Bool} (error : String) : App aborted
  | rethrow : App true
  | receive {aborted : Bool} (onMessage : Received → App aborted) (onTooLarge : App true) : App aborted
  | send {aborted : Bool} (message : Response) (rest : App aborted) : App aborted

-- What happens, in order: the application got a message or had its read aborted at one, it said a message, one was sent to
-- the client, and how it ended.
inductive Event where
  | got (message : Received)
  | aborted (message : Received)
  | said (message : Response)
  | sent (message : Response)
  | returned
  | raised (error : String)
  | escaped
  deriving DecidableEq

def bodyLength : Received → ℕ
  | .request body _ => (body.getD []).length
  | .disconnect => 0

def isStart : Response → Bool
  | .start _ _ => true
  | _ => false

-- The application without the middleware; when no message is left it waits.
def direct : {aborted : Bool} → App aborted → List Received → List Event
  | _, .finish, _ => [.returned]
  | _, .throw error, _ => [.raised error]
  | _, .rethrow, _ => [.escaped]
  | _, .receive _ _, [] => []
  | _, .receive onMessage _, message :: rest => .got message :: direct (onMessage message) rest
  | _, .send message rest, messages => .said message :: .sent message :: direct rest messages

structure Guarded where
  seen : ℕ
  exceeded : Bool
  started : Bool
  replaced : Bool

-- The complete 413 response.
def refuse : List Response :=
  [.start 413 [⟨"content-type","application/json"⟩,⟨"content-length","31"⟩],
   .body ("\x7b\"detail\": \"request_too_large\"\x7d".toUTF8.toList.map fun byte => Fin.ofNat 256 byte.toNat) false]

def countingReceive (limit : ℕ) (state : Guarded) (message : Received) : Bool × Guarded :=
  match message with
  | .disconnect => ⟨false,state⟩
  | .request _ _ =>
    let seen := state.seen + bodyLength message
    if seen > limit then ⟨true,{state with seen := seen, exceeded := true}⟩ else ⟨false,{state with seen := seen}⟩

def guardedSend (state : Guarded) (message : Response) : List Response × Guarded :=
  if state.exceeded ∧ ¬state.started then
    if ¬state.replaced then ⟨refuse,{state with replaced := true}⟩ else ⟨[],state⟩
  else ⟨[message],{state with started := state.started || isStart message}⟩

-- The application behind counting_receive and guarded_send, and the handler of the exception that escapes.
def guarded (limit : ℕ) : {aborted : Bool} → App aborted → Guarded → List Received → List Event
  | _, .finish, _, _ => [.returned]
  | _, .throw error, _, _ => [.raised error]
  | _, .rethrow, state, _ => .escaped :: (if ¬state.started ∧ ¬state.replaced then refuse.map .sent else [])
  | _, .receive _ _, _, [] => []
  | _, .receive onMessage onTooLarge, state, message :: rest =>
    let next := countingReceive limit state message
    if next.1 then .aborted message :: guarded limit onTooLarge next.2 rest
    else .got message :: guarded limit (onMessage message) next.2 rest
  | _, .send message rest, state, messages =>
    let next := guardedSend state message
    .said message :: next.1.map .sent ++ guarded limit rest next.2 messages

-- int() of bytes: white space around, a sign, digits with single underscores between them, at most 4300 digits.
def isByteSpace (b : Byte) : Bool := (9 ≤ b.val ∧ b.val ≤ 13) ∨ b.val = 32

def digit (b : Byte) : Option ℕ := if 48 ≤ b.val ∧ b.val ≤ 57 then some (b.val-48) else none

def digits : List Byte → Option (List ℕ)
  | [] => none
  | [b] => (digit b).map ([·])
  | b :: c :: rest =>
    if c.val = 95 then do return (← digit b) :: (← digits rest)
    else do return (← digit b) :: (← digits (c :: rest))

def pyNat (text : List Byte) : Option ℕ := do
  let read ← digits text
  if read.length > 4300 then none else some (read.foldl (fun n digit => 10*n + digit) 0)

def pyInt (text : List Byte) : Option Int :=
  match ((text.dropWhile isByteSpace).reverse.dropWhile isByteSpace).reverse with
  | [] => none
  | sign :: rest =>
    if sign.val = 45 then (pyNat rest).map fun n => -(n : Int)
    else if sign.val = 43 then (pyNat rest).map fun n => (n : Int)
    else (pyNat (sign :: rest)).map fun n => (n : Int)

structure Scope where
  http : Bool
  method : String
  path : String
  headers : List (String × List Byte)

def UNLIMITED : List (String × String) := [⟨"POST","/api/media"⟩]

def declared (scope : Scope) : Option (List Byte) := (scope.headers.find? fun header => header.1 = "content-length").map (·.2)

def fresh : Guarded := ⟨0,false,false,false⟩

def bodySizeLimit (limit : ℕ) (scope : Scope) (app : App false) (messages : List Received) : List Event :=
  if scope.http = false ∨ (scope.method,scope.path) ∈ UNLIMITED then direct app messages
  else match declared scope with
    | none => guarded limit app fresh messages
    | some text =>
      match pyInt text with
      | none => refuse.map .sent
      | some length => if length > limit then refuse.map .sent else guarded limit app fresh messages

-- What a log holds.
def delivered (log : List Event) : List Received := log.filterMap fun | .got message => some message | _ => none
def readMessages (log : List Event) : List Received := log.filterMap fun | .got message | .aborted message => some message | _ => none
def saidBy (log : List Event) : List Response := log.filterMap fun | .said message => some message | _ => none
def sentTo (log : List Event) : List Response := log.filterMap fun | .sent message => some message | _ => none
def bodyBytes (messages : List Received) : ℕ := (messages.map bodyLength).sum

-- What the application did; what the client was sent is left out.
def acted (log : List Event) : List Event := log.filter fun | .sent _ => false | _ => true

-- The logs of what an application can do with these messages, up to where none is left, whichever of its reads are aborted.
inductive Ran : {aborted : Bool} → App aborted → List Received → List Event → Prop
  | finish {aborted : Bool} (messages : List Received) : Ran (.finish : App aborted) messages [.returned]
  | throw {aborted : Bool} (error : String) (messages : List Received) : Ran (.throw error : App aborted) messages [.raised error]
  | rethrow (messages : List Received) : Ran .rethrow messages [.escaped]
  | waits {aborted : Bool} (onMessage : Received → App aborted) (onTooLarge : App true) : Ran (.receive onMessage onTooLarge) [] []
  | got {aborted : Bool} (onMessage : Received → App aborted) (onTooLarge : App true) (message : Received) (rest : List Received)
      (log : List Event) (ran : Ran (onMessage message) rest log) :
      Ran (.receive onMessage onTooLarge) (message :: rest) (.got message :: log)
  | aborted {aborted : Bool} (onMessage : Received → App aborted) (onTooLarge : App true) (message : Received) (rest : List Received)
      (log : List Event) (ran : Ran onTooLarge rest log) :
      Ran (.receive onMessage onTooLarge) (message :: rest) (.aborted message :: log)
  | said {aborted : Bool} (message : Response) (rest : App aborted) (messages : List Received) (log : List Event)
      (ran : Ran rest messages log) : Ran (.send message rest) messages (.said message :: log)

def isAborted : Event → Bool
  | .aborted _ => true
  | _ => false

-- The application answers, or lets the exception escape.
def answers (log : List Event) : Bool := log.any fun | .said _ | .escaped => true | _ => false

-- The log up to the read that was aborted, and from there on.
def before (log : List Event) : List Event := log.takeWhile fun event => !isAborted event
def after (log : List Event) : List Event := log.dropWhile fun event => !isAborted event

theorem sentTo_sent (messages : List Response) (log : List Event) : sentTo (messages.map .sent ++ log) = messages ++ sentTo log := by
  induction messages with
  | nil => rfl
  | cons first rest => simp [sentTo]

theorem countingReceive_keeps (limit : ℕ) (state : Guarded) (message : Received) :
    (countingReceive limit state message).2.started = state.started ∧
      (countingReceive limit state message).2.replaced = state.replaced := by
  unfold countingReceive
  split
  · exact ⟨rfl,rfl⟩
  · dsimp only
    split <;> exact ⟨rfl,rfl⟩

theorem guarded_send (limit : ℕ) {aborted : Bool} (message : Response) (rest : App aborted) (state : Guarded) (messages : List Received) :
    guarded limit (.send message rest) state messages = .said message :: ((guardedSend state message).1.map .sent ++
      guarded limit rest (guardedSend state message).2 messages) := rfl

theorem guarded_receive (limit : ℕ) {aborted : Bool} (onMessage : Received → App aborted) (onTooLarge : App true) (state : Guarded)
    (message : Received) (rest : List Received) : guarded limit (.receive onMessage onTooLarge) state (message :: rest) =
      if (countingReceive limit state message).1 then
        .aborted message :: guarded limit onTooLarge (countingReceive limit state message).2 rest
      else .got message :: guarded limit (onMessage message) (countingReceive limit state message).2 rest := rfl

theorem acted_sent (messages : List Response) (log : List Event) : acted (messages.map .sent ++ log) = acted log := by
  induction messages with
  | nil => rfl
  | cons first rest ih => exact ih

-- Behind the middleware the application runs as its tree says.
theorem guarded_ran (limit : ℕ) {aborted : Bool} (app : App aborted) (state : Guarded) (messages : List Received) :
    Ran app messages (acted (guarded limit app state messages)) := by
  induction app generalizing state messages with
  | finish => exact .finish messages
  | throw error => exact .throw error messages
  | rethrow =>
    have escaped (rest : List Response) : acted (.escaped :: rest.map .sent) = [.escaped] := by
      have bare := acted_sent rest []
      rw [List.append_nil] at bare
      exact congrArg (Event.escaped :: ·) bare
    unfold guarded
    split
    · exact (escaped refuse).symm ▸ .rethrow messages
    · exact .rethrow messages
  | receive onMessage onTooLarge ih ih_large =>
    cases messages with
    | nil => exact .waits onMessage onTooLarge
    | cons message rest =>
      rw [guarded_receive]
      split
      · exact .aborted onMessage onTooLarge message rest _ (ih_large _ rest)
      · exact .got onMessage onTooLarge message rest _ (ih message _ rest)
  | send message rest ih =>
    rw [guarded_send]
    have quiet : acted (.said message :: ((guardedSend state message).1.map .sent ++ guarded limit rest (guardedSend state message).2 messages)) =
        .said message :: acted (guarded limit rest (guardedSend state message).2 messages) :=
      congrArg (Event.said message :: ·) (acted_sent _ _)
    rw [quiet]
    exact .said message rest messages _ (ih _ messages)

theorem countingReceive_exceeds (limit : ℕ) (state : Guarded) (message : Received) :
    (countingReceive limit state message).2.exceeded = (state.exceeded || (countingReceive limit state message).1) := by
  unfold countingReceive
  split
  · simp
  · dsimp only
    split <;> simp

theorem countingReceive_seen (limit : ℕ) (state : Guarded) (message : Received) :
    (countingReceive limit state message).2.seen = state.seen + bodyLength message := by
  unfold countingReceive
  split
  · rfl
  · dsimp only
    split <;> rfl

theorem countingReceive_hit (limit : ℕ) (state : Guarded) (message : Received) (hit : (countingReceive limit state message).1 = true) :
    limit < state.seen + bodyLength message := by
  unfold countingReceive at hit
  split at hit
  · cases hit
  · dsimp only at hit
    split at hit
    case isTrue beyond => exact beyond
    case isFalse => cases hit

theorem countingReceive_passed (limit : ℕ) (state : Guarded) (message : Received)
    (passed : (countingReceive limit state message).1 = false) : bodyLength message = 0 ∨ state.seen + bodyLength message ≤ limit := by
  unfold countingReceive at passed
  split at passed
  · exact .inl rfl
  · dsimp only at passed
    split at passed
    case isTrue => cases passed
    case isFalse within => exact .inr (Nat.not_lt.mp within)

theorem guardedSend_seen (state : Guarded) (message : Response) : (guardedSend state message).2.seen = state.seen := by
  unfold guardedSend
  split
  · split <;> rfl
  · rfl

-- Once the application has started its response, everything it says is sent.
theorem started_passes (limit : ℕ) {aborted : Bool} (app : App aborted) {state : Guarded} (started : state.started = true)
    (messages : List Received) : sentTo (guarded limit app state messages) = saidBy (guarded limit app state messages) := by
  induction app generalizing state messages with
  | finish => rfl
  | throw error => rfl
  | rethrow => simp [guarded,started,sentTo,saidBy]
  | receive onMessage onTooLarge ih ih_large =>
    cases messages with
    | nil => rfl
    | cons message rest =>
      have next_started : (countingReceive limit state message).2.started = true := (countingReceive_keeps limit state message).1.trans started
      rw [guarded_receive]
      split
      · exact ih_large next_started rest
      · exact ih message next_started rest
  | send message rest ih =>
    have passed : guardedSend state message = ⟨[message],{state with started := state.started || isStart message}⟩ := by
      unfold guardedSend
      rw [if_neg (by simp [started])]
    rw [guarded_send,passed]
    have later := @ih {state with started := state.started || isStart message} (by simp [started]) messages
    simp only [List.map_cons,List.map_nil,sentTo,saidBy,List.filterMap_cons,List.filterMap_append,List.filterMap_nil] at later ⊢
    simpa using later

-- After the limit was hit before a response: first nothing, then once the 413.
theorem replaced_silent (limit : ℕ) {aborted : Bool} (app : App aborted) {state : Guarded} (exceeded : state.exceeded = true)
    (started : state.started = false) (replaced : state.replaced = true) (messages : List Received) :
    sentTo (guarded limit app state messages) = [] := by
  induction app generalizing state messages with
  | finish => rfl
  | throw error => rfl
  | rethrow => simp [guarded,replaced,sentTo]
  | receive onMessage onTooLarge ih ih_large =>
    cases messages with
    | nil => rfl
    | cons message rest =>
      have next_exceeded : (countingReceive limit state message).2.exceeded = true := by rw [countingReceive_exceeds,exceeded]; rfl
      have next_started := (countingReceive_keeps limit state message).1.trans started
      have next_replaced := (countingReceive_keeps limit state message).2.trans replaced
      rw [guarded_receive]
      split
      · exact ih_large next_exceeded next_started next_replaced rest
      · exact ih message next_exceeded next_started next_replaced rest
  | send message rest ih =>
    have dropped : guardedSend state message = ⟨[],state⟩ := by
      unfold guardedSend
      rw [if_pos ⟨exceeded,by simp [started]⟩,if_neg (by simp [replaced])]
    rw [guarded_send,dropped]
    exact ih exceeded started replaced messages

theorem exceeded_refuses (limit : ℕ) {aborted : Bool} (app : App aborted) {state : Guarded} (exceeded : state.exceeded = true)
    (started : state.started = false) (replaced : state.replaced = false) (messages : List Received) :
    sentTo (guarded limit app state messages) = if answers (guarded limit app state messages) then refuse else [] := by
  induction app generalizing state messages with
  | finish => rfl
  | throw error => rfl
  | rethrow =>
    dsimp only [guarded]
    rw [if_pos (by simp [started,replaced])]
    rfl
  | receive onMessage onTooLarge ih ih_large =>
    cases messages with
    | nil => rfl
    | cons message rest =>
      have next_exceeded : (countingReceive limit state message).2.exceeded = true := by rw [countingReceive_exceeds,exceeded]; rfl
      have next_started := (countingReceive_keeps limit state message).1.trans started
      have next_replaced := (countingReceive_keeps limit state message).2.trans replaced
      rw [guarded_receive]
      split
      · exact ih_large next_exceeded next_started next_replaced rest
      · exact ih message next_exceeded next_started next_replaced rest
  | send message rest ih =>
    have answered : guardedSend state message = ⟨refuse,{state with replaced := true}⟩ := by
      unfold guardedSend
      rw [if_pos ⟨exceeded,by simp [started]⟩,if_pos (by simp [replaced])]
    have silent := @replaced_silent limit _ rest {state with replaced := true} exceeded started rfl messages
    rw [guarded_send,answered]
    have said : answers (.said message :: (refuse.map .sent ++ guarded limit rest {state with replaced := true} messages)) = true := rfl
    have sent : sentTo (.said message :: (refuse.map .sent ++ guarded limit rest {state with replaced := true} messages)) =
        refuse ++ sentTo (guarded limit rest {state with replaced := true} messages) := sentTo_sent refuse _
    rw [sent,silent,List.append_nil,if_pos said]

-- The whole run: what the client gets when the limit is hit before a response is started, and otherwise.
theorem guarded_sends (limit : ℕ) {aborted : Bool} (app : App aborted) (state : Guarded) (fits : aborted = true → state.exceeded = true)
    (exceeded : state.exceeded = false) (started : state.started = false) (replaced : state.replaced = false)
    (messages : List Received) :
    sentTo (guarded limit app state messages) =
      if (saidBy (before (guarded limit app state messages))).any isStart then saidBy (guarded limit app state messages)
      else saidBy (before (guarded limit app state messages)) ++
        if answers (after (guarded limit app state messages)) then refuse else [] := by
  induction app generalizing state messages with
  | finish => rfl
  | throw error => rfl
  | rethrow => cases exceeded.symm.trans (fits rfl)
  | receive onMessage onTooLarge ih ih_large =>
    cases messages with
    | nil => rfl
    | cons message rest =>
      have next_started := (countingReceive_keeps limit state message).1.trans started
      have next_replaced := (countingReceive_keeps limit state message).2.trans replaced
      have next_exceeded := countingReceive_exceeds limit state message
      rw [exceeded,Bool.false_or] at next_exceeded
      rw [guarded_receive]
      cases hit : (countingReceive limit state message).1 with
      | true =>
        rw [hit] at next_exceeded
        rw [if_pos rfl]
        exact exceeded_refuses limit onTooLarge next_exceeded next_started next_replaced rest
      | false =>
        rw [hit] at next_exceeded
        rw [if_neg (by simp)]
        exact ih message _ (fun yes => absurd (fits yes) (by simp [exceeded])) next_exceeded next_started next_replaced rest
  | send message rest ih =>
    have passed : guardedSend state message = ⟨[message],{state with started := state.started || isStart message}⟩ := by
      unfold guardedSend
      rw [if_neg (by simp [exceeded])]
    rw [guarded_send,passed,started,Bool.false_or]
    generalize later_log : guarded limit rest {state with started := isStart message} messages = log
    have sent : sentTo (.said message :: .sent message :: log) = message :: sentTo log := rfl
    have said : saidBy (.said message :: .sent message :: log) = message :: saidBy log := rfl
    have said_before : saidBy (before (.said message :: .sent message :: log)) = message :: saidBy (before log) := rfl
    have same_after : after (.said message :: .sent message :: log) = after log := rfl
    change sentTo (.said message :: .sent message :: log) = if (saidBy (before (.said message :: .sent message :: log))).any isStart
      then saidBy (.said message :: .sent message :: log) else saidBy (before (.said message :: .sent message :: log)) ++
        if answers (after (.said message :: .sent message :: log)) then refuse else []
    rw [sent,said,said_before,same_after,List.any_cons]
    cases opens : isStart message with
    | true =>
      rw [opens] at later_log
      rw [Bool.true_or,if_pos rfl,← later_log,started_passes limit rest rfl messages]
    | false =>
      rw [opens] at later_log
      have later := @ih {state with started := false} (fun yes => absurd (fits yes) (by simp [exceeded])) exceeded rfl replaced messages
      rw [later_log] at later
      rw [Bool.false_or,later]
      split <;> rfl

theorem guarded_delivers (limit : ℕ) {aborted : Bool} (app : App aborted) (state : Guarded) (messages : List Received) :
    bodyBytes (delivered (guarded limit app state messages)) ≤ limit-state.seen := by
  induction app generalizing state messages with
  | finish => exact Nat.zero_le _
  | throw error => exact Nat.zero_le _
  | rethrow =>
    dsimp only [guarded]
    split <;> exact Nat.zero_le _
  | receive onMessage onTooLarge ih ih_large =>
    cases messages with
    | nil => exact Nat.zero_le _
    | cons message rest =>
      have counted := countingReceive_seen limit state message
      rw [guarded_receive]
      split
      case isTrue hit =>
        have later := ih_large (countingReceive limit state message).2 rest
        exact later.trans (by omega)
      case isFalse passed =>
        have later := ih message (countingReceive limit state message).2 rest
        have fits := countingReceive_passed limit state message (by simpa using passed)
        have here : bodyBytes (delivered (.got message :: guarded limit (onMessage message) (countingReceive limit state message).2 rest)) =
            bodyLength message + bodyBytes (delivered (guarded limit (onMessage message) (countingReceive limit state message).2 rest)) := rfl
        rw [here]
        omega
  | send message rest ih =>
    rw [guarded_send]
    have later := ih (guardedSend state message).2 messages
    rw [guardedSend_seen] at later
    have same : delivered (.said message :: ((guardedSend state message).1.map .sent ++
        guarded limit rest (guardedSend state message).2 messages)) =
        delivered (guarded limit rest (guardedSend state message).2 messages) := by
      simp [delivered,List.filterMap_append]
    rw [same]
    exact later

-- A read is aborted exactly when the messages read so far hold more than the limit.
theorem guarded_aborts (limit : ℕ) {aborted : Bool} (app : App aborted) (state : Guarded) (fits : state.seen ≤ limit)
    (messages : List Received) : (guarded limit app state messages).any isAborted = true ↔
      limit < state.seen + bodyBytes (readMessages (guarded limit app state messages)) := by
  induction app generalizing state messages with
  | finish => exact ⟨nofun,fun more => absurd more (Nat.not_lt.mpr fits)⟩
  | throw error => exact ⟨nofun,fun more => absurd more (Nat.not_lt.mpr fits)⟩
  | rethrow =>
    dsimp only [guarded]
    split
    · exact ⟨nofun,fun more => absurd more (Nat.not_lt.mpr fits)⟩
    · exact ⟨nofun,fun more => absurd more (Nat.not_lt.mpr fits)⟩
  | receive onMessage onTooLarge ih ih_large =>
    cases messages with
    | nil => exact ⟨nofun,fun more => absurd more (Nat.not_lt.mpr fits)⟩
    | cons message rest =>
      have counted := countingReceive_seen limit state message
      rw [guarded_receive]
      split
      case isTrue hit =>
        have beyond := countingReceive_hit limit state message hit
        have here : bodyBytes (readMessages (.aborted message :: guarded limit onTooLarge (countingReceive limit state message).2 rest)) =
            bodyLength message + bodyBytes (readMessages (guarded limit onTooLarge (countingReceive limit state message).2 rest)) := rfl
        rw [here]
        exact ⟨fun _ => by omega,fun _ => rfl⟩
      case isFalse passed =>
        have small := countingReceive_passed limit state message (by simpa using passed)
        have later := @ih message (countingReceive limit state message).2 (by omega) rest
        have here : bodyBytes (readMessages (.got message :: guarded limit (onMessage message) (countingReceive limit state message).2 rest)) =
            bodyLength message + bodyBytes (readMessages (guarded limit (onMessage message) (countingReceive limit state message).2 rest)) := rfl
        rw [here,← Nat.add_assoc,← counted]
        exact later
  | send message rest ih =>
    rw [guarded_send]
    have later := @ih (guardedSend state message).2 (by rwa [guardedSend_seen]) messages
    rw [guardedSend_seen] at later
    have same : readMessages (.said message :: ((guardedSend state message).1.map .sent ++
        guarded limit rest (guardedSend state message).2 messages)) =
        readMessages (guarded limit rest (guardedSend state message).2 messages) := by
      simp [readMessages,List.filterMap_append]
    have same_abort : (.said message :: ((guardedSend state message).1.map .sent ++
        guarded limit rest (guardedSend state message).2 messages)).any isAborted =
        (guarded limit rest (guardedSend state message).2 messages).any isAborted := by
      simp [isAborted]
    rw [same,same_abort]
    exact later

-- A body within the limit: the application sees the messages and the client the response as without the middleware.
theorem guarded_direct (limit : ℕ) {aborted : Bool} (app : App aborted) (state : Guarded) (calm : aborted = false)
    (exceeded : state.exceeded = false) (messages : List Received) (within : state.seen + bodyBytes messages ≤ limit) :
    guarded limit app state messages = direct app messages := by
  induction app generalizing state messages with
  | finish => rfl
  | throw error => rfl
  | rethrow => cases calm
  | receive onMessage onTooLarge ih ih_large =>
    cases messages with
    | nil => rfl
    | cons message rest =>
      have counted := countingReceive_seen limit state message
      have whole : bodyBytes (message :: rest) = bodyLength message + bodyBytes rest := rfl
      have passed : (countingReceive limit state message).1 = false := by
        by_contra hit
        have := countingReceive_hit limit state message (by simpa using hit)
        omega
      have still := countingReceive_exceeds limit state message
      rw [exceeded,passed] at still
      rw [guarded_receive,passed,if_neg (by simp),ih message _ calm still rest (by omega)]
      rfl
  | send message rest ih =>
    have passed : guardedSend state message = ⟨[message],{state with started := state.started || isStart message}⟩ := by
      unfold guardedSend
      rw [if_neg (by simp [exceeded])]
    rw [guarded_send,passed]
    have later := @ih {state with started := state.started || isStart message} calm exceeded messages within
    dsimp only
    rw [later]
    rfl

def Limited (scope : Scope) : Prop := scope.http = true ∧ (scope.method,scope.path) ∉ UNLIMITED

-- The header lets the request through to the application.
def Admitted (limit : ℕ) (scope : Scope) : Prop := ∀ text, declared scope = some text → ∃ length, pyInt text = some length ∧ length ≤ limit

theorem bodySizeLimit_admitted {limit : ℕ} {scope : Scope} (limited : Limited scope) (admitted : Admitted limit scope) (app : App false)
    (messages : List Received) : bodySizeLimit limit scope app messages = guarded limit app fresh messages := by
  unfold bodySizeLimit
  rw [if_neg (by rw [limited.1]; simpa using limited.2)]
  split
  case h_1 => rfl
  case h_2 text found =>
    obtain ⟨length,read,small⟩ := admitted text found
    rw [read]
    exact if_neg (not_lt.mpr small)

theorem bodySizeLimit_refused {limit : ℕ} {scope : Scope} (limited : Limited scope) (refused : ¬Admitted limit scope) (app : App false)
    (messages : List Received) : bodySizeLimit limit scope app messages = refuse.map .sent := by
  unfold Admitted at refused
  push Not at refused
  obtain ⟨text,found,refused⟩ := refused
  unfold bodySizeLimit
  rw [if_neg (by rw [limited.1]; simpa using limited.2),found]
  dsimp only
  split
  case h_1 => rfl
  case h_2 length read => exact if_pos (refused length read)

-- What holds of every request but POST /api/media, on its log, which shows a run of the application.
structure BodyLimited (limit : ℕ) (scope : Scope) (app : App false) (messages : List Received) (log : List Event) : Prop where
  ran : Admitted limit scope → Ran app messages (acted log)
  delivered : bodyBytes (delivered log) ≤ limit
  one_start : (saidBy log).countP isStart ≤ 1 → (sentTo log).countP isStart ≤ 1
  header : ¬Admitted limit scope → log = refuse.map .sent
  aborted : log.any isAborted = true ↔ limit < bodyBytes (readMessages log)
  replaced : (saidBy (before log)).any isStart = false → answers (after log) = true → sentTo log = saidBy (before log) ++ refuse
  refused_alone : saidBy (before log) = [] → answers (after log) = true → sentTo log = refuse
  unchanged : Admitted limit scope → bodyBytes messages ≤ limit → log = direct app messages

theorem refuse_start : refuse.countP isStart = 1 := rfl

-- The log of a request the header refuses.
theorem refuse_log : sentTo (refuse.map .sent) = refuse ∧ delivered (refuse.map .sent) = [] ∧ readMessages (refuse.map .sent) = [] ∧
    (refuse.map .sent).any isAborted = false ∧ after (refuse.map .sent) = [] := ⟨rfl,rfl,rfl,rfl,rfl⟩

theorem body_limit (limit : ℕ) (scope : Scope) (app : App false) (messages : List Received) (limited : Limited scope) :
    BodyLimited limit scope app messages (bodySizeLimit limit scope app messages) := by
  by_cases admitted : Admitted limit scope
  · rw [bodySizeLimit_admitted limited admitted]
    have sends := guarded_sends limit app fresh nofun rfl rfl rfl messages
    have aborts := guarded_aborts limit app fresh (Nat.zero_le limit) messages
    have delivers := guarded_delivers limit app fresh messages
    have passes := guarded_direct limit app fresh rfl rfl messages
    have ran := guarded_ran limit app fresh messages
    generalize guarded limit app fresh messages = log at sends aborts delivers passes ran
    have zero : fresh.seen = 0 := rfl
    rw [zero,Nat.zero_add] at aborts passes
    have replaced : (saidBy (before log)).any isStart = false → answers (after log) = true →
        sentTo log = saidBy (before log) ++ refuse := by
      intro silent answered
      rw [sends,if_neg (by simp [silent]),if_pos answered]
    refine ⟨fun _ => ran,delivers,?_,fun refused => absurd admitted refused,aborts,replaced,?_,fun _ => passes⟩
    · intro one
      rw [sends]
      split
      case isTrue => exact one
      case isFalse silent =>
        have none_before : (saidBy (before log)).countP isStart = 0 := by
          rw [List.countP_eq_zero]
          intro message inside start
          exact silent (List.any_eq_true.mpr ⟨message,inside,start⟩)
        rw [List.countP_append,none_before]
        split
        · rw [refuse_start]
        · exact Nat.zero_le _
    · intro nothing answered
      rw [replaced (by rw [nothing]; rfl) answered,nothing]
      rfl
  · rw [bodySizeLimit_refused limited admitted]
    obtain ⟨sent,got,read,not_aborted,nothing_after⟩ := refuse_log
    have unanswered : answers (after (refuse.map .sent)) ≠ true := by
      rw [nothing_after]
      decide
    refine ⟨fun yes => absurd yes admitted,?_,?_,fun _ => rfl,?_,fun _ answered => absurd answered unanswered,fun _ _ => sent,
      fun yes => absurd yes admitted⟩
    · rw [got]
      exact Nat.zero_le _
    · rw [sent,refuse_start]
      exact fun _ => Nat.le_refl _
    · rw [not_aborted,read]
      exact ⟨nofun,fun more => absurd more (Nat.not_lt_zero _)⟩

-- A POST that sends four bytes where three are allowed, to an application that reads twice and then answers.
namespace LongBody
def scope : Scope := ⟨true,"POST","/api/verify",[]⟩

def app : App false :=
  .receive (fun _ => .receive (fun _ => .finish) (.send (.start 400 []) .finish)) (.send (.start 400 []) .finish)

def messages : List Received := [.request (some [0,0]) true,.request (some [0,0]) false]

theorem replaced_by_413 : Limited scope ∧ BodyLimited 3 scope app messages (bodySizeLimit 3 scope app messages) := by
  have limited : Limited scope := ⟨rfl,by decide⟩
  exact ⟨limited,body_limit 3 scope app messages limited⟩

example : sentTo (bodySizeLimit 3 scope app messages) = refuse := rfl

end LongBody

end FlaconVault.Verifier.BodyLimit
