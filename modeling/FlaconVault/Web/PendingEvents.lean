import FlaconVault.Lib.JsonDicts
import FlaconVault.Lib.Outbox
import FlaconVault.Lib.Runs
namespace FlaconVault.Web
open Outbox

-- Escrow transactions that landed while their history entry has not reached the verifier, kept for each order in the
-- browser's localStorage. JSON.parse and JSON.stringify, and what the page asks of a parsed value:
structure JsonText (υ : Type) where
  parse : String → Option υ
  stringify : List υ → String
  items : υ → Option (List υ)
  property : υ → String → Option υ
  string : υ → Option String
  isNumber : υ → Bool
  isObject : υ → Bool
  blank : parse "" = none
  parsed : ∀ list, ∃ whole, parse (stringify list) = some whole ∧ items whole = some list

namespace JsonText
variable {υ : Type} (json : JsonText υ)

def isPending (v : υ) : Bool :=
  ((json.property v "sig").bind json.string).any (· ≠ "") && (json.property v "type").any json.isNumber &&
    (json.property v "payload").any json.isObject

abbrev PendingEvent := {v : υ // json.isPending v = true}

def sig (p : json.PendingEvent) : String := ((json.property p.1 "sig").bind json.string).getD ""

def asPending (v : υ) : Option json.PendingEvent := if pending : json.isPending v = true then some ⟨v,pending⟩ else none

-- A list, or a single object written by an older build; anything malformed is dropped.
def parsePending (raw : Option String) : List json.PendingEvent :=
  match raw.filter (· ≠ "") with
  | none => []
  | some text =>
    match json.parse text with
    | none => []
    | some v => ((json.items v).getD [v]).filterMap json.asPending

def withPending (list : List json.PendingEvent) (p : json.PendingEvent) : List json.PendingEvent := put json.sig list p
def withoutPending (list : List json.PendingEvent) (gone : String) : List json.PendingEvent := remove json.sig list gone

end JsonText

structure KeyValue where
  getItem : String → Option String

namespace KeyValue
def setItem (kv : KeyValue) (key value : String) : KeyValue := ⟨Function.update kv.getItem key (some value)⟩
def removeItem (kv : KeyValue) (key : String) : KeyValue := ⟨Function.update kv.getItem key none⟩

@[simp] theorem getItem_setItem (kv : KeyValue) (key value other : String) :
    (kv.setItem key value).getItem other = if other = key then some value else kv.getItem other := Function.update_apply _ _ _ _
@[simp] theorem getItem_removeItem (kv : KeyValue) (key other : String) :
    (kv.removeItem key).getItem other = if other = key then none else kv.getItem other := Function.update_apply _ _ _ _
end KeyValue

-- Whether the browser lets the page read and write its storage: a call on blocked storage throws, a write into a full one too.
structure Access where
  readable : Bool
  writable : Bool

def Access.works (access : Access) : Bool := access.readable && access.writable

def pendingKey (order : String) : String := "fv.pendingEvent." ++ order

-- How the POST of an entry ended.
inductive Posting (ω : Type) where
  | posted
  | threw (error : ω)

section Stored
variable {υ : Type} (json : JsonText υ) {ω : Type}

def loadPending (order : String) (kv : KeyValue) (access : Access) : List json.PendingEvent :=
  if access.readable then json.parsePending (kv.getItem (pendingKey order)) else []

def savePending (order : String) (list : List json.PendingEvent) (kv : KeyValue) (access : Access) : KeyValue :=
  if access.writable then
    if list = [] then kv.removeItem (pendingKey order)
    else kv.setItem (pendingKey order) (json.stringify (list.map Subtype.val))
  else kv

def rememberPending (order : String) (p : json.PendingEvent) (kv : KeyValue) (access : Access) :
    List json.PendingEvent × KeyValue :=
  let list := json.withPending (loadPending json order kv access) p
  (list,savePending json order list kv access)

def forgetPending (order sig : String) (kv : KeyValue) (access : Access) : List json.PendingEvent × KeyValue :=
  let list := json.withoutPending (loadPending json order kv access) sig
  (list,savePending json order list kv access)

def settled (isSettled : ω → Bool) : Posting ω → Answer ω
  | .posted => .done
  | .threw error => if isSettled error then .done else .failed error

-- What is left and the first error, when the entries were posted in their order and ended like this.
def flushPending (list : List json.PendingEvent) (isSettled : ω → Bool) (postings : List (Posting ω)) :
    List json.PendingEvent × Option ω :=
  drain json.sig list (postings.map (settled isSettled))

variable (ω) in
-- A page between the start and the end of a flush, with the answers it has so far.
structure Flush where
  order : String
  list : List json.PendingEvent
  postings : List (Posting ω)

variable (ω) in
-- The pages open in a browser share its storage. The code of a page between two awaits is one step.
structure Browser where
  storage : KeyValue
  flushes : ℕ → Option (Flush json ω)

variable (ω) in
inductive PageEvent where
  | land (order : String) (p : json.PendingEvent) (access : Access)
  | start (page : ℕ) (order : String) (access : Access)
  | answer (page : ℕ) (posting : Posting ω)
  | finish (page : ℕ) (access : Access)
  | forget (order sig : String) (access : Access)
  | leave (page : ℕ)

variable (isSettled : ω → Bool)

-- A page flushes once at a time: its buttons are disabled meanwhile.
def pageStep (event : PageEvent json ω) (s : Browser json ω) : Browser json ω :=
  match event with
  | .land order p access => {s with storage := (rememberPending json order p s.storage access).2}
  | .start page order access =>
    match s.flushes page with
    | none => {s with flushes := Function.update s.flushes page (some ⟨order,loadPending json order s.storage access,[]⟩)}
    | some _ => s
  | .answer page posting =>
    match s.flushes page with
    | none => s
    | some flush =>
      if flush.postings.length < flush.list.length then
        {s with flushes := Function.update s.flushes page (some {flush with postings := flush.postings ++ [posting]})}
      else s
  | .finish page access =>
    match s.flushes page with
    | none => s
    | some flush =>
      if flush.postings.length = flush.list.length then
        ⟨savePending json flush.order (flushPending json flush.list isSettled flush.postings).1 s.storage access,
          Function.update s.flushes page none⟩
      else s
  | .forget order sig access => {s with storage := (forgetPending json order sig s.storage access).2}
  | .leave page => {s with flushes := Function.update s.flushes page none}

-- What a visit finds stored for an order.
def pendingAt (s : Browser json ω) (order : String) : List json.PendingEvent := json.parsePending (s.storage.getItem (pendingKey order))

end Stored

-- JSON whose numbers are integers.
abbrev IntegralJson := {value : Json // Json.distinct value = true}

namespace IntegralJson

theorem array_distinct (list : List IntegralJson) : Json.distinct (.arr (list.map Subtype.val)) = true := by
  refine Json.distinctAll_iff.mpr ?_
  intro item inside
  obtain ⟨value,-,rfl⟩ := List.mem_map.mp inside
  exact value.2

def ofJson (value : Json) : Option IntegralJson := if apart : Json.distinct value = true then some ⟨value,apart⟩ else none

def parse (text : String) : Option IntegralJson := (Json.loads text.toList).bind ofJson
def stringify (list : List IntegralJson) : String := String.ofList (Json.write 0 (.arr (list.map Subtype.val)))

def itemsOf : Json → Option (List Json)
  | .arr items => some items
  | _ => none

def fieldsOf : Json → List (String × Json)
  | .obj fields => fields
  | _ => []

def stringOf : Json → Option String
  | .str text => some text
  | _ => none

def isInt : Json → Bool
  | .int _ => true
  | _ => false

def isNested : Json → Bool
  | .obj _ => true
  | .arr _ => true
  | _ => false

theorem parse_blank : parse "" = none := by decide

theorem parse_stringify (list : List IntegralJson) :
    ∃ whole, parse (stringify list) = some whole ∧ (itemsOf whole.1).map (List.filterMap ofJson) = some list := by
  refine ⟨⟨.arr (list.map Subtype.val),array_distinct list⟩,?_,?_⟩
  · rw [parse,stringify,String.toList_ofList,Json.loads_write (array_distinct list)]
    exact dif_pos (array_distinct list)
  · simp only [itemsOf,Option.map_some,List.filterMap_map]
    congr 1
    have kept : ofJson ∘ Subtype.val = some := by
      funext value
      exact dif_pos value.2
    rw [kept,List.filterMap_some]

end IntegralJson

def JsonText.integral : JsonText IntegralJson where
  parse := IntegralJson.parse
  stringify := IntegralJson.stringify
  items value := (IntegralJson.itemsOf value.1).map (List.filterMap IntegralJson.ofJson)
  property value key := (Json.get (IntegralJson.fieldsOf value.1) key).bind IntegralJson.ofJson
  string value := IntegralJson.stringOf value.1
  isNumber value := IntegralJson.isInt value.1
  isObject value := IntegralJson.isNested value.1
  blank := IntegralJson.parse_blank
  parsed := IntegralJson.parse_stringify

end FlaconVault.Web
