import FlaconVault.Web.PendingEvents
namespace FlaconVault.Web
open Outbox

section
variable {υ ω : Type} {json : JsonText υ} {isSettled : ω → Bool}

theorem pendingKey_inj {first second : String} : pendingKey first = pendingKey second ↔ first = second := by
  constructor
  · intro same
    have texts := congrArg String.toList same
    simp only [pendingKey,String.toList_append] at texts
    exact String.toList_inj.mp (List.append_cancel_left texts)
  · exact congrArg pendingKey

theorem asPending_val (list : List json.PendingEvent) : (list.map Subtype.val).filterMap json.asPending = list := by
  rw [List.filterMap_map]
  have kept : json.asPending ∘ Subtype.val = some := by
    funext p
    exact dif_pos p.2
  rw [kept,List.filterMap_some]

-- What was stored is read back.
theorem parse_stored (list : List json.PendingEvent) : json.parsePending (some (json.stringify (list.map Subtype.val))) = list := by
  obtain ⟨whole,read,items⟩ := json.parsed (list.map Subtype.val)
  have something : json.stringify (list.map Subtype.val) ≠ "" := by
    intro nothing
    rw [nothing,json.blank] at read
    cases read
  have given : (some (json.stringify (list.map Subtype.val))).filter (· ≠ "") = some (json.stringify (list.map Subtype.val)) :=
    Option.filter_some_pos (decide_eq_true something)
  simp only [JsonText.parsePending,given,read,items,Option.getD_some]
  exact asPending_val list

theorem pending_saved (order : String) (list : List json.PendingEvent) (kv : KeyValue) (access : Access) (other : String) :
    json.parsePending ((savePending json order list kv access).getItem (pendingKey other)) =
      if access.writable = true ∧ other = order then list else json.parsePending (kv.getItem (pendingKey other)) := by
  unfold savePending
  by_cases writable : access.writable = true
  · rw [if_pos writable]
    by_cases here : other = order
    · subst here
      have written : access.writable = true ∧ other = other := ⟨writable,rfl⟩
      cases list with
      | nil =>
        rw [if_pos rfl,if_pos written,KeyValue.getItem_removeItem,if_pos rfl]
        rfl
      | cons p rest =>
        rw [if_neg (List.cons_ne_nil p rest),if_pos written,KeyValue.getItem_setItem,if_pos rfl]
        exact parse_stored (p :: rest)
    · have apart : pendingKey other ≠ pendingKey order := fun same => here (pendingKey_inj.mp same)
      have elsewhere : ¬(access.writable = true ∧ other = order) := fun both => here both.2
      cases list with
      | nil => rw [if_pos rfl,if_neg elsewhere,KeyValue.getItem_removeItem,if_neg apart]
      | cons p rest => rw [if_neg (List.cons_ne_nil p rest),if_neg elsewhere,KeyValue.getItem_setItem,if_neg apart]
  · rw [if_neg writable,if_neg (fun both => writable both.1)]

theorem load_readable (order : String) (kv : KeyValue) {access : Access} (readable : access.readable = true) :
    loadPending json order kv access = json.parsePending (kv.getItem (pendingKey order)) := if_pos readable

-- What a step writes for an order: what was there, an entry that landed, or what a page going through a flush still had.
inductive Written (isSettled : ω → Bool) (s : Browser json ω) (order : String) (list : List json.PendingEvent) : PageEvent json ω → Prop where
  | same (event : PageEvent json ω) (kept : list = pendingAt json s order) : Written isSettled s order list event
  | landed (p : json.PendingEvent) (access : Access) (writable : access.writable = true)
      (grown : list = json.withPending (loadPending json order s.storage access) p) : Written isSettled s order list (.land order p access)
  | flushed (page : ℕ) (access : Access) (flush : Flush json ω) (open_ : s.flushes page = some flush) (here : flush.order = order)
      (whole : flush.postings.length = flush.list.length)
      (left : list = (flushPending json flush.list isSettled flush.postings).1) : Written isSettled s order list (.finish page access)
  | forgotten (sig : String) (access : Access) (writable : access.writable = true)
      (left : list = json.withoutPending (loadPending json order s.storage access) sig) : Written isSettled s order list (.forget order sig access)

variable (isSettled) in
theorem pending_step (s : Browser json ω) (order : String) (event : PageEvent json ω) :
    Written isSettled s order (pendingAt json (pageStep json isSettled event s) order) event := by
  cases event with
  | land order' p access =>
    by_cases here : access.writable = true ∧ order = order'
    · obtain ⟨writable,rfl⟩ := here
      refine .landed p access writable ?_
      simp only [pendingAt,pageStep,rememberPending,pending_saved]
      exact if_pos ⟨writable,trivial⟩
    · refine .same _ ?_
      simp only [pendingAt,pageStep,rememberPending,pending_saved]
      exact if_neg here
  | start page order' access =>
    refine .same _ ?_
    simp only [pageStep]
    split
    · rfl
    · rfl
  | answer page posting =>
    refine .same _ ?_
    simp only [pageStep]
    split
    · rfl
    · split
      · rfl
      · rfl
  | finish page access =>
    cases open_ : s.flushes page with
    | none =>
      refine .same _ ?_
      simp only [pageStep,open_]
    | some flush =>
      by_cases whole : flush.postings.length = flush.list.length
      · by_cases here : access.writable = true ∧ order = flush.order
        · obtain ⟨writable,rfl⟩ := here
          refine .flushed page access flush open_ rfl whole ?_
          simp only [pageStep,open_,if_pos whole,pendingAt,pending_saved]
          exact if_pos ⟨writable,trivial⟩
        · refine .same _ ?_
          simp only [pageStep,open_,if_pos whole,pendingAt,pending_saved]
          exact if_neg here
      · refine .same _ ?_
        simp only [pageStep,open_,if_neg whole]
  | forget order' sig access =>
    by_cases here : access.writable = true ∧ order = order'
    · obtain ⟨writable,rfl⟩ := here
      refine .forgotten sig access writable ?_
      simp only [pendingAt,pageStep,forgetPending,pending_saved]
      exact if_pos ⟨writable,trivial⟩
    · refine .same _ ?_
      simp only [pendingAt,pageStep,forgetPending,pending_saved]
      exact if_neg here
  | leave page => exact .same _ rfl

variable (json) in
-- The signatures stored for an order.
def signaturesAt (s : Browser json ω) (order : String) : List String := (pendingAt json s order).map json.sig

-- How a stored signature leaves when everything is as it should: its entry was posted, or the verifier was found to hold it,
-- or the page that landed it forgets it after its own post.
inductive Delivers (isSettled : ω → Bool) (s : Browser json ω) (order sig : String) : PageEvent json ω → Prop where
  | posted (page : ℕ) (access : Access) (flush : Flush json ω) (i : ℕ) (p : json.PendingEvent) (posting : Posting ω)
      (open_ : s.flushes page = some flush) (here : flush.order = order) (tried : flush.list[i]? = some p)
      (same : json.sig p = sig) (answered : flush.postings[i]? = some posting) (done : settled isSettled posting = .done) :
      Delivers isSettled s order sig (.finish page access)
  | forgotten (access : Access) : Delivers isSettled s order sig (.forget order sig access)

-- And how it is lost: a page that had read the list before the entry came writes its own back, or a page that cannot read the
-- storage writes to it.
inductive Loses (s : Browser json ω) (order sig : String) : PageEvent json ω → Prop where
  | overtaken (page : ℕ) (access : Access) (flush : Flush json ω) (open_ : s.flushes page = some flush) (here : flush.order = order)
      (unknown : sig ∉ flush.list.map json.sig) : Loses s order sig (.finish page access)
  | blindLand (p : json.PendingEvent) (access : Access) (unread : access.readable = false) (written : access.writable = true) :
      Loses s order sig (.land order p access)
  | blindForget (other : String) (access : Access) (unread : access.readable = false) (written : access.writable = true) :
      Loses s order sig (.forget order other access)

theorem settled_get {postings : List (Posting ω)} {i : ℕ} (done : (postings.map (settled isSettled))[i]? = some .done) :
    ∃ posting, postings[i]? = some posting ∧ settled isSettled posting = .done := by
  rw [List.getElem?_map] at done
  exact Option.map_eq_some_iff.mp done

variable (isSettled) in
theorem signature_step (s : Browser json ω) (order sig : String) (event : PageEvent json ω) (stored : sig ∈ signaturesAt json s order) :
    sig ∈ signaturesAt json (pageStep json isSettled event s) order ∨ Delivers isSettled s order sig event ∨ Loses s order sig event := by
  have written := pending_step isSettled s order event
  unfold signaturesAt
  generalize pendingAt json (pageStep json isSettled event s) order = list at written
  cases written with
  | same _ kept => exact .inl (kept ▸ stored)
  | landed p access writable grown =>
    cases readable : access.readable with
    | false => exact .inr (.inr (.blindLand p access readable writable))
    | true =>
      left
      rw [grown,load_readable _ _ readable,JsonText.withPending,keys_put]
      split
      · exact stored
      · exact List.mem_append_left _ stored
  | flushed page access flush open_ here whole left_ =>
    by_cases known : sig ∈ flush.list.map json.sig
    · obtain ⟨p,inside,rfl⟩ := List.mem_map.mp known
      by_cases waits : p ∈ list
      · exact .inl (List.mem_map_of_mem waits)
      · rw [left_,flushPending,mem_drain,not_and] at waits
        have gone := waits inside
        simp only [not_forall,not_not] at gone
        obtain ⟨i,tried,there,same,done⟩ := gone
        obtain ⟨posting,answered,posted⟩ := settled_get done
        exact .inr (.inl (.posted page access flush i tried posting open_ here there same answered posted))
    · exact .inr (.inr (.overtaken page access flush open_ here known))
  | forgotten other access writable left_ =>
    cases readable : access.readable with
    | false => exact .inr (.inr (.blindForget other access readable writable))
    | true =>
      by_cases same : sig = other
      · subst same
        exact .inr (.inl (.forgotten access))
      · left
        rw [left_,load_readable _ _ readable]
        obtain ⟨p,inside,rfl⟩ := List.mem_map.mp stored
        exact List.mem_map_of_mem (mem_remove.mpr ⟨inside,same⟩)

-- A flush that is going on after a step went on before it with the same list, or the step started it.
theorem flush_step {s : Browser json ω} {event : PageEvent json ω} {page : ℕ} {flush : Flush json ω}
    (open_ : (pageStep json isSettled event s).flushes page = some flush) :
    (∃ old, s.flushes page = some old ∧ old.order = flush.order ∧ old.list = flush.list) ∨
      ∃ access, event = .start page flush.order access ∧ s.flushes page = none ∧
        flush.list = loadPending json flush.order s.storage access := by
  cases event with
  | land order p access => exact .inl ⟨flush,open_,rfl,rfl⟩
  | start other order access =>
    simp only [pageStep] at open_
    split at open_
    · rename_i idle
      by_cases here : page = other
      · subst here
        simp only [Function.update_self,Option.some.injEq] at open_
        subst open_
        exact .inr ⟨access,rfl,idle,rfl⟩
      · simp only [Function.update_of_ne here] at open_
        exact .inl ⟨flush,open_,rfl,rfl⟩
    · exact .inl ⟨flush,open_,rfl,rfl⟩
  | answer other posting =>
    simp only [pageStep] at open_
    split at open_
    · exact .inl ⟨flush,open_,rfl,rfl⟩
    · rename_i old there
      split at open_
      · by_cases here : page = other
        · subst here
          simp only [Function.update_self,Option.some.injEq] at open_
          subst open_
          exact .inl ⟨old,there,rfl,rfl⟩
        · simp only [Function.update_of_ne here] at open_
          exact .inl ⟨flush,open_,rfl,rfl⟩
      · exact .inl ⟨flush,open_,rfl,rfl⟩
  | finish other access =>
    simp only [pageStep] at open_
    split at open_
    · exact .inl ⟨flush,open_,rfl,rfl⟩
    · split at open_
      · by_cases here : page = other
        · subst here
          simp only [Function.update_self] at open_
          cases open_
        · simp only [Function.update_of_ne here] at open_
          exact .inl ⟨flush,open_,rfl,rfl⟩
      · exact .inl ⟨flush,open_,rfl,rfl⟩
  | forget order sig access => exact .inl ⟨flush,open_,rfl,rfl⟩
  | leave other =>
    simp only [pageStep] at open_
    by_cases here : page = other
    · subst here
      simp only [Function.update_self] at open_
      cases open_
    · simp only [Function.update_of_ne here] at open_
      exact .inl ⟨flush,open_,rfl,rfl⟩

theorem load_subset {order : String} {kv : KeyValue} {access : Access} {p : json.PendingEvent}
    (inside : p ∈ loadPending json order kv access) : p ∈ json.parsePending (kv.getItem (pendingKey order)) := by
  unfold loadPending at inside
  split at inside
  · exact inside
  · cases inside

theorem load_nodup {order : String} {kv : KeyValue} (distinct : ((json.parsePending (kv.getItem (pendingKey order))).map json.sig).Nodup)
    (access : Access) : ((loadPending json order kv access).map json.sig).Nodup := by
  unfold loadPending
  split
  · exact distinct
  · exact List.nodup_nil

-- A browser: its pages in any order, from any stored texts and with no page open.
structure BrowserRun (json : JsonText υ) (ω : Type) where
  storage : KeyValue
  schedule : ℕ → PageEvent json ω

namespace BrowserRun
variable (run : BrowserRun json ω)

variable (isSettled) in
def state (n : ℕ) : Browser json ω := Runs.reached (pageStep json isSettled) ⟨run.storage,fun _ => none⟩ run.schedule n

-- An entry that was stored at first or landed before.
def Known (n : ℕ) (order : String) (p : json.PendingEvent) : Prop :=
  p ∈ json.parsePending (run.storage.getItem (pendingKey order)) ∨ ∃ k < n, ∃ access, run.schedule k = .land order p access

variable {run}

theorem Known.next {n : ℕ} {order : String} {p : json.PendingEvent} (known : run.Known n order p) : run.Known (n+1) order p := by
  rcases known with first | ⟨k,before,access,landed⟩
  · exact .inl first
  · exact .inr ⟨k,by omega,access,landed⟩

-- Where the list of a flush comes from.
theorem began (n : ℕ) : ∀ page flush, (run.state isSettled n).flushes page = some flush → ∃ b < n, ∃ access,
    run.schedule b = .start page flush.order access ∧
      flush.list = loadPending json flush.order (run.state isSettled b).storage access := by
  induction n with
  | zero =>
    intro page flush open_
    cases open_
  | succ n ih =>
    intro page flush open_
    rcases flush_step open_ with ⟨old,there,order,list⟩ | ⟨access,started,-,list⟩
    · obtain ⟨b,before,access,started,loaded⟩ := ih page old there
      rw [order] at started loaded
      exact ⟨b,by omega,access,started,list ▸ loaded⟩
    · exact ⟨n,by omega,access,started,list⟩

-- Nothing is made up: neither a stored entry nor one that a page posts.
theorem known_at (n : ℕ) : (∀ order, ∀ p ∈ pendingAt json (run.state isSettled n) order, run.Known n order p) ∧
    ∀ page flush, (run.state isSettled n).flushes page = some flush → ∀ p ∈ flush.list, run.Known n flush.order p := by
  induction n with
  | zero =>
    constructor
    · intro order p inside
      exact .inl inside
    · intro page flush open_
      cases open_
  | succ n ih =>
    obtain ⟨stored,tried⟩ := ih
    constructor
    · intro order p inside
      have written : Written isSettled (run.state isSettled n) order _ (run.schedule n) := pending_step isSettled _ order _
      change p ∈ pendingAt json (pageStep json isSettled (run.schedule n) (run.state isSettled n)) order at inside
      generalize pendingAt json (pageStep json isSettled (run.schedule n) (run.state isSettled n)) order = list at written inside
      generalize called : run.schedule n = event at written
      cases written with
      | same _ kept => exact (stored order p (kept ▸ inside)).next
      | landed q access writable grown =>
        rw [grown] at inside
        rcases mem_put inside with rfl | old
        · exact .inr ⟨n,by omega,access,called⟩
        · exact (stored order p (load_subset old)).next
      | flushed page access flush open_ here whole left_ =>
        rw [left_,flushPending,mem_drain] at inside
        exact here ▸ (tried page flush open_ p inside.1).next
      | forgotten sig access writable left_ =>
        rw [left_] at inside
        exact (stored order p (load_subset (mem_remove.mp inside).1)).next
    · intro page flush open_ p inside
      rcases flush_step open_ with ⟨old,there,order,list⟩ | ⟨access,-,-,list⟩
      · rw [← list] at inside
        exact order ▸ (tried page old there p inside).next
      · rw [list] at inside
        exact (stored flush.order p (load_subset inside)).next

-- From texts without a signature twice, none is ever stored twice, and no page tries one twice in a flush.
theorem distinct_at (first : ∀ order, ((json.parsePending (run.storage.getItem (pendingKey order))).map json.sig).Nodup) (n : ℕ) :
    (∀ order, (signaturesAt json (run.state isSettled n) order).Nodup) ∧
      ∀ page flush, (run.state isSettled n).flushes page = some flush → (flush.list.map json.sig).Nodup := by
  induction n with
  | zero =>
    constructor
    · exact first
    · intro page flush open_
      cases open_
  | succ n ih =>
    obtain ⟨stored,tried⟩ := ih
    constructor
    · intro order
      have written : Written isSettled (run.state isSettled n) order _ (run.schedule n) := pending_step isSettled _ order _
      change ((pendingAt json (pageStep json isSettled (run.schedule n) (run.state isSettled n)) order).map json.sig).Nodup
      generalize pendingAt json (pageStep json isSettled (run.schedule n) (run.state isSettled n)) order = list at written
      generalize run.schedule n = event at written
      cases written with
      | same _ kept => exact kept ▸ stored order
      | landed q access writable grown =>
        rw [grown]
        exact nodup_put (load_nodup (stored order) access) q
      | flushed page access flush open_ here whole left_ =>
        rw [left_,flushPending,drain_left]
        exact (tried page flush open_).sublist (List.filter_sublist.map json.sig)
      | forgotten sig access writable left_ =>
        rw [left_]
        exact nodup_remove (load_nodup (stored order) access) sig
    · intro page flush open_
      rcases flush_step open_ with ⟨old,there,-,list⟩ | ⟨access,-,-,list⟩
      · exact list ▸ tried page old there
      · rw [list]
        exact load_nodup (stored flush.order) access

-- A stored signature stays until a step takes it away.
theorem kept_until {n m : ℕ} (ordered : n ≤ m) {order sig : String} (stored : sig ∈ signaturesAt json (run.state isSettled n) order) :
    sig ∈ signaturesAt json (run.state isSettled m) order ∨ ∃ k, n ≤ k ∧ k < m ∧ sig ∈ signaturesAt json (run.state isSettled k) order ∧
      (Delivers isSettled (run.state isSettled k) order sig (run.schedule k) ∨ Loses (run.state isSettled k) order sig (run.schedule k)) := by
  induction m, ordered using Nat.le_induction with
  | base => exact .inl stored
  | succ m later ih =>
    rcases ih with still | ⟨k,from_,before,there,gone⟩
    · rcases signature_step isSettled _ order sig (run.schedule m) still with stays | gone
      · exact .inl stays
      · exact .inr ⟨m,later,by omega,still,gone⟩
    · exact .inr ⟨k,from_,by omega,there,gone⟩

end BrowserRun

def accessOf : PageEvent json ω → Option Access
  | .land _ _ access => some access
  | .start _ _ access => some access
  | .finish _ access => some access
  | .forget _ _ access => some access
  | _ => none

-- A transaction of the order lands, or a flush of it starts.
def Concerns (order : String) : PageEvent json ω → Prop
  | .land other _ _ => other = order
  | .start _ other _ => other = order
  | _ => False

-- The storage works, and the order is open on one page at a time.
structure OnePage (isSettled : ω → Bool) (run : BrowserRun json ω) (order : String) (m : ℕ) : Prop where
  works : ∀ k < m, ∀ access, accessOf (run.schedule k) = some access → access.works = true
  alone : ∀ k < m, Concerns order (run.schedule k) → ∀ page flush, (run.state isSettled k).flushes page = some flush →
    flush.order ≠ order

-- Then a page that flushes the order has read everything that is stored for it.
structure Attended (s : Browser json ω) (order : String) : Prop where
  one : ∀ page page' flush flush', s.flushes page = some flush → s.flushes page' = some flush' → flush.order = order →
    flush'.order = order → page = page'
  read : ∀ page flush, s.flushes page = some flush → flush.order = order → ∀ sig ∈ signaturesAt json s order,
    sig ∈ flush.list.map json.sig

theorem finish_closes {s : Browser json ω} {page : ℕ} {flush : Flush json ω} (open_ : s.flushes page = some flush)
    (whole : flush.postings.length = flush.list.length) (access : Access) :
    (pageStep json isSettled (.finish page access) s).flushes page = none := by
  simp only [pageStep,open_,if_pos whole,Function.update_self]

theorem attended_at {run : BrowserRun json ω} {order : String} {m : ℕ} (onePage : OnePage isSettled run order m) {k : ℕ}
    (within : k ≤ m) : Attended (run.state isSettled k) order := by
  induction k with
  | zero =>
    refine ⟨?_,?_⟩
    · intro page page' flush flush' open_
      cases open_
    · intro page flush open_
      cases open_
  | succ k ih =>
    obtain ⟨one,read⟩ := ih (by omega)
    have alone := onePage.alone k (by omega)
    refine ⟨?_,?_⟩
    · intro page page' flush flush' open_ open' here here'
      rcases flush_step open_ with ⟨old,there,same,-⟩ | ⟨access,started,-⟩
      · rcases flush_step open' with ⟨old',there',same',-⟩ | ⟨access,started,-⟩
        · exact one page page' old old' there there' (same.trans here) (same'.trans here')
        · exact absurd (same.trans here) (alone (by rw [started]; exact here') page old there)
      · rcases flush_step open' with ⟨old',there',same',-⟩ | ⟨access',started',-⟩
        · exact absurd (same'.trans here') (alone (by rw [started]; exact here) page' old' there')
        · rw [here] at started
          rw [here',started] at started'
          cases started'
          rfl
    · intro page flush open_ here sig stored
      have written : Written isSettled (run.state isSettled k) order _ (run.schedule k) := pending_step isSettled _ order _
      change sig ∈ (pendingAt json (pageStep json isSettled (run.schedule k) (run.state isSettled k)) order).map json.sig at stored
      generalize pendingAt json (pageStep json isSettled (run.schedule k) (run.state isSettled k)) order = list at written stored
      rcases flush_step open_ with ⟨old,there,same,list_same⟩ | ⟨access,started,-,loaded⟩
      · have before := read page old there (same.trans here)
        rw [list_same] at before
        generalize called : run.schedule k = event at written
        cases written with
        | same _ kept =>
          rw [kept] at stored
          exact before sig stored
        | landed p access writable grown =>
          exact absurd (same.trans here) (alone (by rw [called]; rfl) page old there)
        | flushed page' access flush' open' here' whole left_ =>
          obtain rfl := one page page' old flush' there open' (same.trans here) here'
          have closed : (pageStep json isSettled (.finish page access) (run.state isSettled k)).flushes page = none :=
            finish_closes open' whole access
          change (pageStep json isSettled (run.schedule k) (run.state isSettled k)).flushes page = some flush at open_
          rw [called,closed] at open_
          cases open_
        | forgotten other access writable left_ =>
          obtain ⟨p,inside,rfl⟩ := List.mem_map.mp stored
          rw [left_] at inside
          exact before _ (List.mem_map_of_mem (load_subset (mem_remove.mp inside).1))
      · rw [started] at written
        cases written with
        | same _ kept =>
          have works := onePage.works k (by omega) access (by rw [started]; rfl)
          rw [kept] at stored
          rw [loaded,load_readable _ _ (Bool.and_eq_true_iff.mp works).1,here]
          exact stored

theorem OnePage.never_loses {run : BrowserRun json ω} {order sig : String} {m k : ℕ} (onePage : OnePage isSettled run order m)
    (before : k < m) (stored : sig ∈ signaturesAt json (run.state isSettled k) order) :
    ¬Loses (run.state isSettled k) order sig (run.schedule k) := by
  have works := onePage.works k before
  have read := (attended_at onePage (Nat.le_of_lt before)).read
  intro loses
  generalize run.schedule k = event at loses works
  cases loses with
  | overtaken page access flush open_ here unknown => exact unknown (read page flush open_ here sig stored)
  | blindLand p access unread written =>
    have both := works access rfl
    rw [Access.works,unread] at both
    cases both
  | blindForget other access unread written =>
    have both := works access rfl
    rw [Access.works,unread] at both
    cases both

-- The landed transactions of a browser over every interleaving of its pages: they are remembered; they leave by a post, or
-- when a page writes back a list it read before they came; that cannot happen while the order is open on one page at a time
-- and the storage works; nothing else is ever stored or posted; and a flush keeps exactly what failed, in its order.
structure PendingLaw (isSettled : ω → Bool) (run : BrowserRun json ω) : Prop where
  remembered : ∀ n order p access, run.schedule n = .land order p access → access.writable = true →
    p ∈ pendingAt json (run.state isSettled (n+1)) order
  kept : ∀ n m order sig, n ≤ m → sig ∈ signaturesAt json (run.state isSettled n) order →
    sig ∈ signaturesAt json (run.state isSettled m) order ∨ ∃ k, n ≤ k ∧ k < m ∧
      (Delivers isSettled (run.state isSettled k) order sig (run.schedule k) ∨ Loses (run.state isSettled k) order sig (run.schedule k))
  onePage : ∀ n m order sig, n ≤ m → OnePage isSettled run order m → sig ∈ signaturesAt json (run.state isSettled n) order →
    sig ∈ signaturesAt json (run.state isSettled m) order ∨
      ∃ k, n ≤ k ∧ k < m ∧ Delivers isSettled (run.state isSettled k) order sig (run.schedule k)
  genuine : ∀ n order, ∀ p ∈ pendingAt json (run.state isSettled n) order, run.Known n order p
  tried : ∀ n page flush, (run.state isSettled n).flushes page = some flush → (∀ p ∈ flush.list, run.Known n flush.order p) ∧
    ∃ b < n, ∃ access, run.schedule b = .start page flush.order access ∧
      flush.list = loadPending json flush.order (run.state isSettled b).storage access
  flushed : (∀ order, ((json.parsePending (run.storage.getItem (pendingKey order))).map json.sig).Nodup) →
    ∀ n page access flush, run.schedule n = .finish page access → access.writable = true →
      (run.state isSettled n).flushes page = some flush → flush.postings.length = flush.list.length →
      pendingAt json (run.state isSettled (n+1)) flush.order =
        ((flush.list.zip (flush.postings.map (settled isSettled))).filter fun entry => !entry.2.isDone).map Prod.fst

end
end FlaconVault.Web
