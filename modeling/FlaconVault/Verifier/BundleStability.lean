import FlaconVault.Verifier.Bundles
namespace FlaconVault.Verifier
open Json

-- The code that rewrites a scan's payload works on the loaded dictionary. These are its writes.
section spelled
variable (spell : Pubkey → String)

def setRole (payload : List (String × Json)) : Option ℕ → List (String × Json)
  | some role => setField payload "role" (natural role)
  | none => dropField payload "role"

-- apply_confirmed_scan.
def writeAttestation (payload : List (String × Json)) (attestation : Attestation) : List (String × Json) :=
  let payload := setField payload "confirmed" (attestationJson spell attestation)
  let payload := setField payload "tier" (natural (attestation.tier.getD 0))
  setRole payload attestation.role

-- A cycle's note of its check, and its confirmation.
def writeNote (payload : List (String × Json)) (part : ReconcilePart) : List (String × Json) :=
  setField payload "reconcile" (.obj (reconcileFields spell part))

def writeChain (payload : List (String × Json)) (part : ReconcilePart) (chain : ChainPart) : List (String × Json) :=
  setField (writeNote spell payload part) "chain" (chainJson spell chain)

-- json_set on reconcile.signatureChecked, for a payload with a note.
def writeChecked (payload : List (String × Json)) : List (String × Json) :=
  match get payload "reconcile" with
  | some (.obj part) => setField payload "reconcile" (.obj (setField part "signatureChecked" (.bool true)))
  | _ => payload

variable {spell}

theorem get_optional (name : String) (value : Option Json) (key : String) :
    get (optional name value) key = if key = name then value else none := by
  cases value with
  | none => simp [optional]
  | some value =>
    by_cases here : key = name
    · simp [optional,get_cons,here]
    · have other : name ≠ key := fun same => here same.symm
      simp [optional,get_cons,here,other]

theorem keys_optional (name : String) (value : Option Json) : ((optional name value).map Prod.fst).Sublist [name] := by
  cases value <;> simp [optional]

def SIGNED_KEYS : List String := BUNDLE_KEYS ++ ["grade","reviewRecommended","msgHex","bundleHash"]

theorem keys_buildBundle (bundle : Bundle) : (buildBundle spell bundle).map Prod.fst = BUNDLE_KEYS := rfl

theorem keys_signedFields (scan : ScanPayload) : (signedFields spell scan).map Prod.fst = SIGNED_KEYS := rfl

variable (spell) in
theorem get_signed_none (scan : ScanPayload) (key : String) (extra : key ∉ SIGNED_KEYS) : get (signedFields spell scan) key = none :=
  get_none.mpr (keys_signedFields scan ▸ extra)

theorem get_payload (scan : ScanPayload) (note : Option ReconcilePart) (key : String) :
    get (payloadFields spell scan note) key =
      if key = "siteId" then scan.siteId.map natural
      else if key = "confirmed" then scan.confirmed.map (attestationJson spell)
      else if key = "tier" then scan.tier.map natural
      else if key = "role" then scan.role.map natural
      else if key = "chain" then scan.chain.map (chainJson spell)
      else if key = "reconcile" then note.map fun part => .obj (reconcileFields spell part)
      else get (signedFields spell scan) key := by
  simp only [payloadFields,get_append,get_optional]
  by_cases siteId : key = "siteId"
  · subst siteId
    simp [get_signed_none spell scan "siteId" (by decide)]
  by_cases confirmed : key = "confirmed"
  · subst confirmed
    simp [get_signed_none spell scan "confirmed" (by decide)]
  by_cases tier : key = "tier"
  · subst tier
    simp [get_signed_none spell scan "tier" (by decide)]
  by_cases role : key = "role"
  · subst role
    simp [get_signed_none spell scan "role" (by decide)]
  by_cases chain : key = "chain"
  · subst chain
    simp [get_signed_none spell scan "chain" (by decide)]
  by_cases reconcile : key = "reconcile"
  · subst reconcile
    simp [get_signed_none spell scan "reconcile" (by decide)]
  simp [siteId,confirmed,tier,role,chain,reconcile]

def PAYLOAD_KEYS : List String := SIGNED_KEYS ++ ["siteId","confirmed","tier","role","chain","reconcile"]

theorem payload_nodup (scan : ScanPayload) (note : Option ReconcilePart) : ((payloadFields spell scan note).map Prod.fst).Nodup := by
  have inside : ((payloadFields spell scan note).map Prod.fst).Sublist PAYLOAD_KEYS := by
    simp only [payloadFields,List.map_append,keys_signedFields]
    refine (List.Sublist.refl _).append ?_
    exact (keys_optional _ _).append ((keys_optional _ _).append ((keys_optional _ _).append ((keys_optional _ _).append
      ((keys_optional _ _).append (keys_optional _ _)))))
  have whole : PAYLOAD_KEYS.Nodup := by decide +kernel
  exact inside.nodup whole

theorem bundle_nodup (bundle : Bundle) : ((buildBundle spell bundle).map Prod.fst).Nodup := by
  rw [keys_buildBundle]
  decide +kernel

theorem get_fromPayload (payload : List (String × Json)) (key : String) :
    get (bundleFromPayload payload) key = if key ∈ BUNDLE_KEYS then get payload key else none := by
  unfold bundleFromPayload
  induction BUNDLE_KEYS with
  | nil => rfl
  | cons first rest ih =>
    rw [List.filterMap_cons]
    cases found : get payload first with
    | none =>
      simp only [Option.map_none,ih,List.mem_cons]
      by_cases here : key = first
      · subst here
        simp [found]
      · simp [here]
    | some value =>
      simp only [Option.map_some,get_cons,ih,List.mem_cons]
      by_cases here : key = first
      · subst here
        simp [found]
      · have other : first ≠ key := fun same => here same.symm
        simp [here,other]

theorem fromPayload_nodup (payload : List (String × Json)) : ((bundleFromPayload payload).map Prod.fst).Nodup := by
  have inside : ((bundleFromPayload payload).map Prod.fst).Sublist BUNDLE_KEYS := by
    unfold bundleFromPayload
    induction BUNDLE_KEYS with
    | nil => exact List.Sublist.refl _
    | cons first rest ih =>
      rw [List.filterMap_cons]
      cases get payload first with
      | none => exact ih.cons first
      | some value => exact ih.cons_cons first
  have whole : BUNDLE_KEYS.Nodup := by decide +kernel
  exact inside.nodup whole

-- No extra has the name of a bundle key.
theorem get_payload_bundle (scan : ScanPayload) (note : Option ReconcilePart) {key : String} (bundled : key ∈ BUNDLE_KEYS) :
    get (payloadFields spell scan note) key = get (buildBundle spell scan.bundle) key := by
  have apart : ∀ other ∈ ["siteId","confirmed","tier","role","chain","reconcile","grade","reviewRecommended","msgHex","bundleHash"],
      key ≠ other := by
    intro other extra same
    subst same
    revert extra
    revert bundled
    revert key
    decide +kernel
  rw [get_payload,if_neg (apart _ (by simp)),if_neg (apart _ (by simp)),if_neg (apart _ (by simp)),if_neg (apart _ (by simp)),
    if_neg (apart _ (by simp)),if_neg (apart _ (by simp)),signedFields,get_append]
  have absent : get [("grade",natural scan.grade),("reviewRecommended",Json.bool scan.reviewRecommended),
      ("msgHex",.str (String.ofList (hex scan.msg))),("bundleHash",.str (hex0x scan.bundleHash.val))] key = none := by
    refine get_none.mpr ?_
    intro inside
    simp only [List.map_cons,List.map_nil,List.mem_cons,List.not_mem_nil,or_false] at inside
    rcases inside with same | same | same | same <;> exact apart _ (by simp) same
  rw [absent,Option.or_none]

-- No part of a payload has a key twice.
theorem distinct_orNull {α : Type} {make : α → Json} (apart : ∀ value, distinct (make value) = true) (value : Option α) :
    distinct (orNull make value) = true := by
  cases value with
  | none => rfl
  | some value => exact apart value

theorem distinct_items {α : Type} {make : α → Json} (apart : ∀ value, distinct (make value) = true) (values : List α) :
    distinct (.arr (values.map make)) = true := by
  refine distinctAll_iff.mpr ?_
  intro item inside
  obtain ⟨value,_,rfl⟩ := List.mem_map.mp inside
  exact apart value

theorem distinct_str (text : String) : distinct (.str text) = true := rfl
theorem distinct_bool (value : Bool) : distinct (.bool value) = true := rfl
theorem distinct_natural (value : ℕ) : distinct (natural value) = true := rfl

theorem distinct_optional {name : String} {value : Option Json} (apart : ∀ json ∈ value, distinct json = true) :
    ∀ field ∈ optional name value, distinct field.2 = true := by
  intro field inside
  obtain ⟨json,there,rfl⟩ := List.mem_map.mp inside
  exact apart json (by simpa using there)

theorem distinct_media (media : Media) : distinct (mediaJson media) = true := by
  have ar := distinct_orNull distinct_str media.ar
  simp [mediaJson,distinct,distinctFields,distinctField,ar]

theorem distinct_bundle (bundle : Bundle) : ∀ field ∈ buildBundle spell bundle, distinct field.2 = true := by
  have levels := distinct_items distinct_natural bundle.heatLevels
  have media := distinct_items distinct_media bundle.media
  have country := distinct_orNull distinct_str bundle.location.country
  have city := distinct_orNull distinct_str bundle.location.city
  have pubkey := distinct_orNull (fun key => distinct_str (spell key)) bundle.attester.pubkey
  have sig : distinct (if bundle.server.sig = [] then .null else .str (hex0x bundle.server.sig)) = true := by
    split <;> rfl
  simp only [buildBundle,List.forall_mem_cons,levels,media]
  refine ⟨rfl,rfl,rfl,rfl,rfl,?_,rfl,?_,trivial,rfl,?_,?_,trivial,rfl,?_,?_,?_,?_,rfl,fun _ inside => absurd inside List.not_mem_nil⟩
  · simp [distinct,distinctFields,distinctField]
  · simp [distinct,distinctFields,distinctField,natural]
  · simp [distinct,distinctFields,distinctField]
  · simp [distinct,distinctFields,distinctField,country,city]
  · simp [distinct,distinctFields,distinctField]
  · simp [distinct,distinctFields,distinctField]
  · have key : distinct (orNull (keyJson spell) bundle.attester.pubkey) = true := pubkey
    simp [distinct,distinctFields,distinctField,natural,key]
  · simp [distinct,distinctFields,distinctField,natural,sig]

theorem distinct_attestation (attestation : Attestation) : distinct (attestationJson spell attestation) = true := by
  have attester := distinct_orNull (fun key => distinct_str (spell key)) attestation.attester
  have tier := distinct_orNull distinct_natural attestation.tier
  have role := distinct_orNull distinct_natural attestation.role
  have siteId := distinct_orNull distinct_natural attestation.siteId
  have mismatch := distinct_items distinct_str attestation.mismatch
  have key : distinct (orNull (keyJson spell) attestation.attester) = true := attester
  rw [attestationJson,distinct_obj]
  refine ⟨by simp,?_⟩
  simp only [List.forall_mem_cons,key,tier,role,siteId,mismatch]
  exact ⟨trivial,trivial,trivial,trivial,rfl,trivial,fun _ inside => absurd inside List.not_mem_nil⟩

theorem distinct_chain (chain : ChainPart) : distinct (chainJson spell chain) = true := by
  simp [chainJson,distinct,distinctFields,distinctField,natural,keyJson]

theorem reconcile_nodup (part : ReconcilePart) : ((reconcileFields spell part).map Prod.fst).Nodup := by
  have inside : ((reconcileFields spell part).map Prod.fst).Sublist
      (["checkedAt"] ++ ["scanPda"] ++ ["ignoredAccount"] ++ ["reason"] ++ ["mismatch"] ++ ["signatureChecked"] ++ ["recoveredFrom"]) := by
    simp only [reconcileFields,List.map_append]
    exact ((((((keys_optional _ _).append (keys_optional _ _)).append (keys_optional _ _)).append (keys_optional _ _)).append
      (keys_optional _ _)).append (keys_optional _ _)).append (keys_optional _ _)
  exact inside.nodup (by decide)

theorem distinct_reconcile (part : ReconcilePart) : distinct (.obj (reconcileFields spell part)) = true := by
  refine distinct_obj.mpr ⟨reconcile_nodup part,?_⟩
  have names (found : List String) : distinct (.arr (found.map .str)) = true := distinct_items distinct_str found
  simp only [reconcileFields,List.forall_mem_append]
  refine ⟨⟨⟨⟨⟨⟨?_,?_⟩,?_⟩,?_⟩,?_⟩,?_⟩,?_⟩ <;> refine distinct_optional ?_
  · cases part.checkedAt <;> simp [distinct]
  · cases part.scanPda <;> simp [distinct,keyJson]
  · cases part.ignoredAccount <;> simp [distinct]
  · cases part.reason <;> simp [distinct]
  · cases part.mismatch <;> simp [names]
  · cases part.signatureChecked <;> simp [distinct]
  · cases part.recoveredFrom <;> simp [distinct]

theorem distinct_payload (scan : ScanPayload) (note : Option ReconcilePart) : distinct (.obj (payloadFields spell scan note)) = true := by
  refine distinct_obj.mpr ⟨payload_nodup scan note,?_⟩
  simp only [payloadFields,signedFields,List.forall_mem_append]
  refine ⟨⟨distinct_bundle scan.bundle,?_⟩,?_,?_,?_,?_,?_,?_⟩
  · simp [distinct,natural]
  all_goals refine distinct_optional ?_
  · cases scan.siteId <;> simp [distinct,natural]
  · cases scan.confirmed <;> simp [distinct_attestation]
  · cases scan.tier <;> simp [distinct,natural]
  · cases scan.role <;> simp [distinct,natural]
  · cases scan.chain <;> simp [distinct_chain]
  · cases note <;> simp [distinct_reconcile]

-- The dictionary of a stored payload: what it holds, in any order of its keys.
structure Holds (spell : Pubkey → String) (scan : ScanPayload) (note : Option ReconcilePart) (fields : List (String × Json)) : Prop where
  apart : distinct (.obj fields) = true
  same : sorted (.obj fields) = sorted (.obj (payloadFields spell scan note))

-- The column's text, whatever its spacing.
def Column (spell : Pubkey → String) (scan : ScanPayload) (note : Option ReconcilePart) (text : List Char) : Prop :=
  ∃ fields, loads text = some (.obj fields) ∧ Holds spell scan note fields

section writes
variable {scan : ScanPayload} {note : Option ReconcilePart} {fields : List (String × Json)}

theorem Holds.nodup (held : Holds spell scan note fields) : (fields.map Prod.fst).Nodup := (distinct_obj.mp held.apart).1

theorem Holds.entries (held : Holds spell scan note fields) (key : String) :
    (get fields key).map sorted = (get (payloadFields spell scan note) key).map sorted :=
  sorted_entries held.nodup (payload_nodup scan note) held.same key

theorem Holds.of_entries (apart : distinct (.obj fields) = true)
    (entries : ∀ key, (get fields key).map sorted = (get (payloadFields spell scan note) key).map sorted) :
    Holds spell scan note fields :=
  ⟨apart,sorted_same (distinct_obj.mp apart).1 (payload_nodup scan note) entries⟩

theorem Holds.dumped (held : Holds spell scan note fields) (gap : ℕ) : Column spell scan note (dumps gap (.obj fields)) := by
  refine ⟨ordered (sortedFields fields),loads_dumps held.apart,distinct_sorted (.obj fields) held.apart,?_⟩
  exact (sorted_sorted (.obj fields) held.apart).trans held.same

theorem Column.read {text : List Char} (column : Column spell scan note text) (loaded : loads text = some (.obj fields)) :
    Holds spell scan note fields := by
  obtain ⟨found,there,held⟩ := column
  rw [loaded] at there
  cases there
  exact held

theorem column_signed (scan : ScanPayload) : Column spell scan note (payloadJson spell scan note) :=
  Holds.dumped ⟨distinct_payload scan note,rfl⟩ 1

theorem get_setRole (role : Option ℕ) (key : String) :
    get (setRole fields role) key = if key = "role" then role.map natural else get fields key := by
  cases role with
  | none => exact get_dropField fields "role" key
  | some role => exact get_setField fields "role" (natural role) key

theorem distinct_setRole (apart : distinct (.obj fields) = true) (role : Option ℕ) : distinct (.obj (setRole fields role)) = true := by
  cases role with
  | none => exact distinct_dropField apart "role"
  | some role => exact distinct_setField apart "role" (distinct_natural role)

theorem Holds.attested (held : Holds spell scan note fields) (attestation : Attestation) :
    Holds spell (scan.attested attestation) note (writeAttestation spell fields attestation) := by
  refine .of_entries ?_ ?_
  · have own : distinct (attestationJson spell attestation) = true := distinct_attestation attestation
    have confirmed := distinct_setField held.apart "confirmed" own
    exact distinct_setRole (distinct_setField confirmed "tier" (distinct_natural _)) attestation.role
  · intro key
    have before := held.entries key
    have signed : get (signedFields spell (scan.attested attestation)) key = get (signedFields spell scan) key := rfl
    rw [get_payload] at before
    rw [get_payload,signed,writeAttestation,get_setRole,get_setField,get_setField]
    simp only [ScanPayload.attested]
    by_cases role : key = "role"
    · subst role
      simp
    by_cases tier : key = "tier"
    · subst tier
      simp
    by_cases confirmed : key = "confirmed"
    · subst confirmed
      simp
    simpa [role,tier,confirmed] using before

theorem Holds.noted (held : Holds spell scan note fields) (part : ReconcilePart) :
    Holds spell scan (some part) (writeNote spell fields part) := by
  refine .of_entries (distinct_setField held.apart "reconcile" (distinct_reconcile part)) ?_
  intro key
  have before := held.entries key
  rw [get_payload] at before
  rw [get_payload,writeNote,get_setField]
  by_cases here : key = "reconcile"
  · subst here
    simp
  · simpa [here] using before

theorem Holds.chained (held : Holds spell scan note fields) (part : ReconcilePart) (chain : ChainPart) :
    Holds spell {scan with chain := some chain} (some part) (writeChain spell fields part chain) := by
  have noted := held.noted part
  refine .of_entries (distinct_setField noted.apart "chain" (distinct_chain chain)) ?_
  intro key
  have before := noted.entries key
  have signed : get (signedFields spell {scan with chain := some chain}) key = get (signedFields spell scan) key := rfl
  rw [get_payload] at before
  rw [get_payload,signed,writeChain,get_setField]
  by_cases here : key = "chain"
  · subst here
    simp
  · simpa [here] using before

theorem get_reconcile_checked (part : ReconcilePart) (key : String) :
    get (reconcileFields spell {part with signatureChecked := true}) key =
      if key = "signatureChecked" then some (.bool true) else get (reconcileFields spell part) key := by
  simp only [reconcileFields,get_append,get_optional]
  by_cases here : key = "signatureChecked"
  · subst here
    simp
  · simp [here]

theorem sorted_is_obj {value : Json} {fields : List (String × Json)} (same : sorted value = sorted (.obj fields)) :
    ∃ entries, value = .obj entries := by
  cases value <;> simp [sorted] at same ⊢

theorem Holds.checked {part : ReconcilePart} (held : Holds spell scan (some part) fields) :
    Holds spell scan (some {part with signatureChecked := true}) (writeChecked fields) := by
  have entry := held.entries "reconcile"
  rw [get_payload] at entry
  simp only [reduceIte,Option.map_some,Option.map_eq_some_iff,String.reduceEq] at entry
  obtain ⟨value,found,same⟩ := entry
  obtain ⟨entries,rfl⟩ := sorted_is_obj same
  have own : distinct (.obj entries) = true := (distinct_obj.mp held.apart).2 _ ((get_some held.nodup).mp found)
  have checked := distinct_setField own "signatureChecked" (distinct_bool true)
  have inner : sorted (.obj (setField entries "signatureChecked" (.bool true))) =
      sorted (.obj (reconcileFields spell {part with signatureChecked := true})) := by
    refine sorted_same (distinct_obj.mp checked).1 (reconcile_nodup _) ?_
    intro key
    rw [get_setField,get_reconcile_checked]
    by_cases here : key = "signatureChecked"
    · rw [if_pos here,if_pos here]
    · rw [if_neg here,if_neg here]
      exact sorted_entries (distinct_obj.mp own).1 (reconcile_nodup part) same key
  have writes : writeChecked fields = setField fields "reconcile" (.obj (setField entries "signatureChecked" (.bool true))) := by
    unfold writeChecked
    rw [found]
  rw [writes]
  refine .of_entries (distinct_setField held.apart "reconcile" checked) ?_
  intro key
  have before := held.entries key
  rw [get_payload] at before
  rw [get_payload,get_setField]
  by_cases here : key = "reconcile"
  · subst here
    simp [inner]
  · simpa [here] using before

-- The bundle in a stored payload is the signed one.
theorem Holds.bundle (held : Holds spell scan note fields) :
    sorted (.obj (bundleFromPayload fields)) = sorted (.obj (buildBundle spell scan.bundle)) := by
  refine sorted_same (fromPayload_nodup _) (bundle_nodup _) ?_
  intro key
  rw [get_fromPayload]
  by_cases bundled : key ∈ BUNDLE_KEYS
  · rw [if_pos bundled,held.entries,get_payload_bundle scan note bundled]
  · have absent : get (buildBundle spell scan.bundle) key = none := get_none.mpr (keys_buildBundle scan.bundle ▸ bundled)
    rw [if_neg bundled,absent]

theorem Holds.bundleHash (held : Holds spell scan note fields) : get fields "bundleHash" = some (.str (hex0x scan.bundleHash.val)) := by
  have entry := held.entries "bundleHash"
  have signed : get (signedFields spell scan) "bundleHash" = some (.str (hex0x scan.bundleHash.val)) := by
    unfold signedFields
    rw [get_append,get_none.mpr (keys_buildBundle scan.bundle ▸ by decide)]
    rfl
  rw [get_payload] at entry
  simp only [reduceIte,String.reduceEq,signed,Option.map_some,Option.map_eq_some_iff] at entry
  obtain ⟨value,found,same⟩ := entry
  cases value <;> simp [sorted] at same
  rw [found,same]

end writes
end spelled
end FlaconVault.Verifier
