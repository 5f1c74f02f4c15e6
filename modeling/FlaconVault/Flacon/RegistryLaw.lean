import FlaconVault.Escrow.Effects
namespace FlaconVault.Flacon
open Guards

-- The key that signs as the registry's authority, for the instructions that write the registry.
def adminOf : FlaconCall → Option Pubkey
  | .initRegistry a => some a.authority
  | .addServerKey a .. => some a.authority
  | .revokeServerKey a _ => some a.authority
  | .addPartner a _ => some a.authority
  | .removePartner a _ => some a.authority
  | .addSite a .. => some a.authority
  | .transferAuthority a => some a.authority
  | _ => none

-- What an accepted registry instruction writes over the registry it read.
inductive RegistryEdit (registry : Registry) (now : I64) : FlaconCall → Registry → Prop where
  | keyAdded (a : AdminRegistry) (keyId : U8) (pubkey : Bytes32) (validFrom validTo : I64)
      (fresh : registry.serverKey keyId = none) (room : registry.serverKeys.length < MAX_SERVER_KEYS) :
      RegistryEdit registry now (.addServerKey a keyId pubkey validFrom validTo)
        {registry with serverKeys := registry.serverKeys ++ [⟨keyId,pubkey,validFrom,validTo⟩]}
  | keyRevoked (a : AdminRegistry) (keyId : U8) (key : ServerKey) (validTo : I64) (known : registry.serverKey keyId = some key)
      (ends : revokedValidTo key.validTo now = .ok validTo) :
      RegistryEdit registry now (.revokeServerKey a keyId)
        {registry with serverKeys := reviseServerKey keyId (fun key => {key with validTo := validTo}) registry.serverKeys}
  | partnerAdded (a : AdminRegistry) (partner : Pubkey) (fresh : ¬registry.isPartner partner)
      (room : registry.partners.length < MAX_PARTNERS) :
      RegistryEdit registry now (.addPartner a partner) {registry with partners := registry.partners ++ [partner]}
  | partnerRemoved (a : AdminRegistry) (partner : Pubkey) (known : partner ∈ registry.partners) :
      RegistryEdit registry now (.removePartner a partner) {registry with partners := registry.partners.erase partner}
  | siteAdded (a : AdminRegistry) (siteId : U16) (label : Bytes32) (fresh : ¬registry.hasSite siteId)
      (room : registry.sites.length < MAX_SITES) :
      RegistryEdit registry now (.addSite a siteId label) {registry with sites := registry.sites ++ [⟨siteId,label⟩]}
  | authorityMoved (a : TransferAuthority) :
      RegistryEdit registry now (.transferAuthority a) {registry with authority := a.newAuthority}

inductive RegistryStep (now : I64) (call : FlaconCall) : Option Registry → Option Registry → Prop where
  | kept (registry : Option Registry) (untouched : adminOf call = none) : RegistryStep now call registry registry
  | created (a : AdminRegistry) (initial : call = .initRegistry a) : RegistryStep now call none (some ⟨a.authority,[],[],[]⟩)
  | edited (registry new : Registry) (signs : registry.authority.canSign) (byAuthority : adminOf call = some registry.authority)
      (edit : RegistryEdit registry now call new) : RegistryStep now call (some registry) (some new)

theorem RegistryStep.of_admin {a : AdminRegistry} {registry new : Registry} (admin : loadAdminRegistry s a = .ok registry)
    (signer : adminOf call = some a.authority) (edit : RegistryEdit registry now call new) :
    RegistryStep now call s.flacon.registry (some new) := by
  obtain ⟨-,present,signs,authority⟩ := loadAdminRegistry_ok.mp admin
  rw [present]
  rw [← authority] at signs signer
  exact .edited registry new signs signer edit

theorem registry_step (accepted : processFlacon s now call = .ok after) :
    RegistryStep now call s.flacon.registry after.flacon.registry := by
  cases call with
  | initRegistry a =>
    simp only [processFlacon,handleInitRegistry,bind_ok,require_ok,requireSigner_ok,exists_const,pure_ok] at accepted
    obtain ⟨-,-,fresh,-,rfl⟩ := accepted
    rw [fresh]
    exact .created a rfl
  | addServerKey a keyId pubkey validFrom validTo =>
    simp only [processFlacon,handleAddServerKey,bind_ok,require_ok,exists_const,pure_ok] at accepted
    obtain ⟨registry,admin,-,fresh,room,rfl⟩ := accepted
    exact .of_admin admin rfl (.keyAdded a keyId pubkey validFrom validTo fresh room)
  | revokeServerKey a keyId =>
    simp only [processFlacon,handleRevokeServerKey,bind_ok,orRefuse_ok,pure_ok] at accepted
    obtain ⟨registry,admin,key,known,validTo,ends,rfl⟩ := accepted
    exact .of_admin admin rfl (.keyRevoked a keyId key validTo known ends)
  | addPartner a partner =>
    simp only [processFlacon,handleAddPartner,bind_ok,require_ok,exists_const,pure_ok] at accepted
    obtain ⟨registry,admin,fresh,room,rfl⟩ := accepted
    exact .of_admin admin rfl (.partnerAdded a partner fresh room)
  | removePartner a partner =>
    simp only [processFlacon,handleRemovePartner,bind_ok,require_ok,exists_const,pure_ok] at accepted
    obtain ⟨registry,admin,known,rfl⟩ := accepted
    exact .of_admin admin rfl (.partnerRemoved a partner known)
  | addSite a siteId label =>
    simp only [processFlacon,handleAddSite,bind_ok,require_ok,exists_const,pure_ok] at accepted
    obtain ⟨registry,admin,-,fresh,room,rfl⟩ := accepted
    exact .of_admin admin rfl (.siteAdded a siteId label fresh room)
  | transferAuthority a =>
    simp only [processFlacon,handleTransferAuthority,bind_ok,requireSigner_ok,exists_const,pure_ok] at accepted
    obtain ⟨registry,admin,-,rfl⟩ := accepted
    exact .of_admin admin rfl (.authorityMoved a)
  | mintPassport a serialHash bindingHash asset =>
    obtain ⟨registry,-,-,-,-,-,rfl⟩ := mint_parts accepted
    exact .kept _ rfl
  | attachSeal a uidHash kind =>
    obtain ⟨registry,passport,count,-,-,-,-,-,-,-,-,-,-,rfl⟩ := attach_parts accepted
    exact .kept _ rfl
  | markSealDead a =>
    obtain ⟨registry,passport,found,-,-,-,-,-,-,-,-,-,rfl⟩ := mark_dead_parts accepted
    exact .kept _ rfl
  | recordScan a args =>
    obtain ⟨registry,passport,found,count,scan,-,rfl⟩ := record_parts.mp accepted
    exact .kept _ rfl

-- The ids stay when an entry ends, and a lookup finds the ended entry under its own id only.
theorem end_ids (keyId : U8) (validTo : I64) (keys : List ServerKey) :
    (reviseServerKey keyId (fun key => {key with validTo := validTo}) keys).map (·.keyId) = keys.map (·.keyId) := by
  induction keys with
  | nil => rfl
  | cons key rest ih =>
    unfold reviseServerKey
    split
    · rfl
    · simp only [List.map_cons,ih]

theorem end_found (keyId : U8) (validTo : I64) (keys : List ServerKey) :
    (reviseServerKey keyId (fun key => {key with validTo := validTo}) keys).find? (·.keyId == keyId) =
      (keys.find? (·.keyId == keyId)).map fun key => {key with validTo := validTo} := by
  induction keys with
  | nil => rfl
  | cons key rest ih =>
    unfold reviseServerKey
    by_cases here : key.keyId = keyId
    · simp [here]
    · simp [here,ih]

theorem end_other (validTo : I64) (keys : List ServerKey) (different : other ≠ keyId) :
    (reviseServerKey keyId (fun key => {key with validTo := validTo}) keys).find? (·.keyId == other) =
      keys.find? (·.keyId == other) := by
  induction keys with
  | nil => rfl
  | cons key rest ih =>
    unfold reviseServerKey
    by_cases here : key.keyId = keyId
    · have apart : keyId ≠ other := different.symm
      simp [here,apart]
    · by_cases named : key.keyId = other
      · simp [named,different]
      · simp [here,named,ih]

-- Ids, partners and sites are distinct and within their capacities.
structure WellKept (registry : Registry) : Prop where
  keys : (registry.serverKeys.map (·.keyId)).Nodup
  partners : registry.partners.Nodup
  sites : (registry.sites.map (·.siteId)).Nodup
  keyRoom : registry.serverKeys.length ≤ MAX_SERVER_KEYS
  partnerRoom : registry.partners.length ≤ MAX_PARTNERS
  siteRoom : registry.sites.length ≤ MAX_SITES

theorem nodup_append_fresh {α κ : Type*} {name : α → κ} {items : List α} {new : α} (distinct : (items.map name).Nodup)
    (fresh : ∀ item ∈ items, name item ≠ name new) : ((items ++ [new]).map name).Nodup := by
  rw [List.map_append]
  refine List.nodup_append.mpr ⟨distinct,by simp,?_⟩
  intro first known second last
  obtain ⟨item,inside,rfl⟩ := List.mem_map.mp known
  simp only [List.map_cons,List.map_nil,List.mem_singleton] at last
  rw [last]
  exact fresh item inside

theorem RegistryEdit.wellKept (kept : WellKept registry) (edit : RegistryEdit registry now call new) : WellKept new := by
  cases edit with
  | keyAdded a keyId pubkey validFrom validTo fresh room =>
    refine {kept with keys := nodup_append_fresh kept.keys ?_, keyRoom := by simpa using room}
    intro key inside same
    have absent := List.find?_eq_none.mp fresh key inside
    simp [same] at absent
  | keyRevoked a keyId key validTo known ends =>
    refine {kept with keys := ?_, keyRoom := ?_}
    · rw [end_ids]
      exact kept.keys
    · have ids := congrArg List.length (end_ids keyId validTo registry.serverKeys)
      simp only [List.length_map] at ids
      rw [ids]
      exact kept.keyRoom
  | partnerAdded a partner fresh room =>
    refine {kept with partners := ?_, partnerRoom := by simpa using room}
    have apart : ∀ known ∈ registry.partners, id known ≠ id partner := by
      intro known inside same
      cases (show known = partner from same)
      exact fresh (by simpa [Registry.isPartner] using inside)
    simpa using nodup_append_fresh (by simpa using kept.partners) apart
  | partnerRemoved a partner known =>
    exact {kept with
      partners := kept.partners.erase partner
      partnerRoom := le_trans List.length_erase_le kept.partnerRoom}
  | siteAdded a siteId label fresh room =>
    refine {kept with sites := nodup_append_fresh kept.sites ?_, siteRoom := by simpa using room}
    intro site inside same
    exact fresh (List.any_eq_true.mpr ⟨site,inside,by simp [same]⟩)
  | authorityMoved a => exact {kept with}

-- The entry of a key, which a later instruction may neither replace nor change once it has ended.
def Ended (registry : Registry) (entry : ServerKey) : Prop := registry.serverKey entry.keyId = some entry

theorem revoked_in_time (positive : 2 ≤ now.1) (ends : revokedValidTo validTo now = .ok last) : last.1 = now.1-1 := by
  simp only [revokedValidTo,bind_ok,require_ok,exists_const,pure_ok] at ends
  obtain ⟨-,rfl⟩ := ends
  have bounded := now.2
  simp only [I64.clip]
  omega

theorem RegistryEdit.ended (edit : RegistryEdit registry now call new) (ended : Ended registry entry)
    (closed : entry.validTo.1 ≠ 0) (past : entry.validTo.1 < now.1) : Ended new entry := by
  unfold Ended Registry.serverKey at *
  cases edit with
  | keyAdded a keyId pubkey validFrom validTo fresh room =>
    rw [List.find?_append,ended]
    rfl
  | keyRevoked a keyId key validTo known ends =>
    by_cases here : entry.keyId = keyId
    · -- a second revocation finds the key already ended
      subst here
      unfold Registry.serverKey at known
      cases Option.some.inj (known.symm.trans ended)
      simp only [revokedValidTo,bind_ok,require_ok,exists_const] at ends
      obtain ⟨still,-⟩ := ends
      omega
    · exact (end_other validTo registry.serverKeys here).trans ended
  | partnerAdded => exact ended
  | partnerRemoved => exact ended
  | siteAdded => exact ended
  | authorityMoved => exact ended

theorem RegistryEdit.partner_stays_out (edit : RegistryEdit registry now call new) (out : partner ∉ registry.partners)
    (never : ∀ a, call ≠ .addPartner a partner) : partner ∉ new.partners := by
  cases edit with
  | partnerAdded a added fresh room =>
    have different : partner ≠ added := by
      intro same
      exact never a (same ▸ rfl)
    simpa [different] using out
  | partnerRemoved a removed known => exact fun inside => out (List.mem_of_mem_erase inside)
  | keyAdded => exact out
  | keyRevoked => exact out
  | siteAdded => exact out
  | authorityMoved => exact out

-- A run of the cluster whose clock never goes back.
structure SteadyRun extends Run where
  steady : ∀ n, (schedule n).now.1 ≤ (schedule (n+1)).now.1

theorem SteadyRun.later (run : SteadyRun) {i j : ℕ} (ordered : i ≤ j) : (run.schedule i).now.1 ≤ (run.schedule j).now.1 := by
  induction j, ordered using Nat.le_induction with
  | base => exact le_refl _
  | succ j _ ih => exact le_trans ih (run.steady j)

section Run
variable {run : Run}

-- Number `n` of the run is this flacon instruction, and it succeeds.
def Accepts (run : Run) (n : ℕ) (call : FlaconCall) : Prop :=
  (run.schedule n).call = .flacon call ∧ ∃ after, process (run.schedule n) (run.ledger n) = .ok after

theorem Accepts.processed (accepts : Accepts run n call) :
    processFlacon (run.ledger n) (run.schedule n).now call = .ok (run.ledger (n+1)) := by
  obtain ⟨called,after,accepted⟩ := accepts
  rw [Run.ledger_succ,execute_of_accepted accepted]
  simpa only [process,called] using accepted

theorem registry_at (run : Run) (n : ℕ) :
    (run.ledger (n+1)).flacon.registry = (run.ledger n).flacon.registry ∨
      ∃ call, Accepts run n call ∧
        RegistryStep (run.schedule n).now call (run.ledger n).flacon.registry (run.ledger (n+1)).flacon.registry := by
  rcases execute_cases (run.schedule n) (run.ledger n) with same | accepted
  · exact .inl (congrArg (·.flacon.registry) same)
  cases called : (run.schedule n).call with
  | flacon call =>
    have accepts : Accepts run n call := ⟨called,_,accepted⟩
    exact .inr ⟨call,accepts,registry_step accepts.processed⟩
  | escrow call =>
    simp only [process,called] at accepted
    exact .inl (congrArg FlaconAccounts.registry (Escrow.process_change accepted).flacon_same)
  | token call =>
    simp only [process,called,processToken,bind_ok,pure_ok] at accepted
    obtain ⟨tokens,-,written⟩ := accepted
    exact .inl (congrArg (·.flacon.registry) written.symm)
  | core call =>
    simp only [process,called,processCore,bind_ok,pure_ok] at accepted
    obtain ⟨assets,-,written⟩ := accepted
    exact .inl (congrArg (·.flacon.registry) written.symm)

theorem well_kept_at (n : ℕ) (found : (run.ledger n).flacon.registry = some registry) : WellKept registry := by
  induction n generalizing registry with
  | zero => cases found
  | succ n ih =>
    rcases registry_at run n with same | ⟨call,-,step⟩
    · exact ih (same ▸ found)
    · generalize before : (run.ledger n).flacon.registry = old at step
      rw [found] at step
      cases step with
      | kept => exact ih before
      | created a => exact ⟨.nil,.nil,.nil,Nat.zero_le _,Nat.zero_le _,Nat.zero_le _⟩
      | edited registry new signs byAuthority edit => exact edit.wellKept (ih before)

-- What holds of the registry and survives each edit in a stretch of the run holds to the end of the stretch.
theorem registry_keeps {P : Registry → Prop} {n m : ℕ} (later : n ≤ m)
    (now : ∃ registry, (run.ledger n).flacon.registry = some registry ∧ P registry)
    (edits : ∀ i call registry new, n ≤ i → i < m → Accepts run i call → P registry →
      RegistryEdit registry (run.schedule i).now call new → P new) :
    ∃ registry, (run.ledger m).flacon.registry = some registry ∧ P registry := by
  induction m, later using Nat.le_induction with
  | base => exact now
  | succ m later ih =>
    obtain ⟨registry,found,holds⟩ := ih (fun i call registry new low high => edits i call registry new low (by omega))
    rcases registry_at run m with same | ⟨call,accepts,step⟩
    · exact ⟨registry,same.trans found,holds⟩
    · rw [found] at step
      generalize written : (run.ledger (m+1)).flacon.registry = after at step
      cases step with
      | kept => exact ⟨registry,rfl,holds⟩
      | edited _ new signs byAuthority edit => exact ⟨new,rfl,edits m call registry new later (by omega) accepts holds edit⟩

theorem Accepts.revokes (accepts : Accepts run n (.revokeServerKey a keyId)) (positive : 2 ≤ (run.schedule n).now.1) :
    ∃ entry : ServerKey, entry.keyId = keyId ∧ entry.validTo.1 = (run.schedule n).now.1-1 ∧
      ∃ registry, (run.ledger (n+1)).flacon.registry = some registry ∧ Ended registry entry := by
  have step := registry_step accepts.processed
  generalize (run.ledger n).flacon.registry = before at step
  generalize written : (run.ledger (n+1)).flacon.registry = after at step
  cases step with
  | kept _ untouched => cases untouched
  | created _ initial => cases initial
  | edited registry new signs byAuthority edit =>
    cases edit with
    | keyRevoked _ _ key validTo known ends =>
      have named : key.keyId = keyId := by simpa using List.find?_some known
      refine ⟨{key with validTo := validTo},named,revoked_in_time positive ends,_,rfl,?_⟩
      unfold Ended Registry.serverKey at *
      dsimp only
      rw [named,end_found,known,Option.map_some,named]

theorem Accepts.removes (accepts : Accepts run n (.removePartner a partner)) :
    ∃ registry, (run.ledger (n+1)).flacon.registry = some registry ∧ partner ∉ registry.partners := by
  have kept : ∀ registry, (run.ledger n).flacon.registry = some registry → WellKept registry := fun _ => well_kept_at n
  have step := registry_step accepts.processed
  generalize (run.ledger n).flacon.registry = before at kept step
  generalize written : (run.ledger (n+1)).flacon.registry = after at step
  cases step with
  | kept _ untouched => cases untouched
  | created _ initial => cases initial
  | edited registry new signs byAuthority edit =>
    cases edit with
    | partnerRemoved _ _ known =>
      refine ⟨_,rfl,?_⟩
      exact fun inside => ((kept registry rfl).partners.mem_erase_iff.mp inside).1 rfl

theorem Accepts.scan_key (accepts : Accepts run n (.recordScan a args)) (found : (run.ledger n).flacon.registry = some registry) :
    ∃ key, registry.serverKey args.serverKeyId = some key ∧ key.isValidAt (run.schedule n).now := by
  obtain ⟨read,passport,onSeal,count,scan,-,-⟩ := record_parts.mp accepts.processed
  cases Option.some.inj (scan.registryFound.symm.trans found)
  have signature := scan.signature
  simp only [checkSignature,bind_ok,require_ok,orRefuse_ok,exists_const] at signature
  obtain ⟨-,_,-,-,_,-,key,known,-,_,fresh,-⟩ := signature
  simp only [checkKeyAndFreshness,bind_ok,require_ok,exists_const] at fresh
  exact ⟨key,known,fresh.2.1⟩

theorem Accepts.scan_partner (accepts : Accepts run n (.recordScan a args))
    (found : (run.ledger n).flacon.registry = some registry)
    (professional : TIER_CERTIFIED ≤ args.tier ∨ args.role = ROLE_VAULT ∨ args.role = ROLE_PARTNER) :
    a.attester ∈ registry.partners := by
  obtain ⟨read,passport,onSeal,count,scan,-,-⟩ := record_parts.mp accepts.processed
  cases Option.some.inj (scan.registryFound.symm.trans found)
  have fields := scan.fields
  simp only [checkFields,bind_ok,require_ok,exists_const] at fields
  have partner := fields.2.2.2.1 (by
    rcases professional with certified | vault | shop
    · exact .inr certified
    · exact .inl (by simp [roleIsPro,vault])
    · exact .inl (by simp [roleIsPro,shop]))
  simpa [Registry.isPartner] using partner

-- Who signs the instructions that manage a bottle.
def managerOf : FlaconCall → Option Pubkey
  | .mintPassport a .. => some a.issuer
  | .attachSeal a .. => some a.signer
  | .markSealDead a => some a.signer
  | _ => none

theorem Accepts.manager (accepts : Accepts run n call) (signer : managerOf call = some key)
    (found : (run.ledger n).flacon.registry = some registry) : registry.authority = key ∨ key ∈ registry.partners := by
  have processed := accepts.processed
  have managing {passport : Passport} (manages : registry.mayManagePassport key passport) :
      registry.authority = key ∨ key ∈ registry.partners := by
    simp only [Registry.mayManagePassport,Registry.isAuthority,Registry.isPartner,Bool.or_eq_true,Bool.and_eq_true,
      List.any_eq_true,beq_iff_eq] at manages
    rcases manages with authority | ⟨-,partner,inside,rfl⟩
    · exact .inl authority
    · exact .inr inside
  cases call with
  | mintPassport a serialHash bindingHash asset =>
    cases signer
    obtain ⟨read,present,-,partner,-⟩ := mint_parts processed
    cases Option.some.inj (present.symm.trans found)
    simpa [Registry.isPartnerOrAuthority,Registry.isAuthority,Registry.isPartner] using partner
  | attachSeal a uidHash kind =>
    cases signer
    obtain ⟨read,passport,-,present,-,-,-,-,manages,-⟩ := attach_parts processed
    cases Option.some.inj (present.symm.trans found)
    exact managing manages
  | markSealDead a =>
    cases signer
    obtain ⟨read,passport,-,present,-,-,-,-,-,-,manages,-⟩ := mark_dead_parts processed
    cases Option.some.inj (present.symm.trans found)
    exact managing manages
  | _ => cases signer

end Run

-- The registry over a whole run: its entries stay distinct and few, only its authority writes it, a revoked key is never
-- accepted, added or extended again, and a removed partner has lost its powers until it is added back.
structure RegistryLaw (run : SteadyRun) : Prop where
  kept : ∀ n registry, (run.ledger n).flacon.registry = some registry → WellKept registry
  byAuthority : ∀ n registry, (run.ledger n).flacon.registry = some registry →
    (run.ledger (n+1)).flacon.registry ≠ some registry →
    ∃ call, Accepts run.toRun n call ∧ adminOf call = some registry.authority ∧ registry.authority.canSign
  revoked : ∀ n a keyId, Accepts run.toRun n (.revokeServerKey a keyId) → 2 ≤ (run.schedule n).now.1 →
    ∃ entry : ServerKey, entry.keyId = keyId ∧ entry.validTo.1 = (run.schedule n).now.1-1 ∧ ∀ m, n < m →
      (∃ registry, (run.ledger m).flacon.registry = some registry ∧ registry.serverKey keyId = some entry) ∧
      (∀ a args, args.serverKeyId = keyId → ¬Accepts run.toRun m (.recordScan a args)) ∧
      ∀ a pubkey validFrom validTo, ¬Accepts run.toRun m (.addServerKey a keyId pubkey validFrom validTo)
  removed : ∀ n a partner, Accepts run.toRun n (.removePartner a partner) → ∀ m, n < m →
    (∀ i a, n < i → i < m → ¬Accepts run.toRun i (.addPartner a partner)) →
    ∃ registry, (run.ledger m).flacon.registry = some registry ∧
      (∀ call, managerOf call = some partner → registry.authority ≠ partner → ¬Accepts run.toRun m call) ∧
      ∀ a args, a.attester = partner → (TIER_CERTIFIED ≤ args.tier ∨ args.role = ROLE_VAULT ∨ args.role = ROLE_PARTNER) →
        ¬Accepts run.toRun m (.recordScan a args)

theorem registry_law (run : SteadyRun) : RegistryLaw run := by
  refine ⟨fun n registry found => well_kept_at n found,?_,?_,?_⟩
  · intro n registry found changed
    rcases registry_at run.toRun n with same | ⟨call,accepts,step⟩
    · exact absurd (same.trans found) changed
    · rw [found] at step
      generalize (run.ledger (n+1)).flacon.registry = after at step changed
      cases step with
      | kept => exact absurd rfl changed
      | edited _ new signs byAuthority edit => exact ⟨call,accepts,byAuthority,signs⟩
  · intro n a keyId accepts positive
    obtain ⟨entry,named,until_,start⟩ := accepts.revokes positive
    refine ⟨entry,named,until_,?_⟩
    intro m later
    have past {i : ℕ} (after : n < i) : entry.validTo.1 < (run.schedule i).now.1 := by
      have := run.later (le_of_lt after)
      omega
    obtain ⟨registry,found,ended⟩ := registry_keeps (P := fun registry => Ended registry entry) later start
      (fun i call registry new low _ _ ended edit => edit.ended ended (by omega) (past low))
    unfold Ended at ended
    rw [named] at ended
    refine ⟨⟨registry,found,ended⟩,?_,?_⟩
    · intro a args isKey scans
      obtain ⟨key,known,valid⟩ := scans.scan_key found
      rw [isKey,ended] at known
      cases Option.some.inj known
      have := past later
      simp only [ServerKey.isValidAt,ge_iff_le,Bool.and_eq_true,Bool.or_eq_true,decide_eq_true_eq,beq_iff_eq] at valid
      omega
    · intro a pubkey validFrom validTo adds
      have processed := adds.processed
      simp only [processFlacon,handleAddServerKey,bind_ok,require_ok,exists_const] at processed
      obtain ⟨read,admin,-,fresh,-⟩ := processed
      cases Option.some.inj ((loadAdminRegistry_ok.mp admin).2.1.symm.trans found)
      rw [ended] at fresh
      cases fresh
  · intro n a partner accepts m later never
    obtain ⟨registry,found,out⟩ := registry_keeps (P := fun registry => partner ∉ registry.partners) later accepts.removes
      (by
        intro i call registry new low high executed out edit
        refine edit.partner_stays_out out ?_
        intro a same
        exact never i a low high (same ▸ executed))
    refine ⟨registry,found,?_,?_⟩
    · intro call signer different manages
      rcases manages.manager signer found with authority | inside
      · exact different authority
      · exact out inside
    · intro a args attested professional scans
      exact out (attested ▸ scans.scan_partner found professional)

-- A key is added and revoked, a partner is added and removed, one instruction a second.
namespace Rotation

def admin : Pubkey := .keypair 0
def partner : Pubkey := .keypair 1


theorem key_length : (List.replicate 32 (1 : Byte)).length = 32 := List.length_replicate

def calls : List Call := [
  .flacon (.initRegistry ⟨.registry,admin⟩),
  .flacon (.addServerKey ⟨.registry,admin⟩ 7 ⟨List.replicate 32 1,key_length⟩ .zero .zero),
  .flacon (.addPartner ⟨.registry,admin⟩ partner),
  .flacon (.revokeServerKey ⟨.registry,admin⟩ 7),
  .flacon (.removePartner ⟨.registry,admin⟩ partner)]

def clock (n : ℕ) : I64 := ⟨((min n 60 : ℕ) : ℤ),by omega⟩

def run : SteadyRun where
  flaconUpgradeAuthority := some admin
  escrowUpgradeAuthority := none
  schedule n := ⟨calls.getD n (.core (.burn admin admin)),clock n⟩
  steady n := by
    show ((min n 60 : ℕ) : ℤ) ≤ ((min (n+1) 60 : ℕ) : ℤ)
    exact_mod_cast min_le_min_right 60 (Nat.le_succ n)

theorem accepted {n : ℕ} {call : FlaconCall} (called : (run.schedule n).call = .flacon call)
    (passes : (process (run.schedule n) (run.ledger n)).toOption.isSome = true) : Accepts run.toRun n call :=
  ⟨called,exists_ok passes⟩

theorem idle {n : ℕ} (later : 4 < n) : (run.schedule n).call = .core (.burn admin admin) :=
  List.getD_eq_default calls _ later

theorem key_and_partner_out :
    (∀ m, 3 < m → ∀ a args, args.serverKeyId = 7 → ¬Accepts run.toRun m (.recordScan a args)) ∧
      ∀ m, 4 < m → ∀ a args, a.attester = partner → args.role = ROLE_VAULT → ¬Accepts run.toRun m (.recordScan a args) := by
  have law := registry_law run
  obtain ⟨entry,-,-,revoked⟩ := law.revoked 3 ⟨.registry,admin⟩ 7 (accepted rfl (by decide +kernel)) (by decide)
  refine ⟨fun m later => (revoked m later).2.1,?_⟩
  intro m later a args attests vault
  have never (i : ℕ) (a : AdminRegistry) (after : 4 < i) (_ : i < m) : ¬Accepts run.toRun i (.addPartner a partner) := by
    rintro ⟨called,-⟩
    cases (idle after).symm.trans called
  obtain ⟨registry,-,-,out⟩ := law.removed 4 ⟨.registry,admin⟩ partner (accepted rfl (by decide +kernel)) m later never
  exact out a args attests (.inr (.inl vault))

end Rotation
end FlaconVault.Flacon
