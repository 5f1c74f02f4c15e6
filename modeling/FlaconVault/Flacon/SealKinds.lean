import FlaconVault.Flacon.Counting
namespace FlaconVault.Flacon
open Guards

-- Some seal of the passport has this kind.
def HasKind (s : FlaconAccounts) (passport : Pubkey) (kind : U8) : Prop :=
  ∃ key found, s.seals key = some found ∧ found.passport = passport ∧ found.kind = kind

def AtMostOne (s : FlaconAccounts) (passport : Pubkey) (kind : U8) : Prop :=
  ∀ key other first second, s.seals key = some first → s.seals other = some second →
    first.passport = passport → second.passport = passport → first.kind = kind → second.kind = kind → key = other

-- "A passport carries at most one BOX and one NECK seal."
def OneOfEachKind (s : FlaconAccounts) : Prop :=
  ∀ passport, AtMostOne s passport SEAL_KIND_BOX ∧ AtMostOne s passport SEAL_KIND_NECK

-- The checks of `attach_seal`, all of which leave the kinds of the passport's other seals alone.
structure Attachable (s : Ledger) (a : AttachSeal) (uidHash : Bytes32) (kind : U8) (registry : Registry) (passport : Passport) :
    Prop where
  registryHere : a.registry = .registry
  registryFound : s.flacon.registry = some registry
  passportFound : s.flacon.passports a.passport = some passport
  passportHere : a.passport = .passport passport.serialHash
  signed : a.signer.canSign
  sealHere : a.sealKey = .sealOf uidHash
  fresh : s.flacon.seals a.sealKey = none
  manages : registry.mayManagePassport a.signer passport
  kinds : kind = SEAL_KIND_BOX ∨ kind = SEAL_KIND_NECK
  valid : ¬passport.isVoided
  room : passport.sealCount.val < MAX_SEALS_PER_PASSPORT

theorem attach_accepted : (∃ after, handleAttachSeal s a uidHash kind now = .ok after) ↔
    ∃ registry passport, Attachable s a uidHash kind registry passport := by
  simp only [handleAttachSeal,bind_ok,loadRegistry_ok,loadPassport_ok,requireSigner_ok,require_ok,exists_const,orRefuse_ok,
    pure_ok]
  constructor
  · rintro ⟨_,registry,⟨rh,rf⟩,passport,⟨pf,ph⟩,signed,here,fresh,manages,kinds,valid,room,-⟩
    exact ⟨registry,passport,rh,rf,pf,ph,signed,here,fresh,manages,kinds,valid,room⟩
  · rintro ⟨registry,passport,rh,rf,pf,ph,signed,here,fresh,manages,kinds,valid,room⟩
    have fits : passport.sealCount.val + 1 < 2^8 := by
      unfold MAX_SEALS_PER_PASSPORT at room
      omega
    obtain ⟨count,adds⟩ : ∃ count, checkedAdd passport.sealCount 1 = some count := ⟨_,dif_pos fits⟩
    exact ⟨_,registry,⟨rh,rf⟩,passport,⟨pf,ph⟩,signed,here,fresh,manages,kinds,valid,room,count,adds,rfl⟩

theorem Attachable.accepted (attachable : Attachable s a uidHash kind registry passport) (now : I64) :
    ∃ after, handleAttachSeal s a uidHash kind now = .ok after := attach_accepted.mpr ⟨registry,passport,attachable⟩

theorem attach_writes (accepted : handleAttachSeal s a uidHash kind now = .ok after) :
    (∃ registry passport, Attachable s a uidHash kind registry passport) ∧
      after.flacon.seals = s.flacon.seals.put a.sealKey ⟨a.passport,kind,uidHash,0,false,now⟩ := by
  obtain ⟨registry,passport,attachable⟩ := attach_accepted.mp ⟨after,accepted⟩
  obtain ⟨-,-,-,-,-,-,-,-,-,-,-,-,-,rfl⟩ := attach_parts accepted
  rw [attachable.sealHere]
  exact ⟨⟨registry,passport,attachable⟩,rfl⟩

-- An `attach_seal` that passes every check although a seal of its passport already has its kind.
def DoublesKind (s : Ledger) (instruction : Instruction) : Prop :=
  ∃ a uidHash kind registry passport, instruction.call = .flacon (.attachSeal a uidHash kind) ∧
    Attachable s a uidHash kind registry passport ∧ HasKind s.flacon a.passport kind

-- The attachments the limit is meant to refuse are refused.
def RefusesDoubles (s : Ledger) (instruction : Instruction) : Prop :=
  ∀ a uidHash kind, instruction.call = .flacon (.attachSeal a uidHash kind) → HasKind s.flacon a.passport kind →
    ∃ error, process instruction s = .error error

theorem refuses_doubles (s : Ledger) (instruction : Instruction) :
    RefusesDoubles s instruction ↔ ¬DoublesKind s instruction := by
  constructor
  · intro refuses ⟨a,uidHash,kind,registry,passport,called,attachable,taken⟩
    obtain ⟨after,accepted⟩ := attachable.accepted instruction.now
    obtain ⟨error,refused⟩ := refuses a uidHash kind called taken
    simp only [process,called,processFlacon] at refused
    rw [accepted] at refused
    cases refused
  · intro never a uidHash kind called taken
    cases outcome : process instruction s with
    | error error => exact ⟨error,rfl⟩
    | ok after =>
      simp only [process,called,processFlacon] at outcome
      obtain ⟨registry,passport,attachable⟩ := attach_accepted.mp ⟨after,outcome⟩
      exact absurd ⟨a,uidHash,kind,registry,passport,called,attachable,taken⟩ never

-- What an instruction can do to the seals: they keep passport and kind, and at most one is new.
inductive SealStep (s after : Ledger) (instruction : Instruction) : Prop where
  | kept (same : ∀ key found, after.flacon.seals key = some found →
      ∃ old, s.flacon.seals key = some old ∧ found.passport = old.passport ∧ found.kind = old.kind) :
      SealStep s after instruction
  | attached (a : AttachSeal) (uidHash : Bytes32) (kind : U8) (registry : Registry) (passport : Passport)
      (called : instruction.call = .flacon (.attachSeal a uidHash kind))
      (attachable : Attachable s a uidHash kind registry passport)
      (written : after.flacon.seals = s.flacon.seals.put a.sealKey ⟨a.passport,kind,uidHash,0,false,instruction.now⟩) :
      SealStep s after instruction

theorem SealStep.of_seals_same (same : after.flacon.seals = s.flacon.seals) : SealStep s after instruction := by
  refine .kept ?_
  intro key found there
  rw [same] at there
  exact ⟨found,there,rfl,rfl⟩

theorem SealStep.of_updated (new : Seal) (known : s.flacon.seals key = some old) (passport : new.passport = old.passport)
    (kind : new.kind = old.kind) (written : after.flacon.seals = s.flacon.seals.put key new) :
    SealStep s after instruction := by
  refine .kept ?_
  intro other found there
  rw [written] at there
  rcases Cells.put_some.mp there with ⟨rfl,rfl⟩ | ⟨-,there⟩
  · exact ⟨old,known,passport,kind⟩
  · exact ⟨found,there,rfl,rfl⟩

theorem OnlyRegistry.seals_same (only : OnlyRegistry s after) : after.flacon.seals = s.flacon.seals := by
  obtain ⟨registry,rfl⟩ := only
  rfl

theorem flacon_seal_step (called : instruction.call = .flacon call) (accepted : processFlacon s instruction.now call = .ok after) :
    SealStep s after instruction := by
  cases call with
  | initRegistry => exact .of_seals_same (init_registry_only _ accepted).seals_same
  | addServerKey => exact .of_seals_same (add_server_key_only _ accepted).seals_same
  | revokeServerKey => exact .of_seals_same (revoke_server_key_only _ accepted).seals_same
  | addPartner => exact .of_seals_same (add_partner_only _ accepted).seals_same
  | removePartner => exact .of_seals_same (remove_partner_only _ accepted).seals_same
  | addSite => exact .of_seals_same (add_site_only _ accepted).seals_same
  | transferAuthority => exact .of_seals_same (transfer_authority_only _ accepted).seals_same
  | mintPassport a serialHash bindingHash asset =>
    obtain ⟨registry,-,-,-,-,-,rfl⟩ := mint_parts accepted
    exact .of_seals_same rfl
  | attachSeal a uidHash kind =>
    obtain ⟨⟨registry,passport,attachable⟩,written⟩ := attach_writes accepted
    exact .attached a uidHash kind registry passport called attachable written
  | markSealDead a =>
    obtain ⟨registry,passport,found,-,-,-,-,there,-,-,-,-,rfl⟩ := mark_dead_parts accepted
    exact .of_updated {found with dead := true} there rfl rfl rfl
  | recordScan a args =>
    obtain ⟨registry,passport,found,count,scan,-,rfl⟩ := record_parts.mp accepted
    exact .of_updated {found with lastCounter := args.counter} scan.sealFound rfl rfl rfl

theorem seal_step (accepted : process instruction s = .ok after) : SealStep s after instruction := by
  unfold process at accepted
  split at accepted
  · rename_i call called
    exact flacon_seal_step called accepted
  · exact .of_seals_same (congrArg FlaconAccounts.seals (Escrow.process_change accepted).flacon_same)
  · simp only [processToken,bind_ok,pure_ok] at accepted
    obtain ⟨tokens,-,rfl⟩ := accepted
    exact .of_seals_same rfl
  · simp only [processCore,bind_ok,pure_ok] at accepted
    obtain ⟨assets,-,rfl⟩ := accepted
    exact .of_seals_same rfl

theorem AtMostOne.step (step : SealStep s after instruction) (never : ¬DoublesKind s instruction)
    (alone : AtMostOne s.flacon passport kind) : AtMostOne after.flacon passport kind := by
  intro key other first second there there' of of' kind₁ kind₂
  cases step with
  | kept same =>
    obtain ⟨old,known,ofOld,kindOld⟩ := same key first there
    obtain ⟨old',known',ofOld',kindOld'⟩ := same other second there'
    exact alone key other old old' known known' (ofOld ▸ of) (ofOld' ▸ of') (kindOld ▸ kind₁) (kindOld' ▸ kind₂)
  | attached a uidHash attachedKind registry bottle called attachable written =>
    rw [written] at there there'
    have refused (old : Seal) (known : s.flacon.seals key = some old ∨ s.flacon.seals other = some old)
        (ofOld : old.passport = a.passport) (kindOld : old.kind = attachedKind) : False := by
      refine never ⟨a,uidHash,attachedKind,registry,bottle,called,attachable,?_⟩
      rcases known with known | known
      · exact ⟨key,old,known,ofOld,kindOld⟩
      · exact ⟨other,old,known,ofOld,kindOld⟩
    rcases Cells.put_some.mp there with ⟨rfl,rfl⟩ | ⟨-,known⟩
    · rcases Cells.put_some.mp there' with ⟨rfl,-⟩ | ⟨-,known'⟩
      · rfl
      · exact (refused second (.inr known') (of'.trans of.symm) (kind₂.trans kind₁.symm)).elim
    · rcases Cells.put_some.mp there' with ⟨rfl,rfl⟩ | ⟨-,known'⟩
      · exact (refused first (.inl known) (of.trans of'.symm) (kind₁.trans kind₂.symm)).elim
      · exact alone key other first second known known' of of' kind₁ kind₂

-- A doubling attachment really leaves two seals of one kind.
theorem DoublesKind.breaks (doubles : DoublesKind s instruction) : ¬OneOfEachKind (execute instruction s).flacon := by
  obtain ⟨a,uidHash,kind,registry,passport,called,attachable,key,old,known,of,isKind⟩ := doubles
  obtain ⟨after,accepted⟩ := attachable.accepted instruction.now
  have processed : process instruction s = .ok after := by
    simp only [process,called,processFlacon]
    exact accepted
  rw [execute_of_accepted processed]
  have written := (attach_writes accepted).2
  intro each
  have other : key ≠ a.sealKey := by
    intro here
    rw [here,attachable.fresh] at known
    cases known
  have alone : AtMostOne after.flacon a.passport kind := by
    rcases attachable.kinds with rfl | rfl
    · exact (each a.passport).1
    · exact (each a.passport).2
  have stays : after.flacon.seals key = some old := by
    rw [written,Cells.put_other _ _ other]
    exact known
  have added : after.flacon.seals a.sealKey = some ⟨a.passport,kind,uidHash,0,false,instruction.now⟩ := by
    rw [written]
    exact Cells.put_self _ _ _
  exact other (alone key a.sealKey old _ stays added of rfl isKind rfl)

theorem OneOfEachKind.step (never : ¬DoublesKind s instruction) (each : OneOfEachKind s.flacon) :
    OneOfEachKind (execute instruction s).flacon := by
  rcases execute_cases instruction s with same | accepted
  · rw [same]
    exact each
  · intro passport
    exact ⟨(each passport).1.step (seal_step accepted) never,(each passport).2.step (seal_step accepted) never⟩

-- The limit of two counts seals, not kinds. It keeps one BOX and one NECK exactly in the runs in which nobody attaches
-- a second seal of a kind, and only there are all such attachments refused.
theorem seal_kinds (run : Run) (n : ℕ) :
    ((∀ m, m ≤ n → OneOfEachKind (run.ledger m).flacon) ↔ ∀ m, m < n → ¬DoublesKind (run.ledger m) (run.schedule m)) ∧
      ((∀ m, m < n → RefusesDoubles (run.ledger m) (run.schedule m)) ↔
        ∀ m, m < n → ¬DoublesKind (run.ledger m) (run.schedule m)) := by
  refine ⟨⟨?_,?_⟩,?_⟩
  · intro each m below doubles
    exact doubles.breaks (each (m+1) below)
  · intro never m within
    induction m with
    | zero =>
      intro passport
      refine ⟨?_,?_⟩
      all_goals intro key other first second found; cases found
    | succ m ih => exact (ih (by omega)).step (never m within)
  · simp only [refuses_doubles]

-- A partner mints a bottle and puts two BOX seals on it.
namespace TwoBoxes

theorem hash_length (fill : Byte) : (List.replicate 32 fill).length = 32 := List.length_replicate

def hash (fill : Byte) : Bytes32 := ⟨List.replicate 32 fill,hash_length fill⟩
def admin : Pubkey := .keypair 0
def asset : Pubkey := .keypair 10
def passport : Pubkey := .passport (hash 7)
def attach (uidHash : Bytes32) : Call :=
  .flacon (.attachSeal ⟨.registry,passport,.sealOf uidHash,admin⟩ uidHash SEAL_KIND_BOX)

def calls : List Call := [
  .flacon (.initRegistry ⟨.registry,admin⟩),
  .core (.create asset admin),
  .flacon (.mintPassport ⟨.registry,passport,admin,asset⟩ (hash 7) (hash 0) asset),
  attach (hash 8),
  attach (hash 9)]

def run : Run := ⟨some admin,none,fun n => ⟨calls.getD n (.core (.burn asset admin)),.zero⟩⟩
def box (uidHash : Bytes32) : Seal := ⟨passport,SEAL_KIND_BOX,uidHash,0,false,.zero⟩

end TwoBoxes

theorem two_boxes_on_one_passport :
    ¬OneOfEachKind (TwoBoxes.run.ledger 5).flacon ∧ ¬RefusesDoubles (TwoBoxes.run.ledger 4) (TwoBoxes.run.schedule 4) := by
  have first : (TwoBoxes.run.ledger 5).flacon.seals (.sealOf (TwoBoxes.hash 8)) = some (TwoBoxes.box (TwoBoxes.hash 8)) := by
    decide +kernel
  have second : (TwoBoxes.run.ledger 5).flacon.seals (.sealOf (TwoBoxes.hash 9)) = some (TwoBoxes.box (TwoBoxes.hash 9)) := by
    decide +kernel
  have before : (TwoBoxes.run.ledger 4).flacon.seals (.sealOf (TwoBoxes.hash 8)) = some (TwoBoxes.box (TwoBoxes.hash 8)) := by
    decide +kernel
  refine ⟨?_,?_⟩
  · intro each
    have same := (each TwoBoxes.passport).1 _ _ _ _ first second rfl rfl rfl rfl
    exact absurd same (by decide)
  · intro refuses
    obtain ⟨error,refused⟩ := refuses _ _ _ rfl ⟨_,_,before,rfl,rfl⟩
    have accepted : (process (TwoBoxes.run.schedule 4) (TwoBoxes.run.ledger 4)).toOption.isSome := by decide +kernel
    rw [refused] at accepted
    cases accepted

end FlaconVault.Flacon
