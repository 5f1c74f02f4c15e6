import FlaconVault.Escrow.Custody
namespace FlaconVault.Escrow
open Guards Flacon

-- Another issuer's passport already names the asset.
def BoundElsewhere (s : FlaconAccounts) (asset issuer : Pubkey) : Prop :=
  ∃ key passport, s.passports key = some passport ∧ passport.asset = asset ∧ passport.issuer ≠ issuer

-- Passports of different issuers name different assets.
def AssetsApart (s : FlaconAccounts) : Prop :=
  ∀ key other first second, s.passports key = some first → s.passports other = some second →
    first.issuer ≠ second.issuer → first.asset ≠ second.asset

-- Two orders about one asset sell bottles of one issuer.
def OneIssuerSold (s : Ledger) : Prop :=
  ∀ key other first second firstPassport secondPassport, s.escrow.orders key = some first → s.escrow.orders other = some second →
    s.flacon.passports first.passport = some firstPassport → s.flacon.passports second.passport = some secondPassport →
    first.asset = second.asset → firstPassport.issuer = secondPassport.issuer

-- The checks of `mint_passport`. The only one about the asset is that the issuer owns it now.
structure Mintable (s : Ledger) (a : MintPassport) (serialHash : Bytes32) (asset : Pubkey) (registry : Registry) : Prop where
  registryHere : a.registry = .registry
  registryFound : s.flacon.registry = some registry
  signed : a.issuer.canSign
  passportHere : a.passport = .passport serialHash
  fresh : s.flacon.passports a.passport = none
  partner : registry.isPartnerOrAuthority a.issuer
  isAsset : a.coreAsset = asset
  owned : s.assets asset = some a.issuer

theorem mint_accepted : (∃ after, handleMintPassport s a serialHash bindingHash asset now = .ok after) ↔
    ∃ registry, Mintable s a serialHash asset registry := by
  simp only [handleMintPassport,bind_ok,loadRegistry_ok,requireSigner_ok,require_ok,exists_const,checkMintAsset,orRefuse_ok,
    pure_ok]
  constructor
  · rintro ⟨_,registry,⟨rh,rf⟩,signed,here,fresh,partner,rfl,⟨_,owned,rfl⟩,-⟩
    exact ⟨registry,rh,rf,signed,here,fresh,partner,rfl,owned⟩
  · rintro ⟨registry,rh,rf,signed,here,fresh,partner,rfl,owned⟩
    exact ⟨_,registry,⟨rh,rf⟩,signed,here,fresh,partner,rfl,⟨_,owned,rfl⟩,rfl⟩

theorem Mintable.accepted (mintable : Mintable s a serialHash asset registry) (bindingHash : Bytes32) (now : I64) :
    ∃ after, handleMintPassport s a serialHash bindingHash asset now = .ok after := mint_accepted.mpr ⟨registry,mintable⟩

theorem mint_writes (accepted : handleMintPassport s a serialHash bindingHash asset now = .ok after) :
    (∃ registry, Mintable s a serialHash asset registry) ∧
      after.flacon.passports =
        s.flacon.passports.put a.passport ⟨serialHash,bindingHash,asset,a.issuer,.a,0,0,false,now⟩ := by
  obtain ⟨registry,mintable⟩ := mint_accepted.mp ⟨after,accepted⟩
  obtain ⟨-,-,-,-,-,-,rfl⟩ := mint_parts accepted
  rw [mintable.passportHere]
  exact ⟨⟨registry,mintable⟩,rfl⟩

-- A `mint_passport` that passes every check although the asset already backs another issuer's passport.
def RebindsAsset (s : Ledger) (instruction : Instruction) : Prop :=
  ∃ a serialHash bindingHash asset registry, instruction.call = .flacon (.mintPassport a serialHash bindingHash asset) ∧
    Mintable s a serialHash asset registry ∧ BoundElsewhere s.flacon asset a.issuer

def RefusesRebinding (s : Ledger) (instruction : Instruction) : Prop :=
  ∀ a serialHash bindingHash asset, instruction.call = .flacon (.mintPassport a serialHash bindingHash asset) →
    BoundElsewhere s.flacon asset a.issuer → ∃ error, process instruction s = .error error

theorem refuses_rebinding (s : Ledger) (instruction : Instruction) :
    RefusesRebinding s instruction ↔ ¬RebindsAsset s instruction := by
  constructor
  · intro refuses ⟨a,serialHash,bindingHash,asset,registry,called,mintable,bound⟩
    obtain ⟨after,accepted⟩ := mintable.accepted bindingHash instruction.now
    obtain ⟨error,refused⟩ := refuses a serialHash bindingHash asset called bound
    simp only [process,called,processFlacon] at refused
    rw [accepted] at refused
    cases refused
  · intro never a serialHash bindingHash asset called bound
    cases outcome : process instruction s with
    | error error => exact ⟨error,rfl⟩
    | ok after =>
      simp only [process,called,processFlacon] at outcome
      obtain ⟨registry,mintable⟩ := mint_accepted.mp ⟨after,outcome⟩
      exact absurd ⟨a,serialHash,bindingHash,asset,registry,called,mintable,bound⟩ never

-- The owner at minting is a guard only as long as the asset stays with its first issuer: to be bound again it must have
-- left that issuer.
theorem RebindsAsset.moved (rebinds : RebindsAsset s instruction) :
    ∃ key passport, s.flacon.passports key = some passport ∧ s.assets passport.asset ≠ some passport.issuer := by
  obtain ⟨a,_,_,asset,_,-,mintable,key,passport,known,rfl,apart⟩ := rebinds
  refine ⟨key,passport,known,?_⟩
  rw [mintable.owned]
  intro same
  exact apart (Option.some.inj same).symm

-- What an instruction can do to the passports: they keep asset and issuer, and at most one is new.
inductive BindingStep (s after : Ledger) (instruction : Instruction) : Prop where
  | kept (same : ∀ key passport, after.flacon.passports key = some passport →
      ∃ old, s.flacon.passports key = some old ∧ passport.asset = old.asset ∧ passport.issuer = old.issuer) :
      BindingStep s after instruction
  | minted (a : MintPassport) (serialHash bindingHash : Bytes32) (asset : Pubkey) (registry : Registry)
      (called : instruction.call = .flacon (.mintPassport a serialHash bindingHash asset))
      (mintable : Mintable s a serialHash asset registry)
      (written : after.flacon.passports =
        s.flacon.passports.put a.passport ⟨serialHash,bindingHash,asset,a.issuer,.a,0,0,false,instruction.now⟩) :
      BindingStep s after instruction

theorem BindingStep.of_passports_same (same : after.flacon.passports = s.flacon.passports) : BindingStep s after instruction := by
  refine .kept ?_
  intro key passport there
  rw [same] at there
  exact ⟨passport,there,rfl,rfl⟩

theorem BindingStep.of_updated (new : Passport) (known : s.flacon.passports key = some old) (asset : new.asset = old.asset)
    (issuer : new.issuer = old.issuer) (written : after.flacon.passports = s.flacon.passports.put key new) :
    BindingStep s after instruction := by
  refine .kept ?_
  intro other passport there
  rw [written] at there
  rcases Cells.put_some.mp there with ⟨rfl,rfl⟩ | ⟨-,there⟩
  · exact ⟨old,known,asset,issuer⟩
  · exact ⟨passport,there,rfl,rfl⟩

theorem passports_same_of_only (only : OnlyRegistry s after) : after.flacon.passports = s.flacon.passports := by
  obtain ⟨registry,rfl⟩ := only
  rfl

theorem flacon_binding_step (called : instruction.call = .flacon call)
    (accepted : processFlacon s instruction.now call = .ok after) : BindingStep s after instruction := by
  cases call with
  | initRegistry => exact .of_passports_same (passports_same_of_only (init_registry_only _ accepted))
  | addServerKey => exact .of_passports_same (passports_same_of_only (add_server_key_only _ accepted))
  | revokeServerKey => exact .of_passports_same (passports_same_of_only (revoke_server_key_only _ accepted))
  | addPartner => exact .of_passports_same (passports_same_of_only (add_partner_only _ accepted))
  | removePartner => exact .of_passports_same (passports_same_of_only (remove_partner_only _ accepted))
  | addSite => exact .of_passports_same (passports_same_of_only (add_site_only _ accepted))
  | transferAuthority => exact .of_passports_same (passports_same_of_only (transfer_authority_only _ accepted))
  | mintPassport a serialHash bindingHash asset =>
    obtain ⟨⟨registry,mintable⟩,written⟩ := mint_writes accepted
    exact .minted a serialHash bindingHash asset registry called mintable written
  | attachSeal a uidHash kind =>
    obtain ⟨registry,passport,count,-,-,known,-,-,-,-,-,-,-,rfl⟩ := attach_parts accepted
    exact .of_updated {passport with sealCount := count} known rfl rfl rfl
  | markSealDead a =>
    obtain ⟨registry,passport,found,-,-,known,-,-,-,-,-,-,rfl⟩ := mark_dead_parts accepted
    exact .of_updated {passport with void := true, grade := .void} known rfl rfl rfl
  | recordScan a args =>
    obtain ⟨registry,passport,found,count,scan,-,rfl⟩ := record_parts.mp accepted
    let graded := passportAfterScan passport.grade passport.void args.tamper args.heat args.hum args.fill
    exact .of_updated {passport with scanCount := count, grade := graded.1, void := graded.2} scan.passportFound rfl rfl rfl

theorem binding_step (accepted : process instruction s = .ok after) : BindingStep s after instruction := by
  unfold process at accepted
  split at accepted
  · rename_i call called
    exact flacon_binding_step called accepted
  · exact .of_passports_same (congrArg FlaconAccounts.passports (process_change accepted).flacon_same)
  · simp only [processToken,bind_ok,pure_ok] at accepted
    obtain ⟨tokens,-,rfl⟩ := accepted
    exact .of_passports_same rfl
  · simp only [processCore,bind_ok,pure_ok] at accepted
    obtain ⟨assets,-,rfl⟩ := accepted
    exact .of_passports_same rfl

theorem AssetsApart.step (never : ¬RebindsAsset s instruction) (apart : AssetsApart s.flacon) :
    AssetsApart (execute instruction s).flacon := by
  rcases execute_cases instruction s with same | accepted
  · rw [same]
    exact apart
  intro key other first second there there' different sameAsset
  cases binding_step accepted with
  | kept same =>
    obtain ⟨old,known,asset,issuer⟩ := same key first there
    obtain ⟨old',known',asset',issuer'⟩ := same other second there'
    rw [issuer,issuer'] at different
    exact apart key other old old' known known' different (asset.symm.trans (sameAsset.trans asset'))
  | minted a serialHash bindingHash asset registry called mintable written =>
    rw [written] at there there'
    have refused (key : Pubkey) (old : Passport) (known : s.flacon.passports key = some old) (isAsset : old.asset = asset)
        (elsewhere : old.issuer ≠ a.issuer) : False :=
      never ⟨a,serialHash,bindingHash,asset,registry,called,mintable,key,old,known,isAsset,elsewhere⟩
    rcases Cells.put_some.mp there with ⟨rfl,rfl⟩ | ⟨-,known⟩
    · rcases Cells.put_some.mp there' with ⟨rfl,rfl⟩ | ⟨-,known'⟩
      · exact different rfl
      · exact refused other second known' sameAsset.symm different.symm
    · rcases Cells.put_some.mp there' with ⟨rfl,rfl⟩ | ⟨-,known'⟩
      · exact refused key first known sameAsset different
      · exact apart key other first second known known' different sameAsset

theorem RebindsAsset.breaks (rebinds : RebindsAsset s instruction) : ¬AssetsApart (execute instruction s).flacon := by
  obtain ⟨a,serialHash,bindingHash,asset,registry,called,mintable,key,old,known,isAsset,elsewhere⟩ := rebinds
  obtain ⟨after,accepted⟩ := mintable.accepted bindingHash instruction.now
  have processed : process instruction s = .ok after := by
    simp only [process,called,processFlacon]
    exact accepted
  rw [execute_of_accepted processed]
  have written := (mint_writes accepted).2
  have other : key ≠ a.passport := by
    intro here
    rw [here,mintable.fresh] at known
    cases known
  have stays : after.flacon.passports key = some old := by
    rw [written,Cells.put_other _ _ other]
    exact known
  have added : after.flacon.passports a.passport =
      some ⟨serialHash,bindingHash,asset,a.issuer,.a,0,0,false,instruction.now⟩ := by
    rw [written]
    exact Cells.put_self _ _ _
  intro apart
  exact apart key a.passport old _ stays added elsewhere isAsset

-- An order is about the asset of its passport, so apart assets mean apart bottles.
theorem AssetsApart.one_issuer_sold (run : Run) (n : ℕ) (apart : AssetsApart (run.ledger n).flacon) :
    OneIssuerSold (run.ledger n) := by
  intro key other first second firstPassport secondPassport there there' known known' sameAsset
  obtain ⟨passport,found,isAsset⟩ := order_asset run n key first there
  obtain ⟨passport',found',isAsset'⟩ := order_asset run n other second there'
  cases Option.some.inj (found.symm.trans known)
  cases Option.some.inj (found'.symm.trans known')
  by_contra different
  exact apart _ _ _ _ known known' different (isAsset.symm.trans (sameAsset.trans isAsset'))

-- Ownership at minting keeps the assets of different issuers apart exactly in the runs in which nobody mints on an asset
-- that another issuer's passport names; in those runs no two orders sell bottles of two issuers with one asset.
theorem asset_bindings (run : Run) (n : ℕ) :
    ((∀ m, m ≤ n → AssetsApart (run.ledger m).flacon) ↔ ∀ m, m < n → ¬RebindsAsset (run.ledger m) (run.schedule m)) ∧
      ((∀ m, m < n → RefusesRebinding (run.ledger m) (run.schedule m)) ↔
        ∀ m, m < n → ¬RebindsAsset (run.ledger m) (run.schedule m)) ∧
      ((∀ m, m < n → ¬RebindsAsset (run.ledger m) (run.schedule m)) → ∀ m, m ≤ n → OneIssuerSold (run.ledger m)) := by
  have kept (never : ∀ m, m < n → ¬RebindsAsset (run.ledger m) (run.schedule m)) :
      ∀ m, m ≤ n → AssetsApart (run.ledger m).flacon := by
    intro m within
    induction m with
    | zero =>
      intro key other first second found
      cases found
    | succ m ih => exact (ih (by omega)).step (never m within)
  refine ⟨⟨?_,kept⟩,?_,?_⟩
  · intro apart m below rebinds
    exact rebinds.breaks (apart (m+1) below)
  · simp only [refuses_rebinding]
  · intro never m within
    exact (kept never m within).one_issuer_sold run m

-- A partner mints on an asset and sells it on to a second partner, who mints on it again and lists both bottles.
namespace Rebound

theorem hash_length (fill : Byte) : (List.replicate 32 fill).length = 32 := List.length_replicate

def hash (fill : Byte) : Bytes32 := ⟨List.replicate 32 fill,hash_length fill⟩
theorem hour_fits : -2^63 ≤ (3600 : Int) ∧ (3600 : Int) < 2^63 := by decide

def hour : I64 := ⟨3600,hour_fits⟩
def admin : Pubkey := .keypair 0
def firstPartner : Pubkey := .keypair 1
def secondPartner : Pubkey := .keypair 2
def asset : Pubkey := .keypair 10
def firstBottle : Pubkey := .passport (hash 7)
def secondBottle : Pubkey := .passport (hash 8)

def list (passport : Pubkey) : Call :=
  .escrow (.list ⟨.config,passport,.order passport secondPartner,secondPartner,asset,.registry⟩ 100)

def calls : List Call := [
  .flacon (.initRegistry ⟨.registry,admin⟩),
  .flacon (.addPartner ⟨.registry,admin⟩ firstPartner),
  .flacon (.addPartner ⟨.registry,admin⟩ secondPartner),
  .escrow (.initConfig ⟨.config,admin,.foreign 5⟩ hour),
  .core (.create asset firstPartner),
  .flacon (.mintPassport ⟨.registry,firstBottle,firstPartner,asset⟩ (hash 7) (hash 0) asset),
  .core (.transfer asset firstPartner secondPartner),
  .flacon (.mintPassport ⟨.registry,secondBottle,secondPartner,asset⟩ (hash 8) (hash 0) asset),
  list firstBottle,
  list secondBottle]

def run : Run := ⟨some admin,some admin,fun n => ⟨calls.getD n (.core (.burn asset admin)),.zero⟩⟩

def bottle (serialHash : Bytes32) (issuer : Pubkey) : Passport := ⟨serialHash,hash 0,asset,issuer,.a,0,0,false,.zero⟩
def order (passport : Pubkey) : Order :=
  ⟨passport,secondPartner,.default,asset,100,.listed,.zero,.zero,.zero,.default,.default,hour,false⟩

end Rebound

theorem asset_of_two_issuers : ¬AssetsApart (Rebound.run.ledger 8).flacon ∧
    ¬RefusesRebinding (Rebound.run.ledger 7) (Rebound.run.schedule 7) ∧ ¬OneIssuerSold (Rebound.run.ledger 10) := by
  have bound : (Rebound.run.ledger 7).flacon.passports Rebound.firstBottle =
      some (Rebound.bottle (Rebound.hash 7) Rebound.firstPartner) := by decide +kernel
  have first : (Rebound.run.ledger 8).flacon.passports Rebound.firstBottle =
      some (Rebound.bottle (Rebound.hash 7) Rebound.firstPartner) := by decide +kernel
  have second : (Rebound.run.ledger 8).flacon.passports Rebound.secondBottle =
      some (Rebound.bottle (Rebound.hash 8) Rebound.secondPartner) := by decide +kernel
  refine ⟨?_,?_,?_⟩
  · intro apart
    exact apart _ _ _ _ first second (by decide) rfl
  · intro refuses
    obtain ⟨error,refused⟩ := refuses _ _ _ _ rfl ⟨_,_,bound,rfl,by decide⟩
    have accepted : (process (Rebound.run.schedule 7) (Rebound.run.ledger 7)).toOption.isSome := by decide +kernel
    rw [refused] at accepted
    cases accepted
  · intro one
    have listed : (Rebound.run.ledger 10).escrow.orders (.order Rebound.firstBottle Rebound.secondPartner) =
        some (Rebound.order Rebound.firstBottle) := by decide +kernel
    have listed' : (Rebound.run.ledger 10).escrow.orders (.order Rebound.secondBottle Rebound.secondPartner) =
        some (Rebound.order Rebound.secondBottle) := by decide +kernel
    have known : (Rebound.run.ledger 10).flacon.passports Rebound.firstBottle =
        some (Rebound.bottle (Rebound.hash 7) Rebound.firstPartner) := by decide +kernel
    have known' : (Rebound.run.ledger 10).flacon.passports Rebound.secondBottle =
        some (Rebound.bottle (Rebound.hash 8) Rebound.secondPartner) := by decide +kernel
    exact absurd (one _ _ _ _ _ _ listed listed' known known' rfl) (by decide)

end FlaconVault.Escrow
