import FlaconVault.Ledger.Steps
namespace FlaconVault.Flacon
open Guards

theorem loadRegistry_ok : loadRegistry s key = .ok registry ↔ key = .registry ∧ s.flacon.registry = some registry := by
  simp only [loadRegistry,bind_ok,require_ok,orRefuse_ok,exists_const]

theorem loadPassport_ok :
    loadPassport s key = .ok passport ↔ s.flacon.passports key = some passport ∧ key = .passport passport.serialHash := by
  simp only [loadPassport,bind_ok,require_ok,orRefuse_ok,exists_const,pure_ok]
  constructor
  · rintro ⟨found,present,here,rfl⟩
    exact ⟨present,here⟩
  · rintro ⟨present,here⟩
    exact ⟨passport,present,here,rfl⟩

theorem loadSeal_ok :
    loadSeal s key = .ok found ↔ s.flacon.seals key = some found ∧ key = .sealOf found.uidHash := by
  simp only [loadSeal,bind_ok,require_ok,orRefuse_ok,exists_const,pure_ok]
  constructor
  · rintro ⟨found,present,here,rfl⟩
    exact ⟨present,here⟩
  · rintro ⟨present,here⟩
    exact ⟨found,present,here,rfl⟩

theorem requireSigner_ok : requireSigner key = .ok done ↔ key.canSign := by
  simp only [requireSigner,require_ok]

theorem loadAdminRegistry_ok :
    loadAdminRegistry s a = .ok registry ↔
      a.registry = .registry ∧ s.flacon.registry = some registry ∧ a.authority.canSign ∧ registry.authority = a.authority := by
  simp only [loadAdminRegistry,bind_ok,loadRegistry_ok,requireSigner_ok,require_ok,exists_const,pure_ok]
  constructor
  · rintro ⟨found,⟨here,present⟩,signs,authority,rfl⟩
    exact ⟨here,present,signs,authority⟩
  · rintro ⟨here,present,signs,authority⟩
    exact ⟨registry,⟨here,present⟩,signs,authority,rfl⟩

-- Step 2 of `record_scan` as facts about the accounts.
structure Scannable (passportKey : Pubkey) (passport : Passport) (found : Seal) (args : RecordScanArgs) : Prop where
  attached : found.passport = passportKey
  alive : ¬found.dead
  valid : ¬passport.isVoided
  rising : found.lastCounter < args.counter
  inRange : args.counter.val ≤ MAX_COUNTER

theorem checkSealState_ok : checkSealState key passport found args = .ok done ↔ Scannable key passport found args := by
  simp only [checkSealState,bind_ok,require_ok,exists_const]
  constructor
  · rintro ⟨attached,alive,valid,rising,inRange⟩
    exact ⟨attached,alive,valid,rising,inRange⟩
  · rintro ⟨attached,alive,valid,rising,inRange⟩
    exact ⟨attached,alive,valid,rising,inRange⟩

-- An accepted `record_scan`: the accounts it read and the checks that passed.
structure ScanAccepted (s : Ledger) (a : RecordScan) (args : RecordScanArgs) (now : I64) (registry : Registry)
    (passport : Passport) (found : Seal) : Prop where
  registryHere : a.registry = .registry
  registryFound : s.flacon.registry = some registry
  passportFound : s.flacon.passports a.passport = some passport
  passportHere : a.passport = .passport passport.serialHash
  sealFound : s.flacon.seals a.sealKey = some found
  sealHere : a.sealKey = .sealOf found.uidHash
  signed : a.attester.canSign
  proofHere : a.scanProof = .scan a.sealKey args.counter
  signature : checkSignature registry passport found a args now = .ok ()
  scannable : Scannable a.passport passport found args
  fields : checkFields registry a.attester args = .ok ()

def afterScan (s : Ledger) (a : RecordScan) (args : RecordScanArgs) (passport : Passport) (found : Seal) (scanCount : U32) :
    Ledger :=
  let graded := passportAfterScan passport.grade passport.void args.tamper args.heat args.hum args.fill
  {s with
    flacon.scans := s.flacon.scans.put a.scanProof (scanProofOf a.sealKey a.attester args)
    flacon.seals := s.flacon.seals.put a.sealKey {found with lastCounter := args.counter}
    flacon.passports := s.flacon.passports.put a.passport
      {passport with scanCount := scanCount, grade := graded.1, void := graded.2}}

theorem record_parts : handleRecordScan s a args now = .ok after ↔
    ∃ registry passport found scanCount, ScanAccepted s a args now registry passport found ∧
      checkedAdd passport.scanCount 1 = some scanCount ∧ after = afterScan s a args passport found scanCount := by
  simp only [handleRecordScan,bind_ok,loadRegistry_ok,loadPassport_ok,loadSeal_ok,requireSigner_ok,require_ok,
    exists_const,checkSealState_ok,orRefuse_ok,pure_ok]
  constructor
  · rintro ⟨registry,⟨rh,rf⟩,passport,⟨pf,ph⟩,found,⟨sf,sh⟩,signed,proof,_,signature,scannable,_,fields,count,adds,rfl⟩
    exact ⟨registry,passport,found,count,⟨rh,rf,pf,ph,sf,sh,signed,proof,signature,scannable,fields⟩,adds,rfl⟩
  · rintro ⟨registry,passport,found,count,⟨rh,rf,pf,ph,sf,sh,signed,proof,signature,scannable,fields⟩,adds,rfl⟩
    exact ⟨registry,⟨rh,rf⟩,passport,⟨pf,ph⟩,found,⟨sf,sh⟩,signed,proof,(),signature,scannable,(),fields,count,adds,rfl⟩

theorem mint_parts (accepted : handleMintPassport s a serialHash bindingHash asset now = .ok after) :
    ∃ registry, s.flacon.registry = some registry ∧ a.issuer.canSign ∧ registry.isPartnerOrAuthority a.issuer ∧
      s.assets asset = some a.issuer ∧ s.flacon.passports (.passport serialHash) = none ∧
      after = {s with
        flacon.passports := s.flacon.passports.put (.passport serialHash)
          ⟨serialHash,bindingHash,asset,a.issuer,.a,0,0,false,now⟩} := by
  simp only [handleMintPassport,bind_ok,loadRegistry_ok,requireSigner_ok,require_ok,exists_const,checkMintAsset,orRefuse_ok,
    pure_ok] at accepted
  obtain ⟨registry,⟨-,present⟩,signed,here,fresh,partner,isAsset,⟨owner,owned,isOwner⟩,rfl⟩ := accepted
  rw [here] at fresh ⊢
  rw [isAsset,isOwner] at owned
  exact ⟨registry,present,signed,partner,owned,fresh,rfl⟩

theorem attach_parts (accepted : handleAttachSeal s a uidHash kind now = .ok after) :
    ∃ registry passport sealCount, s.flacon.registry = some registry ∧ a.signer.canSign ∧
      s.flacon.passports a.passport = some passport ∧ a.passport = .passport passport.serialHash ∧
      s.flacon.seals (.sealOf uidHash) = none ∧ registry.mayManagePassport a.signer passport ∧
      (kind = SEAL_KIND_BOX ∨ kind = SEAL_KIND_NECK) ∧ ¬passport.isVoided ∧
      passport.sealCount.val < MAX_SEALS_PER_PASSPORT ∧ checkedAdd passport.sealCount 1 = some sealCount ∧
      after = {s with
        flacon.passports := s.flacon.passports.put a.passport {passport with sealCount := sealCount}
        flacon.seals := s.flacon.seals.put (.sealOf uidHash) ⟨a.passport,kind,uidHash,0,false,now⟩} := by
  simp only [handleAttachSeal,bind_ok,loadRegistry_ok,loadPassport_ok,requireSigner_ok,require_ok,exists_const,orRefuse_ok,
    pure_ok] at accepted
  obtain ⟨registry,⟨-,present⟩,passport,⟨found,at_⟩,signed,here,fresh,manages,kinds,valid,room,count,adds,rfl⟩ := accepted
  rw [here] at fresh ⊢
  exact ⟨registry,passport,count,present,signed,found,at_,fresh,manages,kinds,valid,room,adds,rfl⟩

theorem mark_dead_parts (accepted : handleMarkSealDead s a = .ok after) :
    ∃ registry passport found, s.flacon.registry = some registry ∧ a.signer.canSign ∧
      s.flacon.passports a.passport = some passport ∧ a.passport = .passport passport.serialHash ∧
      s.flacon.seals a.sealKey = some found ∧ a.sealKey = .sealOf found.uidHash ∧ found.passport = a.passport ∧
      registry.mayManagePassport a.signer passport ∧ ¬found.dead ∧
      after = {s with
        flacon.seals := s.flacon.seals.put a.sealKey {found with dead := true}
        flacon.passports := s.flacon.passports.put a.passport {passport with void := true, grade := .void}} := by
  simp only [handleMarkSealDead,bind_ok,loadRegistry_ok,loadPassport_ok,loadSeal_ok,requireSigner_ok,require_ok,exists_const,
    pure_ok] at accepted
  obtain ⟨registry,⟨-,present⟩,passport,⟨pf,ph⟩,found,⟨sf,sh⟩,signed,attached,manages,alive,rfl⟩ := accepted
  exact ⟨registry,passport,found,present,signed,pf,ph,sf,sh,attached,manages,alive,rfl⟩

-- What one step can do to the accounts of the program. Everything proved over runs about passports, seals and
-- scans is derived from these five cases.
inductive Change (s : FlaconAccounts) : FlaconAccounts → Prop where
  | registry (registry : Option Registry) : Change s {s with registry := registry}
  | minted (serialHash bindingHash : Bytes32) (asset issuer : Pubkey) (now : I64)
      (fresh : s.passports (.passport serialHash) = none) :
      Change s {s with
        passports := s.passports.put (.passport serialHash) ⟨serialHash,bindingHash,asset,issuer,.a,0,0,false,now⟩}
  | attached (passport : Passport) (uidHash : Bytes32) (kind sealCount : U8) (now : I64)
      (known : s.passports (.passport passport.serialHash) = some passport) (fresh : s.seals (.sealOf uidHash) = none)
      (kinds : kind = SEAL_KIND_BOX ∨ kind = SEAL_KIND_NECK) (valid : ¬passport.isVoided)
      (room : passport.sealCount.val < MAX_SEALS_PER_PASSPORT) (adds : checkedAdd passport.sealCount 1 = some sealCount) :
      Change s {s with
        passports := s.passports.put (.passport passport.serialHash) {passport with sealCount := sealCount}
        seals := s.seals.put (.sealOf uidHash) ⟨.passport passport.serialHash,kind,uidHash,0,false,now⟩}
  | died (passport : Passport) (found : Seal)
      (known : s.passports (.passport passport.serialHash) = some passport)
      (there : s.seals (.sealOf found.uidHash) = some found) (attached : found.passport = .passport passport.serialHash)
      (alive : ¬found.dead) :
      Change s {s with
        seals := s.seals.put (.sealOf found.uidHash) {found with dead := true}
        passports := s.passports.put (.passport passport.serialHash) {passport with void := true, grade := .void}}
  | scanned (passport : Passport) (found : Seal) (attester : Pubkey) (args : RecordScanArgs) (scanCount : U32)
      (known : s.passports (.passport passport.serialHash) = some passport)
      (there : s.seals (.sealOf found.uidHash) = some found)
      (scannable : Scannable (.passport passport.serialHash) passport found args)
      (adds : checkedAdd passport.scanCount 1 = some scanCount) :
      Change s {s with
        scans := s.scans.put (.scan (.sealOf found.uidHash) args.counter) (scanProofOf (.sealOf found.uidHash) attester args)
        seals := s.seals.put (.sealOf found.uidHash) {found with lastCounter := args.counter}
        passports := s.passports.put (.passport passport.serialHash)
          {passport with
            scanCount := scanCount
            grade := (passportAfterScan passport.grade passport.void args.tamper args.heat args.hum args.fill).1
            void := (passportAfterScan passport.grade passport.void args.tamper args.heat args.hum args.fill).2}}

-- The registry handlers touch nothing else.
def OnlyRegistry (s after : Ledger) : Prop := ∃ registry, after = {s with flacon.registry := registry}

theorem init_registry_only : Yields (handleInitRegistry s a) (OnlyRegistry s) :=
  .after fun _ => .after fun _ => .after fun _ => .after fun _ => .pure ⟨_,rfl⟩

theorem add_server_key_only : Yields (handleAddServerKey s a keyId pubkey validFrom validTo) (OnlyRegistry s) :=
  .after fun _ => .after fun _ => .after fun _ => .after fun _ => .pure ⟨_,rfl⟩

theorem revoke_server_key_only : Yields (handleRevokeServerKey s a keyId now) (OnlyRegistry s) :=
  .after fun _ => .after fun _ => .after fun _ => .pure ⟨_,rfl⟩

theorem add_partner_only : Yields (handleAddPartner s a partner) (OnlyRegistry s) :=
  .after fun _ => .after fun _ => .after fun _ => .pure ⟨_,rfl⟩

theorem remove_partner_only : Yields (handleRemovePartner s a partner) (OnlyRegistry s) :=
  .after fun _ => .after fun _ => .pure ⟨_,rfl⟩

theorem add_site_only : Yields (handleAddSite s a siteId label) (OnlyRegistry s) :=
  .after fun _ => .after fun _ => .after fun _ => .after fun _ => .pure ⟨_,rfl⟩

theorem transfer_authority_only : Yields (handleTransferAuthority s a) (OnlyRegistry s) :=
  .after fun _ => .after fun _ => .pure ⟨_,rfl⟩

-- A flacon instruction changes the program's own accounts by one `Change` and nothing outside them.
def FlaconFrame (s after : Ledger) : Prop :=
  Change s.flacon after.flacon ∧ after.escrow = s.escrow ∧ after.tokens = s.tokens ∧ after.assets = s.assets

theorem OnlyRegistry.frame (only : OnlyRegistry s after) : FlaconFrame s after := by
  obtain ⟨registry,rfl⟩ := only
  exact ⟨.registry registry,rfl,rfl,rfl⟩

theorem mint_frame (accepted : handleMintPassport s a serialHash bindingHash asset now = .ok after) : FlaconFrame s after := by
  obtain ⟨registry,-,-,-,-,fresh,rfl⟩ := mint_parts accepted
  exact ⟨.minted serialHash bindingHash asset a.issuer now fresh,rfl,rfl,rfl⟩

theorem attach_frame (accepted : handleAttachSeal s a uidHash kind now = .ok after) : FlaconFrame s after := by
  obtain ⟨registry,passport,count,-,-,known,here,fresh,-,kinds,valid,room,adds,rfl⟩ := attach_parts accepted
  rw [here] at known ⊢
  exact ⟨.attached passport uidHash kind count now known fresh kinds valid room adds,rfl,rfl,rfl⟩

theorem mark_dead_frame (accepted : handleMarkSealDead s a = .ok after) : FlaconFrame s after := by
  obtain ⟨registry,passport,found,-,-,known,here,there,atSeal,attached,-,alive,rfl⟩ := mark_dead_parts accepted
  rw [here] at known attached ⊢
  rw [atSeal] at there ⊢
  exact ⟨.died passport found known there attached alive,rfl,rfl,rfl⟩

theorem record_frame (accepted : handleRecordScan s a args now = .ok after) : FlaconFrame s after := by
  obtain ⟨registry,passport,found,count,scan,adds,rfl⟩ := record_parts.mp accepted
  have known := scan.passportFound
  have there := scan.sealFound
  have scannable := scan.scannable
  unfold afterScan
  rw [scan.passportHere] at known scannable
  rw [scan.sealHere] at there
  simp only [scan.proofHere,scan.passportHere,scan.sealHere]
  exact ⟨.scanned passport found a.attester args count known there scannable adds,rfl,rfl,rfl⟩

theorem process_frame (accepted : processFlacon s now call = .ok after) : FlaconFrame s after := by
  cases call with
  | initRegistry => exact (init_registry_only _ accepted).frame
  | addServerKey => exact (add_server_key_only _ accepted).frame
  | revokeServerKey => exact (revoke_server_key_only _ accepted).frame
  | addPartner => exact (add_partner_only _ accepted).frame
  | removePartner => exact (remove_partner_only _ accepted).frame
  | addSite => exact (add_site_only _ accepted).frame
  | transferAuthority => exact (transfer_authority_only _ accepted).frame
  | mintPassport => exact mint_frame accepted
  | attachSeal => exact attach_frame accepted
  | markSealDead => exact mark_dead_frame accepted
  | recordScan => exact record_frame accepted

end FlaconVault.Flacon
