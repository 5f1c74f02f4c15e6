import FlaconVault.Verifier.Sightings
import FlaconVault.Web.FlaconClient
namespace FlaconVault.Web.FlaconClient
open Guards Verifier
open Flacon (RecordScanArgs RecordScan)

-- Which scans that the server signs the program accepts.

-- A tier the program leaves to every role, or a role that may claim every tier.
def Anchorable (body : VerifyBody) : Prop := body.tier.val ≤ 2 ∨ body.role.val = Role.VAULT ∨ body.role.val = Role.PARTNER

instance (body : VerifyBody) : Decidable (Anchorable body) := inferInstanceAs (Decidable (_ ∨ _ ∨ _))

-- The chain when the transaction lands: the claimed wallet sends it, the registry knows the server's key and the partners
-- the server knows, and the seal can still be scanned.
structure Ready (settings : Settings) (db : Database) (body : VerifyBody) (around : Surroundings) (scan : SignedScan) (s : Ledger)
    (attester : Pubkey) (now : I64) (registry : Registry) (key : ServerKey) (passport : Passport) (found : Seal) : Prop where
  wallet : attester.canSign = true
  claimed : ∀ text ∈ body.attester, text.pubkey = some attester
  registryKnown : s.flacon.registry = some registry
  partners : ∀ wallet, isRegistryPartner settings db around.chainPartners (some wallet) = registry.isPartner wallet
  keyKnown : registry.serverKey scan.keyId = some key
  keyIs : key.pubkey = settings.serverPubkey
  keyValid : key.isValidAt around.now = true ∧ key.isValidAt now = true
  fresh : (around.now.val-now.val).natAbs ≤ 600
  passportKnown : s.flacon.passports (.passport scan.serialHash) = some passport
  valid : ¬passport.isVoided
  sealKnown : s.flacon.seals (.sealOf scan.uidHash) = some found
  attached : found.passport = .passport scan.serialHash
  alive : ¬found.dead
  rising : found.lastCounter.val < scan.counter

section Fields
variable {settings : Settings} {db : Database} {body : VerifyBody} {around : Surroundings} {scan : SignedScan} {counter : U24}
  {mediaHash nonce : Bytes32}

-- What the server checked before it signed.
theorem admitted_parts (admitted : admitVerify settings db body around = .ok mediaHash) :
    (needsPartner body.tier.val body.role.val = false ∨
      isRegistryPartner settings db around.chainPartners (body.attester.bind (·.pubkey)) = true) ∧
    ¬((body.heat.val = Indicator.INTACT ∨ body.heat.val = Indicator.TRIGGERED) ∧
      some body.heat.val ≠ body.heatLevels.val[4]?.map (·.val)) := by
  unfold admitVerify at admitted
  obtain ⟨_,_,admitted⟩ := bind_ok.mp admitted
  obtain ⟨_,_,admitted⟩ := bind_ok.mp admitted
  obtain ⟨_,partner,admitted⟩ := bind_ok.mp admitted
  obtain ⟨_,heat,_⟩ := bind_ok.mp admitted
  exact ⟨require_ok.mp partner,require_ok.mp heat⟩

-- A certified claim was signed for a partner only.
theorem partner_signed {s : Ledger} {attester : Pubkey} {now : I64} {registry : Registry} {key : ServerKey} {passport : Passport}
    {found : Seal} (admitted : admitVerify settings db body around = .ok mediaHash)
    (ready : Ready settings db body around scan s attester now registry key passport found)
    (needed : needsPartner body.tier.val body.role.val = true) : registry.isPartner attester = true := by
  rcases (admitted_parts admitted).1 with free | partner
  · rw [needed] at free
    cases free
  · cases claimed : body.attester with
    | none =>
      rw [claimed] at partner
      cases partner
    | some text =>
      have own := ready.claimed text claimed
      rw [claimed,Option.bind_some,own,ready.partners] at partner
      exact partner

-- The heat the message names is the decisive level of the mask.
theorem heat_masked (admitted : admitVerify settings db body around = .ok mediaHash)
    (decided : body.heat.val = Indicator.INTACT ∨ body.heat.val = Indicator.TRIGGERED) :
    body.heat.val = Verifier.heatLevelsToMask (body.heatLevels.val.map (·.val))/2^Flacon.HEAT_DECISIVE_INDEX%2 := by
  have same : some body.heat.val = body.heatLevels.val[4]?.map (·.val) := by
    by_contra different
    exact (admitted_parts admitted).2 ⟨decided,different⟩
  have decisive := decisive_bit (levels_six body.heatLevels) (levels_binary body.heatLevels)
  rw [List.getElem?_map] at decisive
  exact Option.some.inj (same.trans decisive)

-- The fields of a signed scan meet every rule but the tier's.
structure SignedFields (body : VerifyBody) (registry : Registry) (attester : Pubkey) (args : RecordScanArgs) : Prop where
  role : args.role ≤ Flacon.MAX_ROLE
  tier : args.tier ≤ Flacon.MAX_TIER
  free : (¬Flacon.roleIsPro args → args.tier ≤ Flacon.TIER_SELF_MEDIA) ↔ Anchorable body
  partner : Flacon.roleIsPro args ∨ args.tier ≥ Flacon.TIER_CERTIFIED → registry.isPartner attester
  site : args.siteId = 0
  indicators : args.tamper ≤ Flacon.MAX_INDICATOR ∧ args.uv ≤ Flacon.MAX_INDICATOR ∧ args.hum ≤ Flacon.MAX_INDICATOR ∧
    args.heat ≤ Flacon.MAX_INDICATOR
  fill : args.fill ≤ Flacon.MAX_FILL
  heatLevels : args.heatLevels.val < 2^Flacon.HEAT_LEVELS_BITS
  heat : args.heat = Flacon.INDICATOR_INTACT ∨ args.heat = Flacon.INDICATOR_TRIGGERED →
    args.heat.val = args.heatLevels.val/2^Flacon.HEAT_DECISIVE_INDEX%2

theorem SignedFields.outcome {registry : Registry} {attester : Pubkey} {args : RecordScanArgs}
    (fields : SignedFields body registry attester args) :
    Flacon.checkFields registry attester args = if Anchorable body then .ok () else .error (.flacon .tierNotAllowedForRole) := by
  unfold Flacon.checkFields
  rw [require_pass fields.role,ok_bind,require_pass fields.tier,ok_bind]
  by_cases anchorable : Anchorable body
  · rw [if_pos anchorable,require_pass (fields.free.mpr anchorable),ok_bind,require_pass fields.partner,ok_bind]
    rw [require_pass (fun sited => absurd fields.site sited),ok_bind,require_pass (fun sited => absurd fields.site sited),ok_bind]
    rw [require_pass fields.indicators,ok_bind,require_pass fields.fill,ok_bind,require_pass fields.heatLevels,ok_bind,require_pass fields.heat]
  · have refused : ¬(¬Flacon.roleIsPro args → args.tier ≤ Flacon.TIER_SELF_MEDIA) := fun free => anchorable (fields.free.mp free)
    unfold require
    rw [if_neg anchorable,if_neg refused]
    rfl

theorem roles_claimed : ∀ role : Fin 5, claimField role ≤ Flacon.MAX_ROLE ∧
    ((claimField role == Flacon.ROLE_VAULT || claimField role == Flacon.ROLE_PARTNER) = true ↔
      role.val = Role.VAULT ∨ role.val = Role.PARTNER) := by decide

theorem tiers_claimed : ∀ tier : Fin 5, claimField tier ≤ Flacon.MAX_TIER ∧ (claimField tier ≤ Flacon.TIER_SELF_MEDIA ↔ tier.val ≤ 2) ∧
    (claimField tier ≥ Flacon.TIER_CERTIFIED ↔ tier.val ≥ Tier.CERTIFIED) := by decide

theorem indicators_read : ∀ value : Fin 4, indicatorField value ≤ Flacon.MAX_INDICATOR ∧
    (indicatorField value = Flacon.INDICATOR_INTACT ↔ value.val = Indicator.INTACT) ∧
    (indicatorField value = Flacon.INDICATOR_TRIGGERED ↔ value.val = Indicator.TRIGGERED) := by decide

theorem fills_read : ∀ value : Fin 101, fillField value ≤ Flacon.MAX_FILL := by decide

theorem signed_fields (counter : U24) (nonce : Bytes32) {s : Ledger} {attester : Pubkey} {now : I64} {registry : Registry}
    {key : ServerKey} {passport : Passport} {found : Seal} (admitted : admitVerify settings db body around = .ok mediaHash)
    (ready : Ready settings db body around scan s attester now registry key passport found) :
    SignedFields body registry attester (argsOf body around scan counter mediaHash nonce) := by
  obtain ⟨role,pro⟩ := roles_claimed body.role
  obtain ⟨tier,free,certified⟩ := tiers_claimed body.tier
  obtain ⟨heat,intact,triggered⟩ := indicators_read body.heat
  have small := (mask_agrees (levels_six body.heatLevels) (levels_binary body.heatLevels)).2
  have mask : (argsOf body around scan counter mediaHash nonce).heatLevels.val = Verifier.heatLevelsToMask (body.heatLevels.val.map (·.val)) := by
    unfold argsOf
    rw [Fin.val_ofNat,Nat.mod_eq_of_lt (small.trans (by decide))]
  refine ⟨role,tier,?_,?_,rfl,⟨le_rfl,(indicators_read body.uv).1,(indicators_read body.humidity).1,heat⟩,fills_read body.fill,?_,?_⟩
  · constructor
    · intro rule
      by_cases claims : body.role.val = Role.VAULT ∨ body.role.val = Role.PARTNER
      · exact .inr claims
      · exact .inl (free.mp (rule fun held => claims (pro.mp held)))
    · intro anchorable plain
      exact free.mpr (anchorable.resolve_right fun claims => plain (pro.mpr claims))
  · intro needed
    apply partner_signed admitted ready
    unfold needsPartner
    rcases needed with held | held
    · rcases pro.mp held with vault | partner
      · simp [vault]
      · simp [partner]
    · simp [certified.mp held]
  · rw [mask]
    exact small
  · intro decided
    rw [mask]
    apply heat_masked admitted
    exact decided.imp intact.mp triggered.mp

-- Step 1 on the transaction the client builds: the server's key signed the message the program builds.
theorem signature_checked {s : Ledger} {attester : Pubkey} {now : I64} {registry : Registry} {key : ServerKey} {passport : Passport}
    {found : Seal} (libraries : Libraries settings) (signs : Signs settings db body around scan counter mediaHash nonce)
    (ready : Ready settings db body around scan s attester now registry key passport found)
    (serial : passport.serialHash = scan.serialHash) (uid : found.uidHash = scan.uidHash) :
    Flacon.checkSignature registry passport found
      (accountsOf libraries attester scan (argsOf body around scan counter mediaHash nonce))
      (argsOf body around scan counter mediaHash nonce) now = .ok () := by
  have length : scan.msg.length = 152 := by
    rw [signs.msg]
    exact Flacon.buildScanMessage_length _
  have sized : scan.serverSig.length = 64 := signs.serverSig ▸ libraries.signature scan.msg
  have parses := layout_parses scan.serverPubkey.2 sized length 0
  have own : scan.serverPubkey = key.pubkey := signs.serverPubkey.trans ready.keyIs.symm
  have fresh := ready.fresh
  have clock : Flacon.checkKeyAndFreshness key around.now now = .ok () := by
    unfold Flacon.checkKeyAndFreshness
    rw [require_pass ready.keyValid.1,ok_bind,require_pass ready.keyValid.2,ok_bind]
    apply require_pass
    have skew : Flacon.MAX_SCAN_TS_SKEW_S = 600 := rfl
    refine ⟨?_,?_,?_⟩
    · omega
    · omega
    · rw [skew]
      omega
  unfold Flacon.checkSignature
  refine bind_ok.mpr ⟨(),require_pass Nat.one_pos,bind_ok.mpr ⟨_,orRefuse_ok.mpr rfl,?_⟩⟩
  refine bind_ok.mpr ⟨(),require_pass rfl,bind_ok.mpr ⟨_,parses,bind_ok.mpr ⟨key,orRefuse_ok.mpr ready.keyKnown,?_⟩⟩⟩
  refine bind_ok.mpr ⟨(),require_pass (congrArg Subtype.val own),bind_ok.mpr ⟨(),clock,?_⟩⟩
  apply require_pass
  rw [signs.msg,serial,uid]
  rfl

end Fields

-- A field that is refused after every other check refuses the scan.
theorem fields_refuse {s : Ledger} {a : RecordScan} {args : RecordScanArgs} {now : I64} {registry : Registry} {passport : Passport}
    {found : Seal} {error : ProgramError} (registered : Flacon.loadRegistry s a.registry = .ok registry)
    (issued : Flacon.loadPassport s a.passport = .ok passport) (attached : Flacon.loadSeal s a.sealKey = .ok found)
    (wallet : a.attester.canSign) (proof : a.scanProof = .scan a.sealKey args.counter)
    (signature : Flacon.checkSignature registry passport found a args now = .ok ())
    (scannable : Flacon.Scannable a.passport passport found args) (fields : Flacon.checkFields registry a.attester args = .error error) :
    Flacon.handleRecordScan s a args now = .error error := by
  unfold Flacon.handleRecordScan
  rw [registered,ok_bind,issued,ok_bind,attached,ok_bind,@Flacon.requireSigner_ok a.attester () |>.mpr wallet,ok_bind,require_pass proof,
    ok_bind,signature,ok_bind,@Flacon.checkSealState_ok a.passport passport found args () |>.mpr scannable,ok_bind,fields]
  rfl

-- The program's answer to the transaction of a signed scan.
theorem recorded {settings : Settings} {db : Database} {body : VerifyBody} {around : Surroundings} {scan : SignedScan} {counter : U24}
    {mediaHash nonce : Bytes32} (libraries : Libraries settings) (cluster : FlaconVault.Run) (n : ℕ) {attester : Pubkey} {now : I64}
    {registry : Registry} {key : ServerKey} {passport : Passport} {found : Seal}
    (signs : Signs settings db body around scan counter mediaHash nonce)
    (ready : Ready settings db body around scan (cluster.ledger n) attester now registry key passport found) :
    if Anchorable body then ∃ after, Flacon.handleRecordScan (cluster.ledger n)
      (accountsOf libraries attester scan (argsOf body around scan counter mediaHash nonce))
      (argsOf body around scan counter mediaHash nonce) now = .ok after
    else Flacon.handleRecordScan (cluster.ledger n)
      (accountsOf libraries attester scan (argsOf body around scan counter mediaHash nonce))
      (argsOf body around scan counter mediaHash nonce) now = .error (.flacon .tierNotAllowedForRole) := by
  have linked := @Flacon.linked_at cluster n
  have serial : passport.serialHash = scan.serialHash := (Pubkey.passport.inj (linked.passportHere _ _ ready.passportKnown)).symm
  have uid : found.uidHash = scan.uidHash := (Pubkey.sealOf.inj (linked.sealHere _ _ ready.sealKnown)).symm
  have fields := (signed_fields counter nonce signs.admitted ready).outcome
  have signature := @signature_checked settings db body around scan counter mediaHash nonce (cluster.ledger n) attester now registry key
    passport found libraries signs ready serial uid
  have counts := signs.counted
  have rising := ready.rising
  have scannable : Flacon.Scannable (.passport scan.serialHash) passport found (argsOf body around scan counter mediaHash nonce) :=
    ⟨ready.attached,ready.alive,ready.valid,by rw [counts] at rising; exact rising,Nat.le_of_lt_succ counter.isLt⟩
  split
  · rename_i anchorable
    rw [if_pos anchorable] at fields
    have few := Flacon.scan_count_le linked (Flacon.tallied_at n) ready.passportKnown
    have below : passport.scanCount.val+1 < 2^32 := by omega
    have adds : checkedAdd passport.scanCount 1 = some ⟨passport.scanCount.val+1,below⟩ := checkedAdd_some.mpr rfl
    exact ⟨_,Flacon.record_parts.mpr ⟨registry,passport,found,_,⟨rfl,ready.registryKnown,ready.passportKnown,
      congrArg Pubkey.passport serial.symm,ready.sealKnown,congrArg Pubkey.sealOf uid.symm,ready.wallet,rfl,signature,scannable,fields⟩,
      adds,rfl⟩⟩
  · rename_i refused
    rw [if_neg refused] at fields
    exact fields_refuse (Flacon.loadRegistry_ok.mpr ⟨rfl,ready.registryKnown⟩)
      (Flacon.loadPassport_ok.mpr ⟨ready.passportKnown,congrArg Pubkey.passport serial.symm⟩)
      (Flacon.loadSeal_ok.mpr ⟨ready.sealKnown,congrArg Pubkey.sealOf uid.symm⟩) ready.wallet rfl signature scannable fields

-- Every scan the server signs can be anchored by its wallet, exactly when its tier is open to its role.
structure SignThenAnchor (settings : Settings) : Prop where
  anchors : ∀ (libraries : Libraries settings) db later body around answer scan (cluster : FlaconVault.Run) n attester now registry key
    passport found, verify settings db body around = .ok (later,answer) → answer.signed = some scan →
    Ready settings db body around scan (cluster.ledger n) attester now registry key passport found →
    ∃ built, buildRecordScanTx libraries attester (responseOf scan) ⟨body.tier.val,body.role.val,none⟩ = .ok built ∧
      ((∃ after, process ⟨.flacon (.recordScan built.accounts built.args),now⟩ (cluster.ledger n) = .ok after) ↔ Anchorable body) ∧
      (¬Anchorable body → process ⟨.flacon (.recordScan built.accounts built.args),now⟩ (cluster.ledger n) =
        .error (.flacon .tierNotAllowedForRole))

theorem sign_then_anchor (settings : Settings) : SignThenAnchor settings where
  anchors libraries db later body around answer scan cluster n attester now registry key passport found accepted signed ready := by
    obtain ⟨counter,mediaHash,nonce,signs⟩ := signed_parts accepted signed
    refine ⟨_,built libraries attester signs,?_⟩
    have outcome := recorded libraries cluster n signs ready
    split at outcome
    · rename_i anchorable
      exact ⟨⟨fun _ => anchorable,fun _ => outcome⟩,fun refused => absurd anchorable refused⟩
    · rename_i refused
      refine ⟨⟨?_,fun anchorable => absurd anchorable refused⟩,fun _ => outcome⟩
      intro accepted
      obtain ⟨after,accepted⟩ := accepted
      cases outcome.symm.trans accepted

-- A registry partner claims the certified tier in the role of an owner: signed, and refused on the chain.
namespace CertifiedOwner
open Verifier.Attachments (serial box)

def settings : Settings := .sample
def admin : Pubkey := .keypair 1
def partner : Pubkey := .keypair 3
def asset : Pubkey := .keypair 10
def passport : Pubkey := .passport (settings.serialHash serial)

theorem third_tier : 3 < 5 := by decide

def body : VerifyBody := {Sighted.body with tier := ⟨3,third_tier⟩
                                            attester := some (.key partner)
                                            mediaHash := some "0700000000000000000000000000000000000000000000000000000000000000"}

def around : Surroundings := {Sighted.around with chainPartners := some [partner]
                                                  tapIds := [8]}

def db : Database := Sighted.run.db settings 6

def calls : List Call := [
  .flacon (.initRegistry ⟨.registry,admin⟩),
  .flacon (.addServerKey ⟨.registry,admin⟩ 0 (hashOf []) .zero .zero),
  .flacon (.addPartner ⟨.registry,admin⟩ partner),
  .core (.create asset admin),
  .flacon (.mintPassport ⟨.registry,passport,admin,asset⟩ (settings.serialHash serial) zero32 asset),
  .flacon (.attachSeal ⟨.registry,passport,.sealOf box,admin⟩ box Flacon.SEAL_KIND_BOX)]

def cluster : FlaconVault.Run := ⟨some admin,none,fun n => ⟨calls.getD n (.core (.burn asset admin)),.zero⟩⟩

def key : ServerKey := ⟨0,hashOf [],.zero,.zero⟩
def registry : Registry := ⟨admin,[key],[partner],[]⟩
def found : Seal := ⟨passport,Flacon.SEAL_KIND_BOX,box,0,false,.zero⟩
def minted : Passport := ⟨settings.serialHash serial,zero32,asset,admin,.a,0,1,false,.zero⟩

theorem own_layout (publicKey message signature : List Byte) (_ : publicKey.length = 32) (_ : signature.length = 64)
    (_ : message.length < 2^16) : ed25519Layout publicKey message signature = ed25519Layout publicKey message signature := rfl

theorem own_signature (message : List Byte) : (settings.sign message).length = 64 := by
  show (bytesOf 64 message).length = 64
  simp [bytesOf]

def libraries : Libraries settings where
  programId := .foreign 1
  recordScanData _ := []
  createInstructionWithPublicKey := ed25519Layout
  layout := own_layout
  signature := own_signature

def answer : Option (Database × VerifyAnswer) := (verify settings db body around).toOption

theorem signs_it : (answer.bind (·.2.signed)).map (fun scan => (scan.serialHash,scan.uidHash,scan.counter,scan.keyId)) =
    some (settings.serialHash serial,box,1,0) := by decide +kernel

theorem partners_agree (wallet : Pubkey) : isRegistryPartner settings db around.chainPartners (some wallet) = registry.isPartner wallet := by
  show ([partner].contains wallet) = ([partner].any (· == wallet))
  simp [beq_eq_decide,eq_comm]

theorem ready {scan : SignedScan} (named : (scan.serialHash,scan.uidHash,scan.counter,scan.keyId) = (settings.serialHash serial,box,1,0)) :
    Ready settings db body around scan (cluster.ledger 6) partner .zero registry key minted found := by
  simp only [Prod.mk.injEq] at named
  obtain ⟨serialHash,uidHash,counter,keyId⟩ := named
  constructor
  · rfl
  · intro text claimed
    cases claimed
    rfl
  · decide +kernel
  · exact partners_agree
  · rw [keyId]
    decide +kernel
  · rfl
  · decide +kernel
  · decide +kernel
  · rw [serialHash]
    decide +kernel
  · decide +kernel
  · rw [uidHash]
    decide +kernel
  · rw [serialHash]
    rfl
  · decide +kernel
  · rw [counter]
    decide +kernel

-- The program refuses the transaction of a scan the server signed.
theorem signed_but_refused : ¬∀ later answer scan, verify settings db body around = .ok (later,answer) → answer.signed = some scan →
    Ready settings db body around scan (cluster.ledger 6) partner .zero registry key minted found →
    ∃ built after, buildRecordScanTx libraries partner (responseOf scan) ⟨body.tier.val,body.role.val,none⟩ = .ok built ∧
      process ⟨.flacon (.recordScan built.accounts built.args),.zero⟩ (cluster.ledger 6) = .ok after := by
  intro law
  have told := signs_it
  unfold answer at told
  cases accepted : verify settings db body around with
  | error error =>
    rw [accepted] at told
    cases told
  | ok result =>
    obtain ⟨later,answered⟩ := result
    rw [accepted] at told
    obtain ⟨scan,signed,named⟩ := Option.map_eq_some_iff.mp told
    obtain ⟨made,after,makes,records⟩ := law later answered scan accepted signed (ready named)
    obtain ⟨counter,mediaHash,nonce,signs⟩ := signed_parts accepted signed
    cases makes.symm.trans (built libraries partner signs)
    have outcome := recorded libraries cluster 6 signs (ready named)
    rw [if_neg (by decide)] at outcome
    cases outcome.symm.trans records

end CertifiedOwner

end FlaconVault.Web.FlaconClient
