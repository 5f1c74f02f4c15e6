import FlaconVault.Escrow.Effects
namespace FlaconVault.Flacon
open Guards

-- Every account stands at the address of its seeds and names accounts that exist. The last clause is the argument
-- behind `init_if_needed`: a ScanProof of counter N exists only while its seal's counter is at least N.
structure Linked (s : FlaconAccounts) : Prop where
  passportHere : s.passports.Placed fun passport => .passport passport.serialHash
  sealHere : s.seals.Placed fun found => .sealOf found.uidHash
  scanHere : s.scans.Placed fun scan => .scan scan.sealKey scan.counter
  ofPassport : ∀ key found, s.seals key = some found → ∃ passport, s.passports found.passport = some passport
  inRange : ∀ key scan, s.scans key = some scan → 0 < scan.counter.val ∧ scan.counter.val ≤ MAX_COUNTER
  latest : ∀ key found, s.seals key = some found →
    found.lastCounter.val = 0 ∨ ∃ scan, s.scans (.scan key found.lastCounter) = some scan
  ofSeal : ∀ key scan, s.scans key = some scan →
    ∃ found, s.seals scan.sealKey = some found ∧ scan.counter ≤ found.lastCounter

-- What never changes in a passport, and how a seal may change.
def SameBirth (old new : Passport) : Prop :=
  new.serialHash = old.serialHash ∧ new.bindingHash = old.bindingHash ∧ new.asset = old.asset ∧
    new.issuer = old.issuer ∧ new.createdAt = old.createdAt

def SealLater (old new : Seal) : Prop :=
  new.passport = old.passport ∧ new.kind = old.kind ∧ new.uidHash = old.uidHash ∧ old.lastCounter ≤ new.lastCounter

theorem SameBirth.refl (passport : Passport) : SameBirth passport passport := ⟨rfl,rfl,rfl,rfl,rfl⟩
theorem SameBirth.trans (left : SameBirth a b) (right : SameBirth b c) : SameBirth a c := by
  obtain ⟨s₁,b₁,a₁,i₁,c₁⟩ := left
  obtain ⟨s₂,b₂,a₂,i₂,c₂⟩ := right
  exact ⟨s₂.trans s₁,b₂.trans b₁,a₂.trans a₁,i₂.trans i₁,c₂.trans c₁⟩

theorem SealLater.refl (found : Seal) : SealLater found found := ⟨rfl,rfl,rfl,le_refl _⟩
theorem SealLater.trans (left : SealLater a b) (right : SealLater b c) : SealLater a c := by
  obtain ⟨p₁,k₁,u₁,l₁⟩ := left
  obtain ⟨p₂,k₂,u₂,l₂⟩ := right
  exact ⟨p₂.trans p₁,k₂.trans k₁,u₂.trans u₁,le_trans l₁ l₂⟩

-- Accounts are never removed, and a written ScanProof is never written again.
structure Grows (s after : FlaconAccounts) : Prop where
  passports : s.passports.Extends SameBirth after.passports
  seals : s.seals.Extends SealLater after.seals
  scans : s.scans.Extends Eq after.scans

theorem Grows.refl (s : FlaconAccounts) : Grows s s :=
  ⟨.refl SameBirth.refl _,.refl SealLater.refl _,.refl (fun _ => rfl) _⟩

theorem Grows.trans (left : Grows a b) (right : Grows b c) : Grows a c :=
  ⟨left.passports.trans SameBirth.trans right.passports,left.seals.trans SealLater.trans right.seals,
    left.scans.trans Eq.trans right.scans⟩

-- Step 2 of `record_scan` compares the counter with the seal, so the ScanProof it is about to write is new.
theorem proof_fresh {args : RecordScanArgs} (linked : Linked s) (there : s.seals (.sealOf found.uidHash) = some found)
    (rising : found.lastCounter < args.counter) : s.scans (.scan (.sealOf found.uidHash) args.counter) = none := by
  by_contra written
  obtain ⟨scan,present⟩ := Option.ne_none_iff_exists'.mp written
  obtain ⟨host,hosted,below⟩ := linked.ofSeal _ _ present
  have here := linked.scanHere _ _ present
  obtain ⟨sameSeal,sameCounter⟩ := Pubkey.scan.inj here
  rw [←sameSeal,there] at hosted
  cases Option.some.inj hosted
  rw [←sameCounter] at below
  exact absurd below (not_le.mpr rising)

theorem Change.grows (linked : Linked s) (change : Change s after) : Grows s after := by
  have same := Grows.refl s
  cases change with
  | registry => exact ⟨same.passports,same.seals,same.scans⟩
  | minted serialHash bindingHash asset issuer now fresh =>
    exact ⟨.put_fresh SameBirth.refl fresh,same.seals,same.scans⟩
  | attached passport uidHash kind sealCount now known fresh =>
    exact ⟨.put_update SameBirth.refl known ⟨rfl,rfl,rfl,rfl,rfl⟩,.put_fresh SealLater.refl fresh,same.scans⟩
  | died passport found known there =>
    exact ⟨.put_update SameBirth.refl known ⟨rfl,rfl,rfl,rfl,rfl⟩,.put_update SealLater.refl there ⟨rfl,rfl,rfl,le_refl _⟩,
      same.scans⟩
  | scanned passport found attester args scanCount known there scannable =>
    exact ⟨.put_update SameBirth.refl known ⟨rfl,rfl,rfl,rfl,rfl⟩,
      .put_update SealLater.refl there ⟨rfl,rfl,rfl,le_of_lt scannable.rising⟩,
      .put_fresh (fun _ => rfl) (proof_fresh linked there scannable.rising)⟩

theorem of_passport_later (linked : Linked s) (grows : s.passports.Extends SameBirth passports)
    (there : s.seals key = some found) : ∃ passport, passports found.passport = some passport := by
  obtain ⟨passport,known⟩ := linked.ofPassport key found there
  obtain ⟨later,present,-⟩ := grows _ _ known
  exact ⟨later,present⟩

theorem of_seal_later (linked : Linked s) (grows : s.seals.Extends SealLater seals) (written : s.scans key = some scan) :
    ∃ found, seals scan.sealKey = some found ∧ scan.counter ≤ found.lastCounter := by
  obtain ⟨found,there,below⟩ := linked.ofSeal key scan written
  obtain ⟨later,present,-,-,-,rising⟩ := grows _ _ there
  exact ⟨later,present,le_trans below rising⟩

theorem Change.linked (linked : Linked s) (change : Change s after) : Linked after := by
  have grows := change.grows linked
  cases change with
  | registry => exact ⟨linked.1,linked.2,linked.3,linked.4,linked.5,linked.6,linked.7⟩
  | minted serialHash bindingHash asset issuer now fresh =>
    exact ⟨linked.passportHere.put rfl,linked.sealHere,linked.scanHere,
      fun _ _ there => of_passport_later linked grows.passports there,linked.inRange,linked.latest,linked.ofSeal⟩
  | attached passport uidHash kind sealCount now known fresh =>
    refine ⟨linked.passportHere.put rfl,linked.sealHere.put rfl,linked.scanHere,?_,linked.inRange,
      ?_,fun _ _ written => of_seal_later linked grows.seals written⟩
    · intro key found there
      rcases Cells.put_some.mp there with ⟨-,rfl⟩ | ⟨-,old⟩
      · exact ⟨_,Cells.put_self _ _ _⟩
      · exact of_passport_later linked grows.passports old
    · intro key found there
      rcases Cells.put_some.mp there with ⟨-,rfl⟩ | ⟨-,old⟩
      · exact .inl rfl
      · exact linked.latest key found old
  | died passport found known there attached alive =>
    have host := of_passport_later linked grows.passports there
    refine ⟨linked.passportHere.put rfl,linked.sealHere.put rfl,linked.scanHere,?_,linked.inRange,
      ?_,fun _ _ written => of_seal_later linked grows.seals written⟩
    · intro key later present
      rcases Cells.put_some.mp present with ⟨-,rfl⟩ | ⟨-,old⟩
      · exact host
      · exact of_passport_later linked grows.passports old
    · intro key later present
      rcases Cells.put_some.mp present with ⟨rfl,rfl⟩ | ⟨-,old⟩
      · exact linked.latest _ found there
      · exact linked.latest key later old
  | scanned passport found attester args scanCount known there scannable =>
    have host := of_passport_later linked grows.passports there
    refine ⟨linked.passportHere.put rfl,linked.sealHere.put rfl,linked.scanHere.put rfl,?_,?_,?_,?_⟩
    · intro key later present
      rcases Cells.put_some.mp present with ⟨-,rfl⟩ | ⟨-,old⟩
      · exact host
      · exact of_passport_later linked grows.passports old
    · intro key scan written
      rcases Cells.put_some.mp written with ⟨-,rfl⟩ | ⟨-,old⟩
      · exact ⟨Nat.zero_lt_of_lt scannable.rising,scannable.inRange⟩
      · exact linked.inRange key scan old
    · intro key later present
      rcases Cells.put_some.mp present with ⟨rfl,rfl⟩ | ⟨-,old⟩
      · exact .inr ⟨_,Cells.put_self _ _ _⟩
      · rcases linked.latest key later old with zero | ⟨scan,written⟩
        · exact .inl zero
        · obtain ⟨kept,present,-⟩ := grows.scans _ _ written
          exact .inr ⟨kept,present⟩
    · intro key scan written
      rcases Cells.put_some.mp written with ⟨-,rfl⟩ | ⟨-,old⟩
      · exact ⟨_,Cells.put_self _ _ _,le_refl _⟩
      · exact of_seal_later linked grows.seals old

-- The seals of a passport, and the ScanProofs of these seals.
def OfPassport (seals : Cells Pubkey Seal) (passportKey : Pubkey) (scan : ScanProof) : Prop :=
  ∃ found, seals scan.sealKey = some found ∧ found.passport = passportKey

noncomputable def scansOf (s : FlaconAccounts) (passportKey : Pubkey) : ℕ :=
  s.scans.population fun _ scan => OfPassport s.seals passportKey scan

noncomputable def sealsOf (s : FlaconAccounts) (passportKey : Pubkey) : ℕ :=
  s.seals.population fun _ found => found.passport = passportKey

theorem of_passport_update {seals : Cells Pubkey Seal} {old new : Seal} {scan : ScanProof} (known : seals key = some old)
    (same : new.passport = old.passport) : OfPassport (seals.put key new) passportKey scan ↔ OfPassport seals passportKey scan := by
  unfold OfPassport
  by_cases atKey : scan.sealKey = key
  · simp [atKey,known,same]
  · simp [atKey]

theorem of_passport_fresh {seals : Cells Pubkey Seal} {new : Seal} {scan : ScanProof} (fresh : seals key = none)
    (hosted : seals scan.sealKey = some found) :
    OfPassport (seals.put key new) passportKey scan ↔ OfPassport seals passportKey scan := by
  have apart : scan.sealKey ≠ key := by
    rintro rfl
    simp [fresh] at hosted
  unfold OfPassport
  simp [apart]

theorem scans_of_congr {s after : FlaconAccounts} (sameScans : after.scans = s.scans)
    (same : ∀ key scan, s.scans key = some scan →
      (OfPassport after.seals passportKey scan ↔ OfPassport s.seals passportKey scan)) :
    scansOf after passportKey = scansOf s passportKey := by
  unfold scansOf
  rw [sameScans]
  refine Cells.population_congr fun key => exists_congr fun scan => and_congr_right fun written => ?_
  exact same key scan written

-- The counters kept in the passport are the numbers of accounts that exist.
structure Tallied (s : FlaconAccounts) : Prop where
  scanCount : ∀ key passport, s.passports key = some passport → passport.scanCount.val = scansOf s key
  sealCount : ∀ key passport, s.passports key = some passport → passport.sealCount.val = sealsOf s key
  sealLimit : ∀ key passport, s.passports key = some passport → passport.sealCount.val ≤ MAX_SEALS_PER_PASSPORT

theorem minted_tallied (linked : Linked s) (tallied : Tallied s) (fresh : s.passports key = none)
    (noScans : passport.scanCount = 0) (noSeals : passport.sealCount = 0) :
    Tallied {s with passports := s.passports.put key passport} := by
  have noSealHere : ∀ sealKey found, s.seals sealKey = some found → found.passport ≠ key := by
    rintro sealKey found there rfl
    obtain ⟨owner,known⟩ := linked.ofPassport sealKey found there
    simp [fresh] at known
  have zeroScans : scansOf s key = 0 := by
    refine Cells.population_zero ?_
    rintro _ scan - ⟨found,there,here⟩
    exact noSealHere _ found there here
  have zeroSeals : sealsOf s key = 0 := Cells.population_zero noSealHere
  refine ⟨?_,?_,?_⟩
  · intro other found there
    rcases Cells.put_some.mp there with ⟨rfl,rfl⟩ | ⟨-,old⟩
    · exact (congrArg Fin.val noScans).trans zeroScans.symm
    · exact tallied.scanCount other found old
  · intro other found there
    rcases Cells.put_some.mp there with ⟨rfl,rfl⟩ | ⟨-,old⟩
    · exact (congrArg Fin.val noSeals).trans zeroSeals.symm
    · exact tallied.sealCount other found old
  · intro other found there
    rcases Cells.put_some.mp there with ⟨rfl,rfl⟩ | ⟨-,old⟩
    · exact (congrArg Fin.val noSeals).trans_le (Nat.zero_le _)
    · exact tallied.sealLimit other found old

theorem attached_tallied (linked : Linked s) (tallied : Tallied s) (known : s.passports passportKey = some passport)
    (fresh : s.seals sealKey = none) (ofPassport : new.passport = passportKey)
    (room : passport.sealCount.val < MAX_SEALS_PER_PASSPORT) (adds : sealCount.val = passport.sealCount.val + 1) :
    Tallied {s with
      passports := s.passports.put passportKey {passport with sealCount := sealCount}
      seals := s.seals.put sealKey new} := by
  have sameScans : ∀ key, scansOf {s with
      passports := s.passports.put passportKey {passport with sealCount := sealCount}
      seals := s.seals.put sealKey new} key = scansOf s key := by
    intro key
    refine scans_of_congr rfl fun scanKey scan written => ?_
    obtain ⟨host,hosted,-⟩ := linked.ofSeal scanKey scan written
    exact of_passport_fresh fresh hosted
  refine ⟨?_,?_,?_⟩
  · intro other found there
    rw [sameScans]
    rcases Cells.put_some.mp there with ⟨rfl,rfl⟩ | ⟨-,old⟩
    · exact tallied.scanCount _ passport known
    · exact tallied.scanCount other found old
  · intro other found there
    rcases Cells.put_some.mp there with ⟨rfl,rfl⟩ | ⟨apart,old⟩
    · have grown : (s.seals.put sealKey new).population (fun _ found => found.passport = other) = sealsOf s other + 1 :=
        Cells.population_put_counted fresh ofPassport
      have before := tallied.sealCount _ passport known
      have adds' : sealCount.val = sealsOf s other + 1 := by omega
      exact adds'.trans grown.symm
    · have kept : (s.seals.put sealKey new).population (fun _ found => found.passport = other) = sealsOf s other :=
        Cells.population_put_uncounted fresh (fun here => apart (here.symm.trans ofPassport))
      exact (tallied.sealCount other found old).trans kept.symm
  · intro other found there
    rcases Cells.put_some.mp there with ⟨rfl,rfl⟩ | ⟨-,old⟩
    · exact adds.trans_le room
    · exact tallied.sealLimit other found old

-- A seal that stays with its passport is counted as before; a new ScanProof adds one to its passport.
theorem updated_tallied (tallied : Tallied s) (known : s.passports passportKey = some passport)
    (there : s.seals sealKey = some found) (samePassport : new.passport = found.passport)
    (sameCount : later.sealCount = passport.sealCount)
    (scanCount : later.scanCount.val = scansOf {s with seals := s.seals.put sealKey new, scans := scans} passportKey)
    (others : ∀ key, key ≠ passportKey → scansOf {s with seals := s.seals.put sealKey new, scans := scans} key = scansOf s key) :
    Tallied {s with
      passports := s.passports.put passportKey later
      seals := s.seals.put sealKey new
      scans := scans} := by
  have sameSeals : ∀ key, (s.seals.put sealKey new).population (fun _ found => found.passport = key) = sealsOf s key :=
    fun key => Cells.population_put_update there (by rw [samePassport])
  refine ⟨?_,?_,?_⟩
  · intro other held present
    rcases Cells.put_some.mp present with ⟨rfl,rfl⟩ | ⟨apart,old⟩
    · exact scanCount
    · exact (tallied.scanCount other held old).trans (others other apart).symm
  · intro other held present
    rcases Cells.put_some.mp present with ⟨rfl,rfl⟩ | ⟨-,old⟩
    · exact (congrArg Fin.val sameCount).trans ((tallied.sealCount _ passport known).trans (sameSeals _).symm)
    · exact (tallied.sealCount other held old).trans (sameSeals other).symm
  · intro other held present
    rcases Cells.put_some.mp present with ⟨rfl,rfl⟩ | ⟨-,old⟩
    · exact (congrArg Fin.val sameCount).trans_le (tallied.sealLimit _ passport known)
    · exact tallied.sealLimit other held old

theorem Change.tallied (linked : Linked s) (tallied : Tallied s) (change : Change s after) : Tallied after := by
  cases change with
  | registry => exact ⟨tallied.1,tallied.2,tallied.3⟩
  | minted serialHash bindingHash asset issuer now fresh => exact minted_tallied linked tallied fresh rfl rfl
  | attached passport uidHash kind sealCount now known fresh kinds valid room adds =>
    exact attached_tallied linked tallied known fresh rfl room (checkedAdd_some.mp adds)
  | died passport found known there attached alive =>
    have same : ∀ key, scansOf {s with seals := s.seals.put (.sealOf found.uidHash) {found with dead := true}} key =
        scansOf s key :=
      fun key => scans_of_congr rfl fun _ _ _ => of_passport_update there rfl
    exact updated_tallied tallied known there rfl rfl ((tallied.scanCount _ passport known).trans (same _).symm)
      fun key _ => same key
  | scanned passport found attester args scanCount known there scannable adds =>
    have fresh := proof_fresh linked there scannable.rising
    have added : ∀ key, scansOf {s with
        seals := s.seals.put (.sealOf found.uidHash) {found with lastCounter := args.counter}
        scans := s.scans.put (.scan (.sealOf found.uidHash) args.counter)
          (scanProofOf (.sealOf found.uidHash) attester args)} key =
        scansOf s key + if found.passport = key then 1 else 0 := by
      intro key
      have later : scansOf {s with seals := s.seals.put (.sealOf found.uidHash) {found with lastCounter := args.counter}} key =
          scansOf s key :=
        scans_of_congr rfl fun _ _ _ => of_passport_update there rfl
      rw [←later]
      by_cases here : found.passport = key
      · rw [if_pos here]
        exact Cells.population_put_counted fresh ⟨_,Cells.put_self _ _ _,here⟩
      · rw [if_neg here]
        refine Cells.population_put_uncounted fresh ?_
        rintro ⟨host,hosted,ofKey⟩
        cases (Option.some.inj ((Cells.put_self _ _ _).symm.trans hosted))
        exact here ofKey
    refine updated_tallied tallied known there rfl rfl ?_ ?_
    · rw [added,if_pos scannable.attached,←tallied.scanCount _ passport known]
      exact checkedAdd_some.mp adds
    · intro key apart
      rw [added,if_neg (fun here => apart (here.symm.trans scannable.attached))]
      rfl

theorem genesis_linked (f e : Option Pubkey) : Linked (Ledger.genesis f e).flacon := by
  refine ⟨?_,?_,?_,?_,?_,?_,?_⟩
  all_goals intro key value found; cases found

theorem genesis_tallied (f e : Option Pubkey) : Tallied (Ledger.genesis f e).flacon := by
  refine ⟨?_,?_,?_⟩
  all_goals intro key value found; cases found

section Run
variable {run : Run}

theorem flacon_at (n : ℕ) :
    (run.ledger (n+1)).flacon =
        (run.ledger n).flacon ∨
      Change (run.ledger n).flacon
        (run.ledger (n+1)).flacon := by
  rcases execute_cases (run.schedule n) (run.ledger n) with same | accepted
  · exact .inl (congrArg Ledger.flacon same)
  · exact flacon_step accepted

theorem linked_at (n : ℕ) : Linked (run.ledger n).flacon := by
  induction n with
  | zero => exact genesis_linked _ _
  | succ n ih =>
    rcases flacon_at n with same | change
    · exact same ▸ ih
    · exact change.linked ih

theorem tallied_at (n : ℕ) : Tallied (run.ledger n).flacon := by
  induction n with
  | zero => exact genesis_tallied _ _
  | succ n ih =>
    rcases flacon_at n with same | change
    · exact same ▸ ih
    · exact change.tallied (linked_at n) ih

theorem grows_at {i j : ℕ} (ordered : i ≤ j) :
    Grows (run.ledger i).flacon
      (run.ledger j).flacon := by
  refine Runs.related (R := fun s after : Ledger => Grows s.flacon after.flacon) (fun s => .refl s.flacon) Grows.trans ?_
    ordered
  intro n
  rcases flacon_at n with same | change
  · exact (congrArg (Grows _) same).mpr (.refl _)
  · exact change.grows (linked_at n)

end Run

-- A ScanProof address names its seal and a counter of 24 bits, so two seals bound the scans of a passport.
def sealPart : Pubkey → Pubkey
  | .scan sealKey _ => sealKey
  | key => key

def counterPart : Pubkey → ℕ
  | .scan _ counter => counter.val - 1
  | _ => 0

theorem scans_of_le (linked : Linked s) (key : Pubkey) : scansOf s key ≤ sealsOf s key * MAX_COUNTER := by
  refine Cells.population_le_mul sealPart counterPart ?_ ?_
  · rintro scanKey scan written ⟨found,there,here⟩
    have range := linked.inRange _ _ written
    rw [linked.scanHere _ _ written]
    refine ⟨⟨found,there,here⟩,?_⟩
    change scan.counter.val - 1 < MAX_COUNTER
    omega
  · intro first scan second other written present sameSeal sameCounter
    have range := linked.inRange _ _ written
    have rangeOther := linked.inRange _ _ present
    rw [linked.scanHere _ _ written,linked.scanHere _ _ present] at sameSeal sameCounter ⊢
    have sealEq : scan.sealKey = other.sealKey := sameSeal
    have counterEq : scan.counter.val - 1 = other.counter.val - 1 := sameCounter
    have sameFull : scan.counter = other.counter := Fin.ext (by omega)
    exact congrArg₂ Pubkey.scan sealEq sameFull

theorem scan_count_le (linked : Linked s) (tallied : Tallied s) (known : s.passports key = some passport) :
    passport.scanCount.val ≤ 2 * (2^24-1) := by
  have counted := tallied.scanCount key passport known
  have bounded := scans_of_le linked key
  have limit := tallied.sealLimit key passport known
  rw [tallied.sealCount key passport known] at limit
  calc passport.scanCount.val = scansOf s key := counted
    _ ≤ sealsOf s key * MAX_COUNTER := bounded
    _ ≤ MAX_SEALS_PER_PASSPORT * MAX_COUNTER := Nat.mul_le_mul_right _ limit
    _ = 2 * (2^24-1) := rfl

-- The checks before the counters never answer with a counter overflow.
section Avoid
variable {error : ProgramError}

theorem load_registry_avoids (seeds : ProgramError.constraintSeeds ≠ error)
    (missing : ProgramError.accountNotInitialized ≠ error) : Avoids error (loadRegistry s key) :=
  .bind (.require seeds) fun _ _ => .orRefuse missing

theorem load_passport_avoids (seeds : ProgramError.constraintSeeds ≠ error)
    (missing : ProgramError.accountNotInitialized ≠ error) : Avoids error (loadPassport s key) :=
  .bind (.orRefuse missing) fun _ _ => .bind (.require seeds) fun _ _ => .pure

theorem load_seal_avoids (seeds : ProgramError.constraintSeeds ≠ error)
    (missing : ProgramError.accountNotInitialized ≠ error) : Avoids error (loadSeal s key) :=
  .bind (.orRefuse missing) fun _ _ => .bind (.require seeds) fun _ _ => .pure

theorem u16_at_avoids (malformed : ProgramError.flacon .malformedEd25519Instruction ≠ error) :
    Avoids error (u16At data offset) :=
  .bind (.orRefuse malformed) fun _ _ => .pure

theorem parse_avoids (malformed : ProgramError.flacon .malformedEd25519Instruction ≠ error) :
    Avoids error (parseSingleEd25519 data ownIndex) :=
  .bind (.require malformed) fun _ _ => .bind (.require malformed) fun _ _ => .bind (u16_at_avoids malformed) fun _ _ =>
    .bind (u16_at_avoids malformed) fun _ _ => .bind (u16_at_avoids malformed) fun _ _ =>
    .bind (u16_at_avoids malformed) fun _ _ => .bind (u16_at_avoids malformed) fun _ _ =>
    .bind (u16_at_avoids malformed) fun _ _ => .bind (u16_at_avoids malformed) fun _ _ =>
    .bind (.require malformed) fun _ _ => .bind (.require malformed) fun _ _ => .bind (.orRefuse malformed) fun _ _ =>
    .bind (.orRefuse malformed) fun _ _ => .bind (.require malformed) fun _ _ => .pure

end Avoid

theorem signature_avoids :
    Avoids (.flacon .scanCountOverflow) (checkSignature registry passport found a args now) :=
  .bind (.require nofun) fun _ _ => .bind (.orRefuse nofun) fun _ _ => .bind (.require nofun) fun _ _ =>
    .bind (parse_avoids nofun) fun _ _ => .bind (.orRefuse nofun) fun _ _ => .bind (.require nofun) fun _ _ =>
    .bind (.bind (.require nofun) fun _ _ => .bind (.require nofun) fun _ _ => .require nofun) fun _ _ => .require nofun

theorem seal_state_avoids : Avoids (.flacon .scanCountOverflow) (checkSealState key passport found args) :=
  .bind (.require nofun) fun _ _ => .bind (.require nofun) fun _ _ => .bind (.require nofun) fun _ _ =>
    .bind (.require nofun) fun _ _ => .require nofun

theorem fields_avoids : Avoids (.flacon .scanCountOverflow) (checkFields registry attester args) :=
  .bind (.require nofun) fun _ _ => .bind (.require nofun) fun _ _ => .bind (.require nofun) fun _ _ =>
    .bind (.require nofun) fun _ _ => .bind (.require nofun) fun _ _ => .bind (.require nofun) fun _ _ =>
    .bind (.require nofun) fun _ _ => .bind (.require nofun) fun _ _ => .bind (.require nofun) fun _ _ => .require nofun

theorem checkedAdd_avoids {error : ProgramError} {value : Fin bound} (fits : value.val + amount < bound) :
    Avoids error (orRefuse (checkedAdd value amount) error) := by
  rw [checkedAdd,dif_pos fits]
  exact nofun

theorem record_scan_never_overflows (linked : Linked s.flacon) (tallied : Tallied s.flacon) :
    Avoids (.flacon .scanCountOverflow) (handleRecordScan s a args now) := by
  refine .bind (load_registry_avoids nofun nofun) fun _ _ => .bind (load_passport_avoids nofun nofun) fun passport known => ?_
  refine .bind (load_seal_avoids nofun nofun) fun _ _ => .bind (.require nofun) fun _ _ => .bind (.require nofun) fun _ _ => ?_
  refine .bind signature_avoids fun _ _ => .bind seal_state_avoids fun _ _ => .bind fields_avoids fun _ _ => ?_
  have few := scan_count_le linked tallied (loadPassport_ok.mp known).1
  exact .bind (checkedAdd_avoids (by omega)) fun _ _ => .pure

theorem attach_seal_never_overflows : Avoids (.flacon .sealCountOverflow) (handleAttachSeal s a uidHash kind now) := by
  refine .bind (load_registry_avoids nofun nofun) fun _ _ => .bind (load_passport_avoids nofun nofun) fun passport known => ?_
  refine .bind (.require nofun) fun _ _ => .bind (.require nofun) fun _ _ => .bind (.require nofun) fun _ _ => ?_
  refine .bind (.require nofun) fun _ _ => .bind (.require nofun) fun _ _ => .bind (.require nofun) fun _ _ => ?_
  refine .bind (.require nofun) fun done room => .bind (checkedAdd_avoids ?_) fun _ _ => .pure
  have small : passport.sealCount.val < MAX_SEALS_PER_PASSPORT := require_ok.mp room
  unfold MAX_SEALS_PER_PASSPORT at small
  omega

-- The accepted `record_scan` that writes a ScanProof.
def WritesScan (instruction : Instruction) (s : Ledger) (key : Pubkey) (scan : ScanProof) : Prop :=
  ∃ a args after, instruction.call = .flacon (.recordScan a args) ∧ process instruction s = .ok after ∧
    a.scanProof = key ∧ scan = scanProofOf a.sealKey a.attester args

theorem writes_effect (linked : Linked s.flacon) (writes : WritesScan instruction s key scan) :
    s.flacon.scans key = none ∧ (execute instruction s).flacon.scans key = some scan := by
  obtain ⟨a,args,after,called,accepted,rfl,rfl⟩ := writes
  rw [execute_of_accepted accepted]
  simp only [process,called,processFlacon] at accepted
  obtain ⟨registry,passport,found,count,scan,adds,rfl⟩ := record_parts.mp accepted
  refine ⟨?_,Cells.put_self _ _ _⟩
  have there := scan.sealFound
  rw [scan.sealHere] at there
  rw [scan.proofHere,scan.sealHere]
  exact proof_fresh linked there scan.scannable.rising

theorem scan_origin (written : (execute instruction s).flacon.scans key = some scan) :
    s.flacon.scans key = some scan ∨ WritesScan instruction s key scan := by
  rcases execute_cases instruction s with same | accepted
  · exact .inl (same ▸ written)
  generalize execute instruction s = after at written accepted
  have accepted_ := accepted
  unfold process at accepted
  split at accepted
  · rename_i call called
    have quiet : OnlyRegistry s after → s.flacon.scans key = some scan := by
      rintro ⟨registry,rfl⟩
      exact written
    cases call with
    | initRegistry => exact .inl (quiet (init_registry_only _ accepted))
    | addServerKey => exact .inl (quiet (add_server_key_only _ accepted))
    | revokeServerKey => exact .inl (quiet (revoke_server_key_only _ accepted))
    | addPartner => exact .inl (quiet (add_partner_only _ accepted))
    | removePartner => exact .inl (quiet (remove_partner_only _ accepted))
    | addSite => exact .inl (quiet (add_site_only _ accepted))
    | transferAuthority => exact .inl (quiet (transfer_authority_only _ accepted))
    | mintPassport =>
      obtain ⟨registry,-,-,-,-,-,rfl⟩ := mint_parts accepted
      exact .inl written
    | attachSeal =>
      obtain ⟨registry,passport,count,-,-,-,-,-,-,-,-,-,-,rfl⟩ := attach_parts accepted
      exact .inl written
    | markSealDead =>
      obtain ⟨registry,passport,found,-,-,-,-,-,-,-,-,-,rfl⟩ := mark_dead_parts accepted
      exact .inl written
    | recordScan a args =>
      obtain ⟨registry,passport,found,count,-,-,rfl⟩ := record_parts.mp accepted
      rcases Cells.put_some.mp written with ⟨here,rfl⟩ | ⟨-,old⟩
      · exact .inr ⟨a,args,_,called,accepted_,here.symm,rfl⟩
      · exact .inl old
  · exact .inl ((Escrow.process_change accepted).flacon_same ▸ written)
  · simp only [processToken,bind_ok,pure_ok] at accepted
    obtain ⟨tokens,-,rfl⟩ := accepted
    exact .inl written
  · simp only [processCore,bind_ok,pure_ok] at accepted
    obtain ⟨assets,-,rfl⟩ := accepted
    exact .inl written

-- The last counter of a seal is the largest counter of its ScanProofs, 0 if it has none.
def LatestCounter (s : FlaconAccounts) (sealKey : Pubkey) (found : Seal) : Prop :=
  (found.lastCounter = 0 ∧ ∀ counter, s.scans (.scan sealKey counter) = none) ∨
    IsGreatest {counter | s.scans (.scan sealKey counter) ≠ none} found.lastCounter

theorem latest_counter (linked : Linked s) (there : s.seals sealKey = some found) : LatestCounter s sealKey found := by
  have bounded : ∀ counter scan, s.scans (.scan sealKey counter) = some scan → counter ≤ found.lastCounter := by
    intro counter scan written
    obtain ⟨sameSeal,sameCounter⟩ := Pubkey.scan.inj (linked.scanHere _ _ written)
    obtain ⟨host,hosted,below⟩ := linked.ofSeal _ _ written
    rw [←sameSeal,there] at hosted
    cases Option.some.inj hosted
    exact sameCounter ▸ below
  rcases linked.latest sealKey found there with zero | ⟨scan,written⟩
  · refine .inl ⟨Fin.ext zero,fun counter => ?_⟩
    by_contra present
    obtain ⟨scan,written⟩ := Option.ne_none_iff_exists'.mp present
    have positive := (linked.inRange _ _ written).1
    have here := (Pubkey.scan.inj (linked.scanHere _ _ written)).2
    have below : counter.val ≤ found.lastCounter.val := bounded counter scan written
    rw [←here] at positive
    omega
  · refine .inr ⟨?_,?_⟩
    · rw [Set.mem_ofPred_eq,written]
      exact nofun
    · intro counter present
      obtain ⟨other,there⟩ := Option.ne_none_iff_exists'.mp present
      exact bounded counter other there

section Law
variable (run : Run)

def flaconAt (n : ℕ) : FlaconAccounts := (run.ledger n).flacon

def WritesScanAt (n : ℕ) (key : Pubkey) (scan : ScanProof) : Prop :=
  WritesScan (run.schedule n) (run.ledger n) key scan

theorem scan_written_once (n : ℕ) (key : Pubkey) (scan : ScanProof)
    (written : (flaconAt run n).scans key = some scan) :
    ∃ i < n, WritesScanAt run i key scan ∧
      ∀ j other, WritesScanAt run j key other → j = i := by
  have origin : ∃ i < n, WritesScanAt run i key scan := by
    induction n with
    | zero => cases written
    | succ n ih =>
      rcases scan_origin written with old | writes
      · obtain ⟨i,before,writes⟩ := ih old
        exact ⟨i,by omega,writes⟩
      · exact ⟨n,Nat.lt_succ_self n,writes⟩
  obtain ⟨i,before,writes⟩ := origin
  refine ⟨i,before,writes,?_⟩
  -- a write needs an empty address, and an address is never emptied again
  have once : ∀ {first second firstScan secondScan},
      WritesScanAt run first key firstScan →
      WritesScanAt run second key secondScan → ¬first < second := by
    intro first second firstScan secondScan early late order
    have filled := (writes_effect (linked_at first) early).2
    obtain ⟨kept,still,-⟩ := (grows_at (Nat.succ_le_of_lt order)).scans key firstScan filled
    rw [(writes_effect (linked_at second) late).1] at still
    cases still
  intro j other again
  exact Nat.le_antisymm (not_lt.mp (once writes again)) (not_lt.mp (once again writes))

-- Counting and write-once law of the flacon program, over every run of the cluster.
theorem counting_and_write_once :
    (∀ n sealKey counter scan,
      (flaconAt run n).scans (.scan sealKey counter) = some scan →
      (∃ found, (flaconAt run n).seals sealKey = some found ∧
        counter ≤ found.lastCounter) ∧
      (∃ i < n, WritesScanAt run i (.scan sealKey counter) scan ∧
        ∀ j other, WritesScanAt run j (.scan sealKey counter) other → j = i) ∧
      ∀ m, n ≤ m → (flaconAt run m).scans (.scan sealKey counter) = some scan) ∧
    (∀ n sealKey found, (flaconAt run n).seals sealKey = some found →
      LatestCounter (flaconAt run n) sealKey found ∧
      ∀ m, n ≤ m → ∃ later, (flaconAt run m).seals sealKey = some later ∧
        found.lastCounter ≤ later.lastCounter) ∧
    (∀ n key passport, (flaconAt run n).passports key = some passport →
      passport.scanCount.val = scansOf (flaconAt run n) key ∧
      passport.scanCount.val ≤ 2 * (2^24-1) ∧
      passport.sealCount.val = sealsOf (flaconAt run n) key ∧
      passport.sealCount.val ≤ 2) ∧
    ∀ n now,
      (∀ a args, process ⟨.flacon (.recordScan a args),now⟩ (run.ledger n) ≠
        .error (.flacon .scanCountOverflow)) ∧
      ∀ a uidHash kind, process ⟨.flacon (.attachSeal a uidHash kind),now⟩
        (run.ledger n) ≠ .error (.flacon .sealCountOverflow) := by
  refine ⟨?_,?_,?_,?_⟩
  · intro n sealKey counter scan written
    refine ⟨?_,scan_written_once run n _ scan written,?_⟩
    · obtain ⟨sameSeal,sameCounter⟩ := Pubkey.scan.inj ((linked_at n).scanHere _ _ written)
      obtain ⟨found,there,below⟩ := (linked_at n).ofSeal _ _ written
      exact ⟨found,sameSeal ▸ there,sameCounter ▸ below⟩
    · intro m later
      obtain ⟨kept,still,rfl⟩ := (grows_at later).scans _ _ written
      exact still
  · intro n sealKey found there
    refine ⟨latest_counter (linked_at n) there,?_⟩
    intro m later
    obtain ⟨kept,still,-,-,-,rising⟩ := (grows_at later).seals _ _ there
    exact ⟨kept,still,rising⟩
  · intro n key passport known
    have tallied : Tallied (flaconAt run n) := tallied_at n
    exact ⟨tallied.scanCount key passport known,scan_count_le (linked_at n) tallied known,
      tallied.sealCount key passport known,tallied.sealLimit key passport known⟩
  · intro n now
    exact ⟨fun a args => record_scan_never_overflows (linked_at n) (tallied_at n),
      fun a uidHash kind => attach_seal_never_overflows⟩

end Law

end FlaconVault.Flacon
