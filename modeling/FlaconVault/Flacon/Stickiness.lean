import FlaconVault.Flacon.Counting
namespace FlaconVault.Flacon
open Guards

-- The scan an instruction records for a passport, if it is accepted.
def acceptedScan (instruction : Instruction) (s : Ledger) (key : Pubkey) : Option RecordScanArgs :=
  match instruction.call,process instruction s with
  | .flacon (.recordScan a args),.ok _ => if a.passport = key then some args else none
  | _,_ => none

-- The last accepted scan of a passport before instruction number `n`, whatever seal it was made on.
def lastScan (run : Run) (key : Pubkey) : ℕ → Option RecordScanArgs
  | 0 => none
  | n+1 => acceptedScan (run.schedule n) (run.ledger n) key <|> lastScan run key n

-- What an accepted instruction does to one passport address.
inductive PassportStep (s after : FlaconAccounts) (key : Pubkey) : Option RecordScanArgs → Prop where
  | same (kept : after.passports key = s.passports key) : PassportStep s after key none
  | minted (passport : Passport) (fresh : s.passports key = none) (written : after.passports key = some passport)
      (best : passport.grade = .a) (valid : passport.void = false) : PassportStep s after key none
  | attached (passport : Passport) (sealCount : U8) (known : s.passports key = some passport)
      (written : after.passports key = some {passport with sealCount := sealCount}) : PassportStep s after key none
  | died (passport : Passport) (known : s.passports key = some passport)
      (written : after.passports key = some {passport with void := true, grade := .void}) : PassportStep s after key none
  | scanned (passport : Passport) (args : RecordScanArgs) (scanCount : U32) (known : s.passports key = some passport)
      (valid : ¬passport.isVoided)
      (written : after.passports key = some {passport with
        scanCount := scanCount
        grade := (passportAfterScan passport.grade passport.void args.tamper args.heat args.hum args.fill).1
        void := (passportAfterScan passport.grade passport.void args.tamper args.heat args.hum args.fill).2}) :
      PassportStep s after key (some args)

theorem OnlyRegistry.passport_step (only : OnlyRegistry s after) (key : Pubkey) : PassportStep s.flacon after.flacon key none := by
  obtain ⟨registry,rfl⟩ := only
  exact .same rfl

theorem flacon_passport_step (accepted : processFlacon s now call = .ok after) (key : Pubkey) :
    PassportStep s.flacon after.flacon key (acceptedScan ⟨.flacon call,now⟩ s key) := by
  have processed : process ⟨.flacon call,now⟩ s = .ok after := accepted
  unfold acceptedScan
  rw [processed]
  cases call with
  | initRegistry => exact (init_registry_only _ accepted).passport_step key
  | addServerKey => exact (add_server_key_only _ accepted).passport_step key
  | revokeServerKey => exact (revoke_server_key_only _ accepted).passport_step key
  | addPartner => exact (add_partner_only _ accepted).passport_step key
  | removePartner => exact (remove_partner_only _ accepted).passport_step key
  | addSite => exact (add_site_only _ accepted).passport_step key
  | transferAuthority => exact (transfer_authority_only _ accepted).passport_step key
  | mintPassport a serialHash bindingHash asset =>
    obtain ⟨registry,-,-,-,-,fresh,rfl⟩ := mint_parts accepted
    by_cases here : key = .passport serialHash
    · subst here
      exact .minted _ fresh (Cells.put_self _ _ _) rfl rfl
    · exact .same (Cells.put_other _ _ here)
  | attachSeal a uidHash kind =>
    obtain ⟨registry,passport,count,-,-,known,-,-,-,-,-,-,-,rfl⟩ := attach_parts accepted
    by_cases here : key = a.passport
    · subst here
      exact .attached passport count known (Cells.put_self _ _ _)
    · exact .same (Cells.put_other _ _ here)
  | markSealDead a =>
    obtain ⟨registry,passport,found,-,-,known,-,-,-,-,-,-,rfl⟩ := mark_dead_parts accepted
    by_cases here : key = a.passport
    · subst here
      exact .died passport known (Cells.put_self _ _ _)
    · exact .same (Cells.put_other _ _ here)
  | recordScan a args =>
    obtain ⟨registry,passport,found,count,scan,-,rfl⟩ := record_parts.mp accepted
    by_cases here : a.passport = key
    · subst here
      simp only [if_true]
      exact .scanned passport args count scan.passportFound scan.scannable.valid (Cells.put_self _ _ _)
    · simp only [here,if_false]
      exact .same (Cells.put_other _ _ (Ne.symm here))

theorem passport_step (accepted : process instruction s = .ok after) (key : Pubkey) :
    PassportStep s.flacon after.flacon key (acceptedScan instruction s key) := by
  obtain ⟨call,now⟩ := instruction
  cases call with
  | flacon call => exact flacon_passport_step accepted key
  | escrow call =>
    rw [(Escrow.process_change accepted).flacon_same]
    exact .same rfl
  | token call =>
    simp only [process,processToken,bind_ok,pure_ok] at accepted
    obtain ⟨tokens,-,rfl⟩ := accepted
    exact .same rfl
  | core call =>
    simp only [process,processCore,bind_ok,pure_ok] at accepted
    obtain ⟨assets,-,rfl⟩ := accepted
    exact .same rfl

theorem passport_at (run : Run) (n : ℕ) (key : Pubkey) :
    PassportStep (run.ledger n).flacon (run.ledger (n+1)).flacon key (acceptedScan (run.schedule n) (run.ledger n) key) := by
  rw [Run.ledger_succ]
  cases outcome : process (run.schedule n) (run.ledger n) with
  | error refusal =>
    have unchanged : execute (run.schedule n) (run.ledger n) = run.ledger n := by simp [execute,committed,outcome]
    have unscanned : acceptedScan (run.schedule n) (run.ledger n) key = none := by
      unfold acceptedScan
      rw [outcome]
      split
      · rename_i impossible
        cases impossible
      · rfl
    rw [unchanged,unscanned]
    exact .same rfl
  | ok after =>
    rw [execute_of_accepted outcome]
    exact passport_step outcome key

-- The grade of a passport in terms of its scans.
def scanGrade : Option RecordScanArgs → Grade
  | none => .a
  | some args => gradeFromFill args.fill

-- The two redundant fields agree, and a grade other than C and VOID is that of the last scan.
structure Graded (passport : Passport) (scan : Option RecordScanArgs) : Prop where
  flagged : passport.void = true ↔ passport.grade = .void
  followed : passport.grade ≠ .c → passport.grade ≠ .void → passport.grade = scanGrade scan

theorem gradeFromFill_ordinary (fill : U8) : gradeFromFill fill ≠ .c ∧ gradeFromFill fill ≠ .void := by
  unfold gradeFromFill
  split
  · decide
  · split <;> decide

theorem scanned_graded {passport : Passport} {args : RecordScanArgs} (scanCount : U32) (valid : ¬passport.isVoided) :
    Graded {passport with
      scanCount := scanCount
      grade := (passportAfterScan passport.grade passport.void args.tamper args.heat args.hum args.fill).1
      void := (passportAfterScan passport.grade passport.void args.tamper args.heat args.hum args.fill).2} (some args) := by
  simp only [Passport.isVoided,Bool.or_eq_true,not_or,Bool.not_eq_true] at valid
  unfold passportAfterScan
  simp only [valid.1,valid.2,Bool.false_or]
  split
  · exact ⟨by simp,by simp⟩
  · split
    · exact ⟨by simp,by simp⟩
    · refine ⟨?_,fun _ _ => rfl⟩
      simpa using (gradeFromFill_ordinary args.fill).2

theorem graded_at (run : Run) (key : Pubkey) (n : ℕ) :
    ((run.ledger n).flacon.passports key = none → lastScan run key n = none) ∧
      ∀ passport, (run.ledger n).flacon.passports key = some passport → Graded passport (lastScan run key n) := by
  induction n with
  | zero => exact ⟨fun _ => rfl,fun _ found => by cases found⟩
  | succ n ih =>
    have step := passport_at run n key
    unfold lastScan
    generalize acceptedScan (run.schedule n) (run.ledger n) key = scan at step ⊢
    cases step with
    | same kept =>
      rw [kept]
      exact ih
    | minted passport fresh written best valid =>
      rw [written]
      refine ⟨nofun,?_⟩
      intro found here
      cases here
      rw [ih.1 fresh]
      exact ⟨by simp [best,valid],fun _ _ => best⟩
    | attached passport sealCount known written =>
      rw [written]
      refine ⟨nofun,?_⟩
      intro found here
      cases here
      obtain ⟨flagged,followed⟩ := ih.2 passport known
      exact ⟨flagged,followed⟩
    | died passport known written =>
      rw [written]
      refine ⟨nofun,?_⟩
      intro found here
      cases here
      exact ⟨by simp,fun _ absurd_ => absurd rfl absurd_⟩
    | scanned passport args scanCount known valid written =>
      rw [written]
      refine ⟨nofun,?_⟩
      intro found here
      cases here
      exact scanned_graded scanCount valid

-- How the grade of a passport may change.
def GradeLater (old new : Passport) : Prop :=
  (old.void = true → new.void = true) ∧ (old.grade = .void → new.grade = .void) ∧
    (old.grade = .c → new.grade = .c ∨ new.grade = .void)

theorem GradeLater.refl (passport : Passport) : GradeLater passport passport := ⟨id,id,.inl⟩

theorem GradeLater.trans (left : GradeLater a b) (right : GradeLater b c) : GradeLater a c := by
  obtain ⟨void,graded,lowered⟩ := left
  obtain ⟨void',graded',lowered'⟩ := right
  refine ⟨void' ∘ void,graded' ∘ graded,?_⟩
  intro old
  rcases lowered old with still | worse
  · exact lowered' still
  · exact .inr (graded' worse)

theorem PassportStep.later (step : PassportStep s after key scan) (known : s.passports key = some old) :
    ∃ new, after.passports key = some new ∧ GradeLater old new := by
  cases step with
  | same kept => exact ⟨old,kept.trans known,.refl old⟩
  | minted _ fresh =>
    rw [known] at fresh
    cases fresh
  | attached passport sealCount found written =>
    cases Option.some.inj (known.symm.trans found)
    exact ⟨_,written,id,id,.inl⟩
  | died passport found written =>
    cases Option.some.inj (known.symm.trans found)
    exact ⟨_,written,fun _ => rfl,fun _ => rfl,fun _ => .inr rfl⟩
  | scanned passport args scanCount found valid written =>
    cases Option.some.inj (known.symm.trans found)
    simp only [Passport.isVoided,Bool.or_eq_true,not_or,Bool.not_eq_true,beq_eq_false_iff_ne] at valid
    refine ⟨_,written,fun void => absurd (valid.1.symm.trans void) Bool.false_ne_true,fun graded => absurd graded valid.2,?_⟩
    intro lowered
    dsimp only
    unfold passportAfterScan
    split
    · exact .inr rfl
    · simp [lowered]

theorem grade_later_at (run : Run) (key : Pubkey) {i j : ℕ} (ordered : i ≤ j) {old : Passport}
    (known : (run.ledger i).flacon.passports key = some old) :
    ∃ new, (run.ledger j).flacon.passports key = some new ∧ GradeLater old new := by
  induction j, ordered using Nat.le_induction with
  | base => exact ⟨old,known,.refl old⟩
  | succ j _ ih =>
    obtain ⟨middle,there,later⟩ := ih
    obtain ⟨new,present,beyond⟩ := (passport_at run j key).later there
    exact ⟨new,present,later.trans beyond⟩

-- A dead seal has voided its passport.
def DeadVoids (s : FlaconAccounts) : Prop :=
  ∀ key found, s.seals key = some found → found.dead = true → ∃ passport, s.passports found.passport = some passport ∧ passport.void = true

def VoidLater (old new : Passport) : Prop := old.void = true → new.void = true

theorem DeadVoids.kept (voids : DeadVoids s) (later : s.passports.Extends VoidLater after.passports)
    (same : ∀ key found, after.seals key = some found → found.dead = true →
      ∃ old, s.seals key = some old ∧ old.dead = true ∧ old.passport = found.passport) : DeadVoids after := by
  intro key found there dead
  obtain ⟨old,before,wasDead,ofPassport⟩ := same key found there dead
  obtain ⟨passport,known,void⟩ := voids key old before wasDead
  obtain ⟨kept,still,carried⟩ := later _ passport known
  exact ⟨kept,ofPassport ▸ still,carried void⟩

theorem Change.dead_voids (voids : DeadVoids s) (change : Change s after) : DeadVoids after := by
  have reflexive : ∀ passport, VoidLater passport passport := fun _ => id
  have unchanged : ∀ key found, s.seals key = some found → found.dead = true →
      ∃ old, s.seals key = some old ∧ old.dead = true ∧ old.passport = found.passport :=
    fun key found there dead => ⟨found,there,dead,rfl⟩
  cases change with
  | registry => exact voids.kept (.refl reflexive _) unchanged
  | minted serialHash bindingHash asset issuer now fresh =>
    exact voids.kept (.put_fresh reflexive fresh) unchanged
  | attached passport uidHash kind sealCount now known fresh kinds valid room adds =>
    refine voids.kept (.put_update reflexive known fun void => void) ?_
    intro key found there dead
    rcases Cells.put_some.mp there with ⟨-,rfl⟩ | ⟨-,old⟩
    · cases dead
    · exact unchanged key found old dead
  | died passport found known there attached alive =>
    intro key other written dead
    rcases Cells.put_some.mp written with ⟨-,rfl⟩ | ⟨-,old⟩
    · refine ⟨{passport with void := true, grade := .void},?_,rfl⟩
      simp only [attached]
      exact Cells.put_self _ _ _
    · obtain ⟨host,hosted,void⟩ := voids key other old dead
      by_cases here : other.passport = .passport passport.serialHash
      · exact ⟨_,by rw [here]; exact Cells.put_self _ _ _,rfl⟩
      · exact ⟨host,by rw [Cells.put_other _ _ here]; exact hosted,void⟩
  | scanned passport found attester args scanCount known there scannable adds =>
    refine voids.kept (.put_update reflexive known ?_) ?_
    · intro void
      exact absurd (by simp [Passport.isVoided,void]) scannable.valid
    · intro key other written dead
      rcases Cells.put_some.mp written with ⟨-,rfl⟩ | ⟨-,old⟩
      · exact absurd dead scannable.alive
      · exact unchanged key other old dead

theorem dead_voids_at (run : Run) (n : ℕ) : DeadVoids (run.ledger n).flacon := by
  induction n with
  | zero =>
    intro key found there
    cases there
  | succ n ih =>
    rcases flacon_at n with same | change
    · exact same ▸ ih
    · exact change.dead_voids ih

-- Nothing more is recorded for a void passport, and it is not sold.
theorem void_refuses {s : Ledger} {key : Pubkey} {passport : Passport} (known : s.flacon.passports key = some passport)
    (void : passport.void = true ∨ passport.grade = .void) (now : I64) (after : Ledger) :
    (∀ a args, a.passport = key → process ⟨.flacon (.recordScan a args),now⟩ s ≠ .ok after) ∧
    (∀ a uidHash kind, a.passport = key → process ⟨.flacon (.attachSeal a uidHash kind),now⟩ s ≠ .ok after) ∧
    (∀ a price, a.passport = key → process ⟨.escrow (.list a price),now⟩ s ≠ .ok after) ∧
    ∀ a price order, s.escrow.orders a.order = some order → order.passport = key →
      process ⟨.escrow (.reserve a price),now⟩ s ≠ .ok after := by
  have voided : passport.isVoided := by
    simpa [Passport.isVoided] using void
  have sellable : ¬(¬passport.void ∧ passport.grade ≠ .void) := by
    intro ⟨unvoided,ordinary⟩
    rcases void with flag | grade
    · exact unvoided flag
    · exact ordinary grade
  refine ⟨?_,?_,?_,?_⟩
  · intro a args here accepted
    obtain ⟨_,found,_,_,scan,-,-⟩ := record_parts.mp accepted
    have same := scan.passportFound
    rw [here,known,Option.some.injEq] at same
    exact (same ▸ scan.scannable.valid) voided
  · intro a uidHash kind here accepted
    obtain ⟨_,found,_,-,-,same,-,-,-,-,valid,-⟩ := attach_parts accepted
    rw [here,known,Option.some.injEq] at same
    exact (same ▸ valid) voided
  · intro a price here accepted
    have processed : processEscrow s now (.list a price) = .ok after := accepted
    cases Escrow.process_change processed with
    | list _ _ config found registry configFound same registryFound signed at_ fresh positive valid entitled =>
      rw [here,known,Option.some.injEq] at same
      exact sellable (same ▸ valid)
  · intro a price order there here accepted
    have processed : processEscrow s now (.reserve a price) = .ok after := accepted
    cases Escrow.process_change processed with
    | reserve _ _ config order' found registry buyerToken created tokens configFound at_ signed buyerTokenFound ofMint ofBuyer same
        registryFound state apart agreed valid entitled vault funded =>
      have same_order : order = order' := Option.some.inj (there.symm.trans at_.found)
      rw [← same_order,here,known,Option.some.injEq] at same
      exact sellable (same ▸ valid)

-- Grade and void flag over every run.
theorem grade_and_void_stick (run : Run) :
    (∀ n key passport, (run.ledger n).flacon.passports key = some passport → (passport.void = true ↔ passport.grade = .void)) ∧
    (∀ n key found, (run.ledger n).flacon.seals key = some found → found.dead = true →
      ∃ passport, (run.ledger n).flacon.passports found.passport = some passport ∧ passport.void = true) ∧
    (∀ n key passport, (run.ledger n).flacon.passports key = some passport → passport.void = true ∨ passport.grade = .void →
      (∀ m, n ≤ m → ∃ later, (run.ledger m).flacon.passports key = some later ∧ later.void = true ∧ later.grade = .void) ∧
      ∀ m, n ≤ m → ∀ now after,
        (∀ a args, a.passport = key → process ⟨.flacon (.recordScan a args),now⟩ (run.ledger m) ≠ .ok after) ∧
        (∀ a uidHash kind, a.passport = key → process ⟨.flacon (.attachSeal a uidHash kind),now⟩ (run.ledger m) ≠ .ok after) ∧
        (∀ a price, a.passport = key → process ⟨.escrow (.list a price),now⟩ (run.ledger m) ≠ .ok after) ∧
        ∀ a price order, (run.ledger m).escrow.orders a.order = some order → order.passport = key →
          process ⟨.escrow (.reserve a price),now⟩ (run.ledger m) ≠ .ok after) ∧
    (∀ n key passport, (run.ledger n).flacon.passports key = some passport → passport.grade = .c →
      ∀ m, n ≤ m → ∃ later, (run.ledger m).flacon.passports key = some later ∧ (later.grade = .c ∨ later.grade = .void)) ∧
    ∀ n key passport, (run.ledger n).flacon.passports key = some passport →
      (∀ m ≤ n, ∀ earlier, (run.ledger m).flacon.passports key = some earlier → earlier.grade ≠ .c ∧ earlier.grade ≠ .void) →
      passport.grade = scanGrade (lastScan run key n) := by
  have agree : ∀ n key passport, (run.ledger n).flacon.passports key = some passport →
      (passport.void = true ↔ passport.grade = .void) :=
    fun n key passport known => ((graded_at run key n).2 passport known).flagged
  have stays : ∀ n key passport, (run.ledger n).flacon.passports key = some passport → passport.void = true ∨ passport.grade = .void →
      ∀ m, n ≤ m → ∃ later, (run.ledger m).flacon.passports key = some later ∧ later.void = true ∧ later.grade = .void := by
    intro n key passport known void m ordered
    obtain ⟨later,there,carried,-,-⟩ := grade_later_at run key ordered known
    have flag : later.void = true := by
      rcases void with flag | grade
      · exact carried flag
      · exact carried ((agree n key passport known).mpr grade)
    exact ⟨later,there,flag,(agree m key later there).mp flag⟩
  refine ⟨agree,fun n => dead_voids_at run n,?_,?_,?_⟩
  · intro n key passport known void
    refine ⟨stays n key passport known void,?_⟩
    intro m ordered now after
    obtain ⟨later,there,flag,-⟩ := stays n key passport known void m ordered
    exact void_refuses there (.inl flag) now after
  · intro n key passport known lowered m ordered
    obtain ⟨later,there,-,-,kept⟩ := grade_later_at run key ordered known
    exact ⟨later,there,kept lowered⟩
  · intro n key passport known never
    obtain ⟨uncut,unvoided⟩ := never n (le_refl n) passport known
    exact ((graded_at run key n).2 passport known).followed uncut unvoided

end FlaconVault.Flacon
