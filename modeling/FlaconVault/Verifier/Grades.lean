import FlaconVault.Verifier.Database
import FlaconVault.Flacon.Rules
namespace FlaconVault.Verifier

-- The codes of the shared enumerations, as the database stores them.
def Tamper.OPENED_NOW : ℕ := 1
def Tamper.OPENED_BEFORE : ℕ := 2
def Tamper.UNKNOWN : ℕ := 3
def Indicator.INTACT : ℕ := 0
def Indicator.TRIGGERED : ℕ := 1
def Indicator.UNREADABLE : ℕ := 2
def Indicator.MISSING : ℕ := 3
def Tier.CERTIFIED : ℕ := 3
def Role.VAULT : ℕ := 3
def Role.PARTNER : ℕ := 4
def Grade.A : ℕ := 0
def Grade.B : ℕ := 1
def Grade.C : ℕ := 2
def Grade.D : ℕ := 3
def Grade.VOID : ℕ := 4

def computeGrade (verdict : Verdict) (tamper heat hum fill : ℕ) (sealDead : Bool) : ℕ × Bool :=
  let review := heat == Indicator.UNREADABLE || hum == Indicator.UNREADABLE
  if verdict ≠ .valid ∨ (tamper = Tamper.OPENED_NOW ∨ tamper = Tamper.OPENED_BEFORE) ∨ sealDead then (Grade.VOID,review)
  else if heat = Indicator.TRIGGERED ∨ hum = Indicator.TRIGGERED then (Grade.C,review)
  else if fill ≥ 90 then (Grade.A,review)
  else if fill ≥ 60 then (Grade.B,review)
  else (Grade.D,review)

def passportAfterScan (oldGrade : ℕ) (oldVoid : Bool) (scanGrade : ℕ) (latest : Bool) : ℕ × Bool :=
  if oldVoid ∨ oldGrade = Grade.VOID ∨ scanGrade = Grade.VOID then (Grade.VOID,true)
  else if oldGrade = Grade.C ∨ scanGrade = Grade.C then (Grade.C,false)
  else (if latest then scanGrade else oldGrade,false)

def passportFromChain (dbGrade : ℕ) (dbVoid : Bool) (chainGrade : ℕ) (chainVoid : Bool) (chainCurrent : Bool) : ℕ × Bool :=
  if dbVoid ∨ chainVoid ∨ dbGrade = Grade.VOID ∨ chainGrade = Grade.VOID then (Grade.VOID,true)
  else if dbGrade = Grade.C ∨ chainGrade = Grade.C then (Grade.C,false)
  else (if chainCurrent then chainGrade else dbGrade,false)

-- The code of a grade of the program.
def gradeCode : FlaconVault.Grade → ℕ
  | .a => Grade.A
  | .b => Grade.B
  | .c => Grade.C
  | .d => Grade.D
  | .void => Grade.VOID

theorem gradeCode_void {grade : FlaconVault.Grade} : gradeCode grade = Grade.VOID ↔ grade = .void := by
  cases grade <;> decide

theorem gradeCode_c {grade : FlaconVault.Grade} : gradeCode grade = Grade.C ↔ grade = .c := by
  cases grade <;> decide

theorem gradeCode_fill (fill : U8) : gradeCode (Flacon.gradeFromFill fill) =
    if fill.val ≥ 90 then Grade.A else if fill.val ≥ 60 then Grade.B else Grade.D := by
  have high : fill ≥ Flacon.GRADE_FILL_A_MIN ↔ fill.val ≥ 90 := Iff.rfl
  have middle : fill ≥ Flacon.GRADE_FILL_B_MIN ↔ fill.val ≥ 60 := Iff.rfl
  unfold Flacon.gradeFromFill
  simp only [high,middle]
  split
  · rfl
  · split <;> rfl

theorem fill_ordinary (fill : U8) :
    gradeCode (Flacon.gradeFromFill fill) ≠ Grade.VOID ∧ gradeCode (Flacon.gradeFromFill fill) ≠ Grade.C := by
  rw [gradeCode_fill]
  split
  · decide
  · split <;> decide

-- The grade the server signs for a scan whose tamper code is UNKNOWN.
theorem computeGrade_valid (heat hum fill : U8) :
    (computeGrade .valid Tamper.UNKNOWN heat.val hum.val fill.val false).1 =
      if Flacon.isTriggered heat hum then Grade.C else gradeCode (Flacon.gradeFromFill fill) := by
  have triggered : Flacon.isTriggered heat hum = true ↔ heat.val = Indicator.TRIGGERED ∨ hum.val = Indicator.TRIGGERED := by
    simp only [Flacon.isTriggered,Bool.or_eq_true,beq_iff_eq,Fin.ext_iff]
    rfl
  have sound : ¬(Verdict.valid ≠ .valid ∨ (Tamper.UNKNOWN = Tamper.OPENED_NOW ∨ Tamper.UNKNOWN = Tamper.OPENED_BEFORE) ∨
      false = true) := by decide
  unfold computeGrade
  rw [if_neg sound,gradeCode_fill]
  by_cases warm : heat.val = Indicator.TRIGGERED ∨ hum.val = Indicator.TRIGGERED
  · rw [if_pos warm,if_pos (triggered.mpr warm)]
  · have cold : Flacon.isTriggered heat hum = false := by
      simpa using fun told => warm (triggered.mp told)
    rw [if_neg warm,cold,if_neg Bool.false_ne_true]
    split
    · rfl
    · split <;> rfl

-- One scan moves the passport on both sides alike: the program from the raw readings, the server from the grade it
-- signed, when the scan is the newest one.
theorem passportAfterScan_mirrors (grade : FlaconVault.Grade) (void : Bool) (heat hum fill : U8) :
    let program := Flacon.passportAfterScan grade void Flacon.TAMPER_UNKNOWN heat hum fill
    passportAfterScan (gradeCode grade) void (computeGrade .valid Tamper.UNKNOWN heat.val hum.val fill.val false).1 true =
      (gradeCode program.1,program.2) := by
  have closed : Flacon.isOpened Flacon.TAMPER_UNKNOWN = false := by decide
  have ordinary := fill_ordinary fill
  simp only [computeGrade_valid,passportAfterScan,Flacon.passportAfterScan,gradeCode_void,gradeCode_c,closed,Bool.or_false,
    Bool.or_eq_true,beq_iff_eq]
  have voided : gradeCode .void = Grade.VOID := rfl
  have lowered : gradeCode .c = Grade.C := rfl
  have different : Grade.C ≠ Grade.VOID := by decide
  cases void with
  | true => simp [voided]
  | false =>
    cases triggered : Flacon.isTriggered heat hum with
    | true => cases grade <;> simp [voided,lowered,different]
    | false => cases grade <;> simp [voided,lowered,ordinary.1,ordinary.2]

end FlaconVault.Verifier
