import FlaconVault.Verifier.Messages
namespace FlaconVault.Web
open Guards Bytes
open Verifier.Proof (MessageFields Fits parts sizes byteOf fieldsAt sent)

-- The scan message as the web client builds and reads it. Its numbers are integers here: another number is refused, as a
-- timestamp it is truncated first; a timestamp may be a bigint.
inductive MessageError where
  | hashLengths
  | fillRange
  | u8Range (found : Int)
  | u32Range (found : Int)
  | messageLength (found : ℕ)
  | badPrefix
  deriving DecidableEq

-- The text "FVSCAN1" in UTF-8; another text has other bytes.
def MSG_PREFIX : List Byte := [0x46,0x56,0x53,0x43,0x41,0x4e,0x31]
def MSG_LEN : ℕ := 152

def concatBytes (parts : List (List Byte)) : List Byte :=
  let n := (parts.map List.length).sum
  let put (state : List Byte × ℕ) (part : List Byte) : List Byte × ℕ := (overwrite state.1 state.2 part,state.2+part.length)
  (parts.foldl put (List.replicate n 0,0)).1

def u8 (n : Int) : Except MessageError (List Byte) := do
  require (0 ≤ n ∧ n ≤ 255) (.u8Range n)
  pure [byteOf n]

def u32le (n : Int) : Except MessageError (List Byte) := do
  require (0 ≤ n ∧ n ≤ 0xffffffff) (.u32Range n)
  pure (littleEndian 4 n.toNat)

-- setBigInt64 keeps the low 64 bits of any integer.
def i64le (n : Int) : List Byte := signedLittleEndian 8 n

def buildScanMessage (f : MessageFields) : Except MessageError (List Byte) := do
  require (f.serialHash.length = 32 ∧ f.uidHash.length = 32 ∧ f.mediaHash.length = 32 ∧ f.nonce.length = 32) .hashLengths
  require (¬(f.fill < 0 ∨ f.fill > 100)) .fillRange
  let counter ← u32le f.counter
  let tamper ← u8 f.tamper
  let uv ← u8 f.uv
  let hum ← u8 f.hum
  let heat ← u8 f.heat
  let fill ← u8 f.fill
  let msg := concatBytes [MSG_PREFIX,f.serialHash,f.uidHash,counter,tamper,uv,hum,heat,fill,f.mediaHash,f.nonce,i64le f.ts]
  require (msg.length = MSG_LEN) (.messageLength msg.length)
  pure msg

def parseScanMessage (msg : List Byte) : Except MessageError MessageFields := do
  require (msg.length = MSG_LEN) (.messageLength msg.length)
  require (cut msg 0 7 = MSG_PREFIX) .badPrefix
  let o := 7
  let serialHash := cut msg o 32
  let o := o+32
  let uidHash := cut msg o 32
  let o := o+32
  let counter := fromLittleEndian (cut msg o 4)
  let o := o+4
  let tamper := fromLittleEndian (cut msg o 1)
  let uv := fromLittleEndian (cut msg (o+1) 1)
  let hum := fromLittleEndian (cut msg (o+2) 1)
  let heat := fromLittleEndian (cut msg (o+3) 1)
  let fill := fromLittleEndian (cut msg (o+4) 1)
  let o := o+5
  let mediaHash := cut msg o 32
  let o := o+32
  let nonce := cut msg o 32
  let o := o+32
  let ts := fromSignedLittleEndian (cut msg o 8)
  pure ⟨serialHash,uidHash,counter,tamper,uv,hum,heat,fill,mediaHash,nonce,ts⟩

-- Setting the parts at their offsets in a zeroed array puts them one after the other.
theorem concatBytes_flatten (parts : List (List Byte)) : concatBytes parts = parts.flatten := by
  let put (state : List Byte × ℕ) (part : List Byte) : List Byte × ℕ := (overwrite state.1 state.2 part,state.2+part.length)
  have general : ∀ (parts : List (List Byte)) (written : List Byte),
      (parts.foldl put (written ++ List.replicate (parts.map List.length).sum 0,written.length)).1 = written ++ parts.flatten := by
    intro parts
    induction parts with
    | nil =>
      intro written
      simp
    | cons part rest ih =>
      intro written
      have next : put (written ++ List.replicate ((part :: rest).map List.length).sum 0,written.length) part =
          ((written ++ part) ++ List.replicate (rest.map List.length).sum 0,(written ++ part).length) := by
        simp only [put,overwrite_next rfl,List.map_cons,List.sum_cons,Nat.add_sub_cancel_left,List.length_append]
      rw [List.foldl_cons,next,ih]
      simp
  exact general parts []

theorem u8_ok {n : Int} {bytes : List Byte} : u8 n = .ok bytes ↔ (0 ≤ n ∧ n ≤ 255) ∧ bytes = [byteOf n] := by
  unfold u8
  simp only [bind_ok,require_ok,pure_ok]
  constructor
  · intro written
    obtain ⟨_,range,same⟩ := written
    exact ⟨range,same.symm⟩
  · intro written
    obtain ⟨range,same⟩ := written
    exact ⟨(),range,same.symm⟩

theorem u32le_ok {n : Int} {bytes : List Byte} : u32le n = .ok bytes ↔ (0 ≤ n ∧ n < 2^32) ∧ bytes = littleEndian 4 n.toNat := by
  unfold u32le
  simp only [bind_ok,require_ok,pure_ok]
  constructor
  · intro written
    obtain ⟨_,range,same⟩ := written
    exact ⟨by omega,same.symm⟩
  · intro written
    obtain ⟨range,same⟩ := written
    exact ⟨(),by omega,same.symm⟩

theorem buildScanMessage_fits {f : MessageFields} (fits : Fits f) (fill : f.fill ≤ 100) :
    buildScanMessage f = .ok (parts f).flatten := by
  have whole : concatBytes (parts f) = (parts f).flatten := concatBytes_flatten _
  unfold buildScanMessage
  simp only [bind_ok,require_ok,pure_ok]
  refine ⟨(),⟨fits.serialHash,fits.uidHash,fits.mediaHash,fits.nonce⟩,(),?_,_,u32le_ok.mpr ⟨fits.counter,rfl⟩,
    _,u8_ok.mpr ⟨fits.tamper,rfl⟩,_,u8_ok.mpr ⟨fits.uv,rfl⟩,_,u8_ok.mpr ⟨fits.hum,rfl⟩,_,u8_ok.mpr ⟨fits.heat,rfl⟩,
    _,u8_ok.mpr ⟨fits.fill,rfl⟩,(),?_,whole⟩
  · have := fits.fill
    omega
  · have length := Verifier.Proof.parts_length fits
    rw [← whole] at length
    exact length

theorem parseScanMessage_ok {msg : List Byte} {f : MessageFields} :
    parseScanMessage msg = .ok f ↔ msg.length = MSG_LEN ∧ msg.take 7 = MSG_PREFIX ∧ f = fieldsAt msg := by
  unfold parseScanMessage
  simp only [bind_ok,require_ok,pure_ok]
  constructor
  · intro parsed
    obtain ⟨_,length,_,start,same⟩ := parsed
    exact ⟨length,start,same.symm⟩
  · intro parsed
    obtain ⟨length,start,same⟩ := parsed
    exact ⟨(),length,(),start,same.symm⟩

-- One message in the three languages.
structure Agree (f : Flacon.ScanMessageFields) (msg : List Byte) : Prop where
  program : Flacon.buildScanMessage f = msg
  verifier : Verifier.Proof.buildMessage (sent f) = .ok msg
  client : buildScanMessage (sent f) = .ok msg
  verifierReads : Verifier.Proof.parseMessage msg = .ok (sent f)
  clientReads : parseScanMessage msg = .ok (sent f)
  length : msg.length = 152

theorem program_agrees {f : Flacon.ScanMessageFields} (fill : f.fill ≤ Flacon.MAX_FILL) : Agree f (Flacon.buildScanMessage f) := by
  have fits := Verifier.Proof.sent_fits f
  have small : (sent f).fill ≤ 100 := by
    have below : f.fill.val ≤ 100 := fill
    simp only [sent]
    omega
  have same := Verifier.Proof.program_message f
  have length : (Flacon.buildScanMessage f).length = 152 := Flacon.buildScanMessage_length f
  have start : (Flacon.buildScanMessage f).take 7 = MSG_PREFIX := by
    rw [same]
    rfl
  have back : sent f = fieldsAt (Flacon.buildScanMessage f) := by
    rw [same]
    exact (Verifier.Proof.fieldsAt_parts fits).symm
  exact ⟨rfl,Verifier.Proof.buildMessage_ok.mpr ⟨fits,small,same⟩,same ▸ buildScanMessage_fits fits small,
    Verifier.Proof.parseMessage_ok.mpr ⟨length,start,back⟩,parseScanMessage_ok.mpr ⟨length,start,back⟩,length⟩

theorem read_agrees {msg : List Byte} (length : msg.length = 152) (start : msg.take 7 = MSG_PREFIX)
    (fill : msg.getD Flacon.OFF_FILL 0 ≤ Flacon.MAX_FILL) : ∃ f, Agree f msg := by
  obtain ⟨f,fields⟩ := Verifier.Proof.fitting_sent (Verifier.Proof.fieldsAt_fits length)
  have back : Flacon.buildScanMessage f = msg := by
    rw [Verifier.Proof.program_message,fields]
    exact Verifier.Proof.parts_fieldsAt length start
  have small : f.fill ≤ Flacon.MAX_FILL := by
    have byte : f.fill = msg.getD Flacon.OFF_FILL 0 := by
      have told : ((f.fill.val : ℕ) : Int) = fromLittleEndian (cut msg 79 1) := congrArg MessageFields.fill fields
      have one : cut msg 79 1 = [msg.getD 79 0] := by
        have inside : 79 < msg.length := by omega
        rw [cut,List.drop_eq_getElem_cons inside,List.take_succ_cons,List.take_zero,List.getD_eq_getElem msg 0 inside]
      rw [one,fromLittleEndian_byte] at told
      exact Fin.ext (Int.ofNat_inj.mp told)
    exact byte ▸ fill
  exact ⟨f,back ▸ program_agrees small⟩

theorem program_message_inj {f g : Flacon.ScanMessageFields} (same : Flacon.buildScanMessage f = Flacon.buildScanMessage g) :
    f = g := by
  apply Verifier.Proof.sent_inj
  rw [Verifier.Proof.program_message,Verifier.Proof.program_message] at same
  rw [← Verifier.Proof.fieldsAt_parts (Verifier.Proof.sent_fits f),same,
    Verifier.Proof.fieldsAt_parts (Verifier.Proof.sent_fits g)]

-- Every encoder writes the same bytes and every parser reads them back; every readable message is somebody's encoding;
-- and no two field tuples share a message.
theorem message_codecs_agree :
    (∀ f : Flacon.ScanMessageFields, f.fill ≤ Flacon.MAX_FILL → Agree f (Flacon.buildScanMessage f)) ∧
    (∀ msg : List Byte, msg.length = 152 → msg.take 7 = MSG_PREFIX → msg.getD Flacon.OFF_FILL 0 ≤ Flacon.MAX_FILL →
      ∃ f, Agree f msg) ∧
    ∀ f g : Flacon.ScanMessageFields, Flacon.buildScanMessage f = Flacon.buildScanMessage g → f = g :=
  ⟨fun _ => program_agrees,fun _ => read_agrees,fun _ _ => program_message_inj⟩

end FlaconVault.Web
