import FlaconVault.Lib.Layouts
import FlaconVault.Flacon.Rules
import FlaconVault.Verifier.Scans
namespace FlaconVault.Verifier.Proof
open Guards Bytes

-- The scan message as the verifier's own code builds and reads it. The fields of a message as callers pass them: byte
-- strings of any length, integers of any size.
structure MessageFields where
  serialHash : List Byte
  uidHash : List Byte
  counter : Int
  tamper : Int
  uv : Int
  hum : Int
  heat : Int
  fill : Int
  mediaHash : List Byte
  nonce : List Byte
  ts : Int
  deriving DecidableEq

-- A message is refused with the field it fails on.
inductive MessageError where
  | not32Bytes (field : String)
  | fillRange
  | byteRange (field : String)
  | packRange (field : String)
  | assertion
  | messageLength (found : ℕ)
  | badPrefix
  deriving DecidableEq

def MSG_LEN : ℕ := 152

def byteOf (value : Int) : Byte := Fin.ofNat 256 value.toNat

def buildMessage (f : MessageFields) : Except MessageError (List Byte) := do
  require (f.serialHash.length = 32) (.not32Bytes "serial_hash")
  require (f.uidHash.length = 32) (.not32Bytes "uid_hash")
  require (f.mediaHash.length = 32) (.not32Bytes "media_hash")
  require (f.nonce.length = 32) (.not32Bytes "nonce")
  require (0 ≤ f.fill ∧ f.fill ≤ 100) .fillRange
  require (0 ≤ f.tamper ∧ f.tamper ≤ 255) (.byteRange "tamper")
  require (0 ≤ f.uv ∧ f.uv ≤ 255) (.byteRange "uv")
  require (0 ≤ f.hum ∧ f.hum ≤ 255) (.byteRange "hum")
  require (0 ≤ f.heat ∧ f.heat ≤ 255) (.byteRange "heat")
  require (0 ≤ f.counter ∧ f.counter < 2^32) (.packRange "counter")
  require (-2^63 ≤ f.ts ∧ f.ts < 2^63) (.packRange "ts")
  let msg := MSG_PREFIX ++ f.serialHash ++ f.uidHash ++ littleEndian 4 f.counter.toNat ++
    [byteOf f.tamper,byteOf f.uv,byteOf f.hum,byteOf f.heat,byteOf f.fill] ++ f.mediaHash ++ f.nonce ++ signedLittleEndian 8 f.ts
  require (msg.length = MSG_LEN) .assertion
  pure msg

def parseMessage (msg : List Byte) : Except MessageError MessageFields := do
  require (msg.length = MSG_LEN) (.messageLength msg.length)
  require (msg.take 7 = MSG_PREFIX) .badPrefix
  let o := 7
  let serialHash := cut msg o 32
  let o := o+32
  let uidHash := cut msg o 32
  let o := o+32
  let counter := fromLittleEndian (cut msg o 4)
  let o := o+4
  let byte (index : ℕ) := fromLittleEndian (cut msg (o+index) 1)
  let (tamper,uv,hum,heat,fill) := (byte 0,byte 1,byte 2,byte 3,byte 4)
  let o := o+5
  let mediaHash := cut msg o 32
  let o := o+32
  let nonce := cut msg o 32
  let o := o+32
  let ts := fromSignedLittleEndian (cut msg o 8)
  pure ⟨serialHash,uidHash,counter,tamper,uv,hum,heat,fill,mediaHash,nonce,ts⟩

-- What both directions share: the layout of a message, part by part.
def sizes : List ℕ := [7,32,32,4,1,1,1,1,1,32,32,8]

def parts (f : MessageFields) : List (List Byte) :=
  [MSG_PREFIX,f.serialHash,f.uidHash,littleEndian 4 f.counter.toNat,[byteOf f.tamper],[byteOf f.uv],[byteOf f.hum],
   [byteOf f.heat],[byteOf f.fill],f.mediaHash,f.nonce,signedLittleEndian 8 f.ts]

def fieldsAt (msg : List Byte) : MessageFields where
  serialHash := cut msg 7 32
  uidHash := cut msg 39 32
  counter := fromLittleEndian (cut msg 71 4)
  tamper := fromLittleEndian (cut msg 75 1)
  uv := fromLittleEndian (cut msg 76 1)
  hum := fromLittleEndian (cut msg 77 1)
  heat := fromLittleEndian (cut msg 78 1)
  fill := fromLittleEndian (cut msg 79 1)
  mediaHash := cut msg 80 32
  nonce := cut msg 112 32
  ts := fromSignedLittleEndian (cut msg 144 8)

-- Fields that have a place in the layout.
structure Fits (f : MessageFields) : Prop where
  serialHash : f.serialHash.length = 32
  uidHash : f.uidHash.length = 32
  mediaHash : f.mediaHash.length = 32
  nonce : f.nonce.length = 32
  counter : 0 ≤ f.counter ∧ f.counter < 2^32
  tamper : 0 ≤ f.tamper ∧ f.tamper ≤ 255
  uv : 0 ≤ f.uv ∧ f.uv ≤ 255
  hum : 0 ≤ f.hum ∧ f.hum ≤ 255
  heat : 0 ≤ f.heat ∧ f.heat ≤ 255
  fill : 0 ≤ f.fill ∧ f.fill ≤ 255
  ts : -2^63 ≤ f.ts ∧ f.ts < 2^63

theorem parts_sizes {f : MessageFields} (fits : Fits f) : (parts f).map List.length = sizes := by
  simp [parts,sizes,fits.serialHash,fits.uidHash,fits.mediaHash,fits.nonce,MSG_PREFIX]

theorem byteOf_back {value : Int} (fits : 0 ≤ value ∧ value ≤ 255) : ((byteOf value).val : Int) = value := by
  unfold byteOf
  rw [Fin.val_ofNat]
  omega

theorem byteOf_read {data : List Byte} (one : data.length = 1) : [byteOf (fromLittleEndian data)] = data := by
  obtain ⟨byte,rfl⟩ := List.length_eq_one_iff.mp one
  rw [fromLittleEndian_byte]
  congr 1
  apply Fin.ext
  simp [byteOf]

theorem parts_length {f : MessageFields} (fits : Fits f) : (parts f).flatten.length = MSG_LEN := by
  rw [List.length_flatten,parts_sizes fits]
  rfl

-- Reading back the fields that were written.
theorem fieldsAt_parts {f : MessageFields} (fits : Fits f) : fieldsAt (parts f).flatten = f := by
  have cuts := split_flatten (parts_sizes fits)
  simp only [sizes,split,List.drop_drop,parts,List.cons.injEq] at cuts
  obtain ⟨-,serialHash,uidHash,counter,tamper,uv,hum,heat,fill,mediaHash,nonce,ts,-⟩ := cuts
  have number : fromLittleEndian (littleEndian 4 f.counter.toNat) = f.counter.toNat := by
    refine fromLittleEndian_littleEndian ?_
    have := fits.counter
    omega
  have time : fromSignedLittleEndian (signedLittleEndian 8 f.ts) = f.ts := by
    have := fits.ts
    exact fromSignedLittleEndian_signedLittleEndian (by omega) (by omega)
  unfold fieldsAt cut parts
  simp only [serialHash,uidHash,counter,tamper,uv,hum,heat,fill,mediaHash,nonce,ts,number,time,fromLittleEndian_byte,
    byteOf_back fits.tamper,byteOf_back fits.uv,byteOf_back fits.hum,byteOf_back fits.heat,byteOf_back fits.fill,
    Int.toNat_of_nonneg fits.counter.1]

-- Writing the fields that were read.
theorem parts_fieldsAt {msg : List Byte} (length : msg.length = MSG_LEN) (start : msg.take 7 = MSG_PREFIX) :
    (parts (fieldsAt msg)).flatten = msg := by
  have inside {offset size : ℕ} (fits : offset+size ≤ 152) : (cut msg offset size).length = size :=
    cut_length (length ▸ fits)
  have covered : msg.length = sizes.sum := length
  have number : littleEndian 4 (fromLittleEndian (cut msg 71 4)) = cut msg 71 4 := by
    have same := littleEndian_fromLittleEndian (cut msg 71 4)
    rwa [inside (by decide)] at same
  have time : signedLittleEndian 8 (fromSignedLittleEndian (cut msg 144 8)) = cut msg 144 8 := by
    have same := signedLittleEndian_fromSignedLittleEndian (cut msg 144 8)
    rwa [inside (by decide)] at same
  have byte (offset : ℕ) (fits : offset+1 ≤ 152) : [byteOf (fromLittleEndian (cut msg offset 1))] = cut msg offset 1 :=
    byteOf_read (inside fits)
  have whole : parts (fieldsAt msg) = split sizes msg := by
    simp only [parts,fieldsAt,Int.toNat_natCast,number,time,byte 75 (by decide),byte 76 (by decide),byte 77 (by decide),
      byte 78 (by decide),byte 79 (by decide),← start]
    simp only [sizes,split,List.drop_drop,cut]
  rw [whole,flatten_split covered]

theorem fieldsAt_fits {msg : List Byte} (length : msg.length = MSG_LEN) : Fits (fieldsAt msg) := by
  have inside {offset size : ℕ} (fits : offset+size ≤ 152) : (cut msg offset size).length = size :=
    cut_length (length ▸ fits)
  have byte {offset : ℕ} (fits : offset+1 ≤ 152) : (0 : Int) ≤ fromLittleEndian (cut msg offset 1) ∧
      (fromLittleEndian (cut msg offset 1) : Int) ≤ 255 := by
    have := fromLittleEndian_lt (cut msg offset 1)
    rw [inside fits] at this
    omega
  have number := fromLittleEndian_lt (cut msg 71 4)
  have time := fromSignedLittleEndian_range (cut msg 144 8)
  rw [inside (by decide)] at number time
  exact ⟨inside (by decide),inside (by decide),inside (by decide),inside (by decide),
    ⟨by simp [fieldsAt],by simp only [fieldsAt]; omega⟩,byte (by decide),byte (by decide),byte (by decide),
    byte (by decide),byte (by decide),⟨by simp only [fieldsAt]; omega,by simp only [fieldsAt]; omega⟩⟩

theorem buildMessage_ok {f : MessageFields} {msg : List Byte} :
    buildMessage f = .ok msg ↔ Fits f ∧ f.fill ≤ 100 ∧ msg = (parts f).flatten := by
  have flat : MSG_PREFIX ++ f.serialHash ++ f.uidHash ++ littleEndian 4 f.counter.toNat ++
      [byteOf f.tamper,byteOf f.uv,byteOf f.hum,byteOf f.heat,byteOf f.fill] ++ f.mediaHash ++ f.nonce ++
      signedLittleEndian 8 f.ts = (parts f).flatten := by simp [parts]
  unfold buildMessage
  simp only [bind_ok,require_ok,pure_ok,flat]
  constructor
  · intro built
    obtain ⟨_,serialHash,_,uidHash,_,mediaHash,_,nonce,_,fill,_,tamper,_,uv,_,hum,_,heat,_,counter,_,ts,_,_,same⟩ := built
    exact ⟨⟨serialHash,uidHash,mediaHash,nonce,counter,tamper,uv,hum,heat,⟨fill.1,by omega⟩,ts⟩,fill.2,same.symm⟩
  · intro built
    obtain ⟨fits,fill,same⟩ := built
    exact ⟨(),fits.serialHash,(),fits.uidHash,(),fits.mediaHash,(),fits.nonce,(),⟨fits.fill.1,fill⟩,(),fits.tamper,(),fits.uv,
      (),fits.hum,(),fits.heat,(),fits.counter,(),fits.ts,(),parts_length fits,same.symm⟩

theorem parseMessage_ok {msg : List Byte} {f : MessageFields} :
    parseMessage msg = .ok f ↔ msg.length = MSG_LEN ∧ msg.take 7 = MSG_PREFIX ∧ f = fieldsAt msg := by
  unfold parseMessage
  simp only [bind_ok,require_ok,pure_ok]
  constructor
  · intro parsed
    obtain ⟨_,length,_,start,same⟩ := parsed
    exact ⟨length,start,same.symm⟩
  · intro parsed
    obtain ⟨length,start,same⟩ := parsed
    exact ⟨(),length,(),start,same.symm⟩

-- The fields of the program's message, as the other languages pass them.
def sent (f : Flacon.ScanMessageFields) : MessageFields where
  serialHash := f.serialHash.val
  uidHash := f.uidHash.val
  counter := f.counter.val
  tamper := f.tamper.val
  uv := f.uv.val
  hum := f.hum.val
  heat := f.heat.val
  fill := f.fill.val
  mediaHash := f.mediaHash.val
  nonce := f.nonce.val
  ts := f.ts.val

theorem sent_fits (f : Flacon.ScanMessageFields) : Fits (sent f) := by
  have counter := f.counter.isLt
  have tamper := f.tamper.isLt
  have uv := f.uv.isLt
  have hum := f.hum.isLt
  have heat := f.heat.isLt
  have fill := f.fill.isLt
  refine ⟨f.serialHash.2,f.uidHash.2,f.mediaHash.2,f.nonce.2,?_,?_,?_,?_,?_,?_,f.ts.2⟩ <;> (simp only [sent]; omega)

theorem sent_inj {f g : Flacon.ScanMessageFields} (same : sent f = sent g) : f = g := by
  cases f
  cases g
  simp only [sent,MessageFields.mk.injEq,Subtype.val_inj,Fin.val_inj,Int.natCast_inj] at same
  simp only [Flacon.ScanMessageFields.mk.injEq]
  exact same

theorem fitting_sent {f : MessageFields} (fits : Fits f) : ∃ g, sent g = f := by
  obtain ⟨serialHash,uidHash,mediaHash,nonce,counter,tamper,uv,hum,heat,fill,ts⟩ := fits
  refine ⟨⟨⟨f.serialHash,serialHash⟩,⟨f.uidHash,uidHash⟩,⟨f.counter.toNat,by omega⟩,⟨f.tamper.toNat,by omega⟩,
    ⟨f.uv.toNat,by omega⟩,⟨f.hum.toNat,by omega⟩,⟨f.heat.toNat,by omega⟩,⟨f.fill.toNat,by omega⟩,⟨f.mediaHash,mediaHash⟩,
    ⟨f.nonce,nonce⟩,⟨f.ts,ts⟩⟩,?_⟩
  cases f
  simp_all [sent]

-- The program's message has the same layout.
theorem program_message (f : Flacon.ScanMessageFields) : Flacon.buildScanMessage f = (parts (sent f)).flatten := by
  have byte (value : U8) : byteOf value.val = value := by
    apply Fin.ext
    simp [byteOf]
  rw [Flacon.buildScanMessage_eq]
  simp [parts,sent,byte,MSG_PREFIX,Flacon.MSG_PREFIX]

-- The message a request's scan is signed with is this message of the request's fields.
theorem request_message (serialHash uidHash : Bytes32) (counter : U24) (tamper uv hum heat fill : Fin 256) (small : fill.val ≤ 100)
    (mediaHash nonce : Bytes32) (ts : I64) :
    buildMessage ⟨serialHash.val,uidHash.val,counter.val,tamper.val,uv.val,hum.val,heat.val,fill.val,mediaHash.val,nonce.val,ts.val⟩ =
      .ok (Verifier.buildMessage serialHash uidHash counter tamper.val uv.val hum.val heat.val fill.val mediaHash nonce ts) := by
  have fits := sent_fits ⟨serialHash,uidHash,⟨counter.val,by omega⟩,tamper,uv,hum,heat,fill,mediaHash,nonce,ts⟩
  refine buildMessage_ok.mpr ⟨fits,?_,?_⟩
  · dsimp only
    omega
  · simp [Verifier.buildMessage,parts,byteOf]

end FlaconVault.Verifier.Proof
