import FlaconVault.Verifier.LrpStreams
import FlaconVault.Verifier.Sdm
namespace FlaconVault.Verifier
open Blocks Guards

-- The other end: what a chip that holds the keys sends, and that exactly such messages are accepted.
structure SunContent where
  tag : Byte
  uid : Uid
  readCtr : Option U24
  filler : List Byte
  file : List Byte
  deriving DecidableEq

def ctrBytes (counter : U24) : List Byte := Bytes.littleEndian 3 counter.val

namespace SunContent
variable (content : SunContent)

def identity : List Byte := content.uid.1 ++ (content.readCtr.map ctrBytes).getD []
def plain : List Byte := content.tag :: (content.identity ++ content.filler)
def fileData : Option (List Byte) := if content.file = [] then none else some content.file

structure Valid : Prop where
  mirrored : uidMirrored content.tag
  uidLength : uidLength content.tag = 7
  counted : readCtrMirrored content.tag ↔ content.readCtr.isSome
  block : content.plain.length = 16
  wholeFile : 16 ∣ content.file.length
  shortFile : content.file.length ≤ MAX_ENC_FILE_DATA
  countedFile : content.file ≠ [] → content.readCtr.isSome

def message (mode : EncMode) : SunMessage := ⟨content.tag,content.uid.1,content.readCtr.map (·.val),content.fileData,mode⟩

end SunContent

section Chip
variable (c : Primitives)

def sealPicc (mode : EncMode) (sdmMetaReadKey : Block) (rand plain : List Byte) : Except SdmError (List Byte) :=
  match mode with
  | .aes => do
    let blocks ← wholeBlocks (blocksOf 16 plain)
    return joined (chainEncrypt c.aes strxor sdmMetaReadKey (filled 0) blocks)
  | .lrp => do
    let (_,sent) ← (piccLrp sdmMetaReadKey rand).encrypt c.aes plain
    return rand ++ sent

def sealFile (mode : EncMode) (fileKey : Block) (identity readCtr file : List Byte) : Except SdmError (List Byte) :=
  match mode with
  | .aes => do
    let session := fileSession c fileKey identity
    let blocks ← wholeBlocks (blocksOf 16 file)
    return joined (chainEncrypt c.aes strxor session (fileVector c session readCtr) blocks)
  | .lrp => do
    let (_,sent) ← (fileLrp c fileKey identity readCtr).encrypt c.aes file
    return sent

-- The three parameters of a chip's URL; without file data the last is empty.
structure SunParams where
  piccData : List Byte
  sdmmac : List Byte
  enc : List Byte
  deriving DecidableEq

def sendFile (mode : EncMode) (fileKey : Block) (content : SunContent) : Except SdmError (List Byte) :=
  if content.file = [] then .ok []
  else sealFile c mode fileKey content.identity ((content.readCtr.map ctrBytes).getD []) content.file

def chipMessage (paramMode : ParamMode) (mode : EncMode) (sdmMetaReadKey fileKey : Block) (rand : List Byte) (content : SunContent) :
    Except SdmError SunParams := do
  let piccData ← sealPicc c mode sdmMetaReadKey rand content.plain
  let enc ← sendFile c mode fileKey content
  return ⟨piccData,calculateSdmmac c paramMode fileKey content.identity (some enc) mode,enc⟩

end Chip

section Pieces
variable {c : Primitives} {mode : EncMode} {key : Block}

theorem chain_iff {vector : Block} {plain sent : List Byte} :
    (∃ blocks, sent = joined blocks ∧ joined (chainDecrypt c.aes strxor key vector blocks) = plain) ↔
      ∃ blocks, plain = joined blocks ∧ joined (chainEncrypt c.aes strxor key vector blocks) = sent := by
  constructor
  · rintro ⟨blocks,here,opened⟩
    refine ⟨chainDecrypt c.aes strxor key vector blocks,opened.symm,?_⟩
    rw [here,← (chainDecrypt_iff strxor_strxor vector _ blocks).mp rfl]
  · rintro ⟨blocks,here,sent_is⟩
    refine ⟨chainEncrypt c.aes strxor key vector blocks,sent_is.symm,?_⟩
    rw [here,(chainDecrypt_iff strxor_strxor vector blocks _).mpr rfl]

theorem chain_length {vector : Block} (blocks : List Block) :
    (chainEncrypt c.aes strxor key vector blocks).length = blocks.length := by
  induction blocks generalizing vector with
  | nil => rfl
  | cons block rest ih => simp [chainEncrypt,ih]

-- Without padding the two directions are inverse to each other.
theorem Lrp.decrypt_iff {aes : Aes} {lrp moved : Lrp} {plain sent : List Byte} (unpadded : lrp.pad = false) (something : sent ≠ []) :
    lrp.decrypt aes sent = .ok (moved,plain) ↔ lrp.encrypt aes plain = .ok (moved,sent) := by
  have framed_same (data : List Byte) : lrp.framed data = data := by
    rw [Lrp.framed,unpadded]
    rfl
  constructor
  · intro opened
    obtain ⟨blocks,whole,opened⟩ := bind_ok.mp opened
    obtain ⟨pt,left,returned⟩ := bind_ok.mp opened
    rw [Lrp.unpadded,unpadded,if_neg Bool.false_ne_true] at left
    cases left
    cases returned
    have sent_is := wholeBlocks_iff.mp whole
    rw [counterRun_counter]
    generalize run : (counterRun (lrp.eval aes) incrCounter aes.decrypt lrp.r blocks).2 = plain
    have forth : counterRun (lrp.eval aes) incrCounter aes.encrypt lrp.r plain =
        ((counterRun (lrp.eval aes) incrCounter aes.decrypt lrp.r blocks).1,blocks) :=
      run ▸ counterRun_undone aes.encrypt_decrypt lrp.r blocks
    have count : plain.length = blocks.length := run ▸ counterRun_length aes.decrypt lrp.r blocks
    refine Lrp.encrypt_iff.mpr ⟨.inr ⟨?_,?_⟩,plain,framed_same _,?_,?_⟩
    · intro nothing
      apply something
      have length := congrArg List.length nothing
      rw [joined_length,count,List.length_nil] at length
      have none_left : blocks = [] := List.eq_nil_of_length_eq_zero (by omega)
      rw [sent_is,none_left]
      rfl
    · rw [joined_length]
      exact ⟨_,rfl⟩
    · rw [Lrp.after,count]
    · rw [sent_is,Lrp.sentBlocks,forth]
  · intro encrypted
    obtain ⟨-,blocks,whole,rfl,rfl⟩ := Lrp.encrypt_iff.mp encrypted
    exact Lrp.decrypt_sent whole

theorem block_length {plain : List Byte} {blocks : List Block} (length : plain.length = 16) (same : plain = joined blocks) :
    blocks.length = 1 := by
  have := congrArg List.length same
  rw [joined_length] at this
  omega

-- The first parameter: its plaintext is one block, and its length tells the mode.
theorem picc_iff {piccData plain : List Byte} :
    getEncryptionMode piccData = .ok mode ∧ decryptPicc c mode key piccData = .ok plain ↔
      plain.length = 16 ∧ ∃ rand, (mode = .lrp → rand.length = 8) ∧ sealPicc c mode key rand plain = .ok piccData := by
  cases mode with
  | aes =>
    simp only [decryptPicc,sealPicc,bind_ok,wholeBlocks_iff,pure_ok,reduceCtorEq,false_imp_iff,true_and,exists_const]
    rw [chain_iff]
    have moded : getEncryptionMode piccData = .ok .aes ↔ piccData.length = 16 := by
      unfold getEncryptionMode
      split
      · simp_all
      · split <;> simp_all
    rw [moded]
    constructor
    · rintro ⟨length,blocks,whole,sent_is⟩
      refine ⟨?_,blocks,whole,sent_is⟩
      rw [← sent_is,joined_length,chain_length] at length
      rw [whole,joined_length]
      exact length
    · rintro ⟨length,blocks,whole,sent_is⟩
      refine ⟨?_,blocks,whole,sent_is⟩
      rw [← sent_is,joined_length,chain_length,block_length length whole]
  | lrp =>
    simp only [decryptPicc,sealPicc,bind_ok,pure_ok,Prod.exists]
    have moded : getEncryptionMode piccData = .ok .lrp ↔ piccData.length = 24 := by
      unfold getEncryptionMode
      split
      · simp_all
      · split <;> simp_all
    rw [moded]
    constructor
    · rintro ⟨length,moved,plain',opened,same⟩
      subst same
      have rest : (piccData.drop 8).length = 16 := by
        rw [List.length_drop]
        omega
      have something : piccData.drop 8 ≠ [] := by
        intro nothing
        rw [nothing] at rest
        cases rest
      have encrypted := (Lrp.decrypt_iff rfl something).mp opened
      obtain ⟨-,blocks,whole,-,sent_is⟩ := Lrp.encrypt_iff.mp encrypted
      have one : plain'.length = 16 := by
        have count := congrArg List.length sent_is
        rw [rest,joined_length,Lrp.sentBlocks,counterRun_length] at count
        have whole_length := congrArg List.length whole
        rw [joined_length] at whole_length
        exact whole_length.trans count.symm
      refine ⟨one,piccData.take 8,fun _ => (by rw [List.length_take]; omega),moved,_,encrypted,?_⟩
      exact List.take_append_drop 8 piccData
    · rintro ⟨length,rand,eight,moved,sent,encrypted,same⟩
      have short := eight trivial
      obtain ⟨-,blocks,whole,-,sent_is⟩ := Lrp.encrypt_iff.mp encrypted
      have one := block_length length whole
      have sent_length : sent.length = 16 := by rw [sent_is,joined_length,Lrp.sentBlocks,counterRun_length,one]
      have something : sent ≠ [] := by
        intro nothing
        rw [nothing] at sent_length
        cases sent_length
      rw [← same,List.take_left' short,List.drop_left' short,List.length_append,short,sent_length]
      exact ⟨rfl,moved,plain,(Lrp.decrypt_iff rfl something).mpr encrypted,rfl⟩

-- The third: file data that was sent is read back.
theorem file_iff {identity readCtr enc file : List Byte} (something : enc ≠ []) :
    decryptFileData c key identity readCtr enc mode = .ok file ↔ sealFile c mode key identity readCtr file = .ok enc := by
  cases mode with
  | aes =>
    simp only [decryptFileData,sealFile,bind_ok,wholeBlocks_iff,pure_ok]
    exact chain_iff
  | lrp =>
    simp only [decryptFileData,sealFile,bind_ok,pure_ok,Prod.exists,exists_eq_right]
    exact exists_congr fun moved => Lrp.decrypt_iff rfl something

theorem sealFile_length {identity readCtr enc file : List Byte} (sent : sealFile c mode key identity readCtr file = .ok enc) :
    enc.length = file.length ∧ 16 ∣ file.length := by
  cases mode with
  | aes =>
    simp only [sealFile,bind_ok,wholeBlocks_iff,pure_ok] at sent
    obtain ⟨blocks,rfl,rfl⟩ := sent
    simp only [joined_length,chain_length,true_and]
    exact ⟨_,rfl⟩
  | lrp =>
    simp only [sealFile,bind_ok,pure_ok,Prod.exists,exists_eq_right] at sent
    obtain ⟨moved,sent⟩ := sent
    obtain ⟨-,blocks,whole,-,rfl⟩ := Lrp.encrypt_iff.mp sent
    have whole : file = joined blocks := whole
    simp only [whole,joined_length,Lrp.sentBlocks,counterRun_length,true_and]
    exact ⟨_,rfl⟩

end Pieces

@[simp] theorem ctrBytes_length (counter : U24) : (ctrBytes counter).length = 3 := Bytes.littleEndian_length 3 counter.val

theorem ctrBytes_value (counter : U24) : Bytes.fromLittleEndian (ctrBytes counter) = counter.val :=
  Bytes.fromLittleEndian_littleEndian counter.isLt

theorem exists_ctrBytes {bytes : List Byte} (length : bytes.length = 3) : ∃ counter, bytes = ctrBytes counter := by
  have bound := Bytes.fromLittleEndian_lt bytes
  rw [length] at bound
  refine ⟨⟨Bytes.fromLittleEndian bytes,bound⟩,?_⟩
  have same := Bytes.littleEndian_fromLittleEndian bytes
  rw [length] at same
  exact same.symm

-- Reading a plaintext gives what the chip wrote, and every plaintext that is accepted was written so.
theorem readPicc_plain {content : SunContent} (valid : content.Valid) :
    readPicc content.plain = ⟨content.tag,some content.uid.1,content.readCtr.map ctrBytes⟩ := by
  have uid := content.uid.2
  unfold readPicc SunContent.plain SunContent.identity
  simp only [List.headD_cons,List.drop_succ_cons,List.drop_zero,if_pos valid.mirrored,List.append_assoc]
  rw [List.take_left' uid,List.drop_left' uid]
  cases given : content.readCtr with
  | none =>
    have unmirrored : ¬readCtrMirrored content.tag := fun shown => by
      have := valid.counted.mp shown
      rw [given] at this
      cases this
    simp [unmirrored]
  | some counter =>
    have mirrored : readCtrMirrored content.tag := valid.counted.mpr (by rw [given]; rfl)
    simp [mirrored]

theorem exists_content {plain : List Byte} (length : plain.length = 16) (mirrored : uidMirrored (readPicc plain).tag)
    (file : List Byte) : ∃ content : SunContent, content.plain = plain ∧ content.file = file ∧ content.tag = (readPicc plain).tag ∧
      (readCtrMirrored content.tag ↔ content.readCtr.isSome) := by
  cases plain with
  | nil => cases length
  | cons tag stream =>
    have short : stream.length = 15 := Nat.succ.inj length
    have uid : (stream.take 7).length = 7 := by
      rw [List.length_take]
      omega
    by_cases counted : readCtrMirrored tag
    · have three : ((stream.drop 7).take 3).length = 3 := by
        rw [List.length_take,List.length_drop]
        omega
      obtain ⟨counter,same⟩ := exists_ctrBytes three
      refine ⟨⟨tag,⟨stream.take 7,uid⟩,some counter,(stream.drop 7).drop 3,file⟩,?_,rfl,rfl,by simp [counted]⟩
      simp only [SunContent.plain,SunContent.identity,Option.map_some,Option.getD_some,← same,List.append_assoc,List.take_append_drop]
    · refine ⟨⟨tag,⟨stream.take 7,uid⟩,none,stream.drop 7,file⟩,?_,rfl,rfl,by simp [counted]⟩
      simp [SunContent.plain,SunContent.identity]

section Messages
variable {c : Primitives} {paramMode : ParamMode} {mode : EncMode} {metaKey fileKey : Block}
  {keyFor : List Byte → Except SdmError Block} {piccData sdmmac : List Byte} {enc : Option (List Byte)} {message : SunMessage}

theorem filter_given (enc : Option (List Byte)) : enc.filter (· ≠ []) = if enc.getD [] = [] then none else some (enc.getD []) := by
  cases enc with
  | none => rfl
  | some file => by_cases nothing : file = [] <;> simp [nothing]

theorem macInput_given (enc : Option (List Byte)) : macInput paramMode (some (enc.getD [])) = macInput paramMode enc := by
  unfold macInput
  rw [filter_given,filter_given]
  simp

theorem sdmmac_given (piccData : List Byte) (enc : Option (List Byte)) :
    calculateSdmmac c paramMode fileKey piccData (some (enc.getD [])) mode = calculateSdmmac c paramMode fileKey piccData enc mode := by
  unfold calculateSdmmac
  rw [macInput_given]

-- What a chip sends of its file, and that it is read back.
def FileSent (c : Primitives) (mode : EncMode) (fileKey : Block) (data : PiccData) (file enc : List Byte) : Prop :=
  file = [] ∧ enc = [] ∨
    file ≠ [] ∧ enc ≠ [] ∧ ∃ readCtr, data.readCtr = some readCtr ∧ sealFile c mode fileKey data.stream readCtr file = .ok enc

theorem readFile_iff {data : PiccData} {fileData : Option (List Byte)} : readFile c mode fileKey data enc = .ok fileData ↔
    ∃ file, fileData = (if file = [] then none else some file) ∧ FileSent c mode fileKey data file (enc.getD []) := by
  unfold readFile FileSent
  rw [filter_given]
  by_cases nothing : enc.getD [] = []
  · rw [if_pos nothing]
    constructor
    · intro read
      cases read
      exact ⟨[],rfl,.inl ⟨rfl,nothing⟩⟩
    · rintro ⟨file,same,sent⟩
      rcases sent with ⟨empty,-⟩ | ⟨-,something,-⟩
      · rw [same,if_pos empty]
      · exact absurd nothing something
  · rw [if_neg nothing]
    simp only [bind_ok,orRefuse_ok,file_iff nothing,pure_ok]
    constructor
    · rintro ⟨readCtr,found,file,sent,same⟩
      have carried : file ≠ [] := by
        intro empty
        have lengths := (sealFile_length sent).1
        rw [empty] at lengths
        exact nothing (List.eq_nil_of_length_eq_zero lengths)
      exact ⟨file,by rw [if_neg carried,same],.inr ⟨carried,nothing,readCtr,found,sent⟩⟩
    · rintro ⟨file,same,sent⟩
      rcases sent with ⟨-,empty⟩ | ⟨carried,-,readCtr,found,sent⟩
      · exact absurd empty nothing
      · rw [if_neg carried] at same
        exact ⟨readCtr,found,file,sent,same.symm⟩

theorem FileSent.whole {data : PiccData} {file enc : List Byte} (sent : FileSent c mode fileKey data file enc) :
    enc.length = file.length ∧ 16 ∣ file.length := by
  rcases sent with ⟨rfl,rfl⟩ | ⟨-,-,readCtr,-,sent⟩
  · exact ⟨rfl,0,rfl⟩
  · exact sealFile_length sent

theorem short_given {bound : ℕ} : enc.all (fun file => decide (file.length ≤ bound)) = true ↔ (enc.getD []).length ≤ bound := by
  cases enc <;> simp

-- The data that a content's plaintext is read as.
def SunContent.data (content : SunContent) : PiccData := ⟨content.tag,some content.uid.1,content.readCtr.map ctrBytes⟩

theorem sendFile_iff {content : SunContent} (valid : content.Valid) {sent : List Byte} :
    sendFile c mode fileKey content = .ok sent ↔ FileSent c mode fileKey content.data content.file sent := by
  unfold FileSent sendFile
  by_cases empty : content.file = []
  · simp [empty,eq_comm]
  · obtain ⟨counter,counted⟩ := Option.isSome_iff_exists.mp (valid.countedFile empty)
    have stream : content.data.stream = content.identity := rfl
    simp only [empty,if_false,false_and,false_or,ne_eq,not_false_eq_true,true_and,stream]
    simp only [SunContent.data,counted,Option.map_some,Option.getD_some]
    constructor
    · intro sent_is
      refine ⟨?_,_,rfl,sent_is⟩
      intro nothing
      have lengths := (sealFile_length sent_is).1
      rw [nothing] at lengths
      exact empty (List.eq_nil_of_length_eq_zero lengths.symm)
    · rintro ⟨_,readCtr,same,sent_is⟩
      cases same
      exact sent_is

theorem chipMessage_iff {rand : List Byte} {content : SunContent} (valid : content.Valid) :
    chipMessage c paramMode mode metaKey fileKey rand content = .ok ⟨piccData,sdmmac,enc.getD []⟩ ↔
      sealPicc c mode metaKey rand content.plain = .ok piccData ∧
      FileSent c mode fileKey content.data content.file (enc.getD []) ∧
      sdmmac = calculateSdmmac c paramMode fileKey content.identity enc mode := by
  unfold chipMessage
  simp only [bind_ok,sendFile_iff valid,pure_ok,SunParams.mk.injEq]
  constructor
  · rintro ⟨sent,sealed_,file,filed,here,mac,same⟩
    subst here same
    exact ⟨sealed_,filed,by rw [← mac,sdmmac_given]⟩
  · rintro ⟨sealed_,filed,mac⟩
    exact ⟨piccData,sealed_,enc.getD [],filed,rfl,by rw [mac,sdmmac_given],rfl⟩

theorem accepted_composed (accepted : decryptSunMessage c paramMode metaKey keyFor piccData sdmmac enc = .ok message) :
    ∃ mode content rand fileKey, content.Valid ∧ (mode = .lrp → rand.length = 8) ∧ keyFor content.uid.1 = .ok fileKey ∧
      chipMessage c paramMode mode metaKey fileKey rand content = .ok ⟨piccData,sdmmac,enc.getD []⟩ ∧ message = content.message mode := by
  unfold decryptSunMessage at accepted
  obtain ⟨_,short,accepted⟩ := bind_ok.mp accepted
  obtain ⟨mode,moded,accepted⟩ := bind_ok.mp accepted
  obtain ⟨plain,opened,accepted⟩ := bind_ok.mp accepted
  obtain ⟨_,known,accepted⟩ := bind_ok.mp accepted
  obtain ⟨uid,shown,accepted⟩ := bind_ok.mp accepted
  obtain ⟨fileKey,keyed,accepted⟩ := bind_ok.mp accepted
  obtain ⟨_,signed,accepted⟩ := bind_ok.mp accepted
  obtain ⟨fileData,read,same⟩ := bind_ok.mp accepted
  have short := short_given.mp (require_ok.mp short)
  have shown := orRefuse_ok.mp shown
  obtain ⟨length,rand,eight,sealed_⟩ := picc_iff.mp ⟨moded,opened⟩
  obtain ⟨file,fileData_is,filed⟩ := readFile_iff.mp read
  have mirrored : uidMirrored (readPicc plain).tag := by
    by_contra hidden
    have : (readPicc plain).uid = none := if_neg hidden
    rw [this] at shown
    cases shown
  -- the content that wrote this plaintext, with the file that was read
  obtain ⟨content,plain_is,file_is,tag_is,counted⟩ := exists_content length mirrored file
  subst plain_is file_is
  have countedFile : content.file ≠ [] → content.readCtr.isSome := by
    intro carried
    rcases filed with ⟨empty,-⟩ | ⟨-,-,readCtr,counter,-⟩
    · exact absurd empty carried
    · apply counted.mp
      rw [tag_is]
      by_contra hidden
      have : (readPicc content.plain).readCtr = none := if_neg hidden
      rw [this] at counter
      cases counter
  have valid : content.Valid :=
    ⟨tag_is ▸ mirrored,tag_is ▸ require_ok.mp known,counted,length,filed.whole.2,filed.whole.1 ▸ short,countedFile⟩
  have data : readPicc content.plain = content.data := readPicc_plain valid
  rw [data] at shown signed filed same
  cases shown
  refine ⟨mode,content,rand,fileKey,valid,eight,keyed,(chipMessage_iff valid).mpr ⟨sealed_,filed,require_ok.mp signed⟩,?_⟩
  have counter : (content.readCtr.map ctrBytes).map Bytes.fromLittleEndian = content.readCtr.map (·.val) := by
    rw [Option.map_map]
    exact congrArg (content.readCtr.map ·) (funext ctrBytes_value)
  rw [← pure_ok.mp same,fileData_is]
  exact congrArg (SunMessage.mk content.tag content.uid.1 · content.fileData mode) counter

theorem composed_accepted {rand : List Byte} {content : SunContent} (valid : content.Valid) (eight : mode = .lrp → rand.length = 8)
    (keyed : keyFor content.uid.1 = .ok fileKey)
    (composed : chipMessage c paramMode mode metaKey fileKey rand content = .ok ⟨piccData,sdmmac,enc.getD []⟩) :
    decryptSunMessage c paramMode metaKey keyFor piccData sdmmac enc = .ok (content.message mode) := by
  obtain ⟨sealed_,filed,mac⟩ := (chipMessage_iff valid).mp composed
  obtain ⟨moded,opened⟩ := picc_iff.mpr ⟨valid.block,rand,eight,sealed_⟩
  have data : readPicc content.plain = content.data := readPicc_plain valid
  have short : enc.all (fun file => decide (file.length ≤ MAX_ENC_FILE_DATA)) = true := short_given.mpr (filed.whole.1 ▸ valid.shortFile)
  have read : readFile c mode fileKey content.data enc = .ok content.fileData := readFile_iff.mpr ⟨content.file,rfl,filed⟩
  have counter : (content.readCtr.map ctrBytes).map Bytes.fromLittleEndian = content.readCtr.map (·.val) := by
    rw [Option.map_map]
    exact congrArg (content.readCtr.map ·) (funext ctrBytes_value)
  have uid : orRefuse (readPicc content.plain).uid (SdmError.invalidMessage "UID cannot be None.") = .ok content.uid.1 :=
    orRefuse_ok.mpr (congrArg PiccData.uid data)
  have known : uidLength (readPicc content.plain).tag = 7 := data ▸ valid.uidLength
  unfold decryptSunMessage
  refine bind_ok.mpr ⟨(),require_ok.mpr short,bind_ok.mpr ⟨mode,moded,bind_ok.mpr ⟨content.plain,opened,?_⟩⟩⟩
  refine bind_ok.mpr ⟨(),require_ok.mpr known,bind_ok.mpr ⟨content.uid.1,uid,bind_ok.mpr ⟨fileKey,keyed,?_⟩⟩⟩
  rw [data]
  refine bind_ok.mpr ⟨(),require_ok.mpr mac,bind_ok.mpr ⟨content.fileData,read,?_⟩⟩
  exact congrArg (fun readCtr => Except.ok (SunMessage.mk content.tag content.uid.1 readCtr content.fileData mode)) counter

-- Exactly the messages that a chip with the keys composes are accepted, and what is told is what the chip put in.
theorem sun_messages_exact (c : Primitives) (paramMode : ParamMode) (metaKey : Block) (keyFor : List Byte → Except SdmError Block)
    (piccData sdmmac : List Byte) (enc : Option (List Byte)) (message : SunMessage) :
    decryptSunMessage c paramMode metaKey keyFor piccData sdmmac enc = .ok message ↔
      ∃ mode content rand fileKey, content.Valid ∧ (mode = .lrp → rand.length = 8) ∧ keyFor content.uid.1 = .ok fileKey ∧
        chipMessage c paramMode mode metaKey fileKey rand content = .ok ⟨piccData,sdmmac,enc.getD []⟩ ∧ message = content.message mode := by
  constructor
  · exact accepted_composed
  · rintro ⟨mode,content,rand,fileKey,valid,eight,keyed,composed,same⟩
    exact same ▸ composed_accepted valid eight keyed composed

end Messages

-- A chip that mirrors its UID and counter and encrypts one block of file data, in both modes.
namespace Mirrored
def chip : Uid := ⟨[4,1,2,3,4,5,6],by decide⟩
def content : SunContent := ⟨0xc7,chip,some 61,[9,9,9,9,9],List.replicate 16 7⟩
def metaKey : Block := filled 0x21
def fileKey : Block := filled 0x42
def rand : List Byte := List.replicate 8 5

theorem valid : content.Valid :=
  ⟨by decide,by decide,by decide,by decide,by decide,by decide,fun _ => rfl⟩

theorem composes (mode : EncMode) : ∃ sent, chipMessage .sample .separated mode metaKey fileKey rand content = .ok sent := by
  apply exists_ok
  cases mode <;> decide +kernel

def Read (mode : EncMode) : Prop :=
  ∃ sent, chipMessage .sample .separated mode metaKey fileKey rand content = .ok sent ∧
    decryptSunMessage .sample .separated metaKey (fun _ => .ok fileKey) sent.piccData sent.sdmmac (some sent.enc) =
      .ok (content.message mode)

theorem both_modes_read : Read .aes ∧ Read .lrp := by
  have read (mode : EncMode) : Read mode := by
    obtain ⟨sent,composed⟩ := composes mode
    refine ⟨sent,composed,?_⟩
    exact (sun_messages_exact .sample .separated metaKey (fun _ => .ok fileKey) sent.piccData sent.sdmmac (some sent.enc) _).mpr
      ⟨mode,content,rand,fileKey,valid,fun _ => rfl,rfl,composed,rfl⟩
  exact ⟨read .aes,read .lrp⟩

end Mirrored
end FlaconVault.Verifier
