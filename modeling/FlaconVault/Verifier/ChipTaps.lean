import FlaconVault.Verifier.SunMessages
import FlaconVault.Verifier.Taps
namespace FlaconVault.Verifier
open Blocks Guards PyText

-- From what a chip puts into its URL to what the server authenticates.

theorem oddBytes_length (bytes : List Byte) : (oddBytes bytes).length = bytes.length/2 := by
  induction bytes using oddBytes.induct with
  | case1 even odd rest ih =>
    simp only [oddBytes,List.length_cons,ih]
    omega
  | case2 bytes short =>
    cases bytes with
    | nil => rfl
    | cons first rest =>
      cases rest with
      | nil => simp [oddBytes]
      | cons second rest => exact absurd rfl (short first second rest)

theorem sdmmac_length (c : Primitives) (paramMode : ParamMode) (key : Block) (piccData : List Byte) (enc : Option (List Byte))
    (mode : EncMode) : (calculateSdmmac c paramMode key piccData enc mode).length = 8 := by
  unfold calculateSdmmac
  rw [oddBytes_length]
  cases mode with
  | aes => exact congrArg (·/2) (c.cmac _ _).2
  | lrp => exact congrArg (·/2) (Lrp.cmac _ _ _).2

def urlText (bytes : List Byte) : String := String.ofList (hexUpper bytes)

section Texts
variable (uid : Uid) (counter : U24)

@[simp] theorem urlText_toList (bytes : List Byte) : (urlText bytes).toList = hexUpper bytes := String.toList_ofList
@[simp] theorem urlText_length (bytes : List Byte) : (urlText bytes).length = 2*bytes.length := by
  rw [urlText,String.length_ofList,hexUpper_length]

theorem parseUid_url : parseUid (hexUpper uid.1) = .ok uid := by
  have upper := hexUpper_upper uid.1
  unfold parseUid
  rw [strip_upper upper,removePrefix_upper upper,fromHex_hexUpper]
  simp only [orRefuse,ok_bind,dif_pos uid.2]
  rfl

theorem parseCmac_url {mac : List Byte} (eight : mac.length = 8) : parseCmac (hexUpper mac) = .ok mac := by
  have upper := hexUpper_upper mac
  unfold parseCmac
  rw [strip_upper upper,removePrefix_upper upper,fromHex_hexUpper]
  simp only [orRefuse,ok_bind,require_pass eight]
  rfl

theorem ctrHex_length : (ctrHex counter.val).length = 6 := by rw [ctrHex,hexUpper_length,toBigEndian_length]

-- The six digits and their number.
theorem ctrHex_number : intBase16 (ctrHex counter.val) = some (counter.val : Int) := by
  have bound := counter.isLt
  have bytes : toBigEndian 3 counter.val =
      [Fin.ofNat 256 (counter.val/256/256),Fin.ofNat 256 (counter.val/256),Fin.ofNat 256 counter.val] := rfl
  have digits : ctrHex counter.val = ([counter.val/256/256%256/16,counter.val/256/256%256%16,counter.val/256%256/16,
      counter.val/256%256%16,counter.val%256/16,counter.val%256%16] : List ℕ).map upperDigit := by
    rw [ctrHex,bytes]
    rfl
  rw [digits,intBase16_upper]
  · simp only [List.foldl_cons,List.foldl_nil]
    congr 2
    omega
  · intro digit inside
    simp only [List.mem_cons,List.not_mem_nil,or_false] at inside
    omega

theorem counterOf_val : counterOf counter.val = .ok counter := by
  have bound := counter.isLt
  unfold counterOf
  rw [dif_pos (by omega)]
  rfl

theorem parseCtr_url : parseCtr (.text (String.ofList (ctrHex counter.val))) = .ok counter := by
  have upper := hexUpper_upper (toBigEndian 3 counter.val)
  unfold parseCtr
  simp only [String.toList_ofList]
  rw [ctrHex,strip_upper upper,removePrefix_upper upper]
  have length := ctrHex_length counter
  have number := ctrHex_number counter
  rw [ctrHex] at length number
  simp only [require_pass length,ok_bind,number,orRefuse]
  exact counterOf_val counter

end Texts
section Deployed
variable (settings : Settings) (c : Primitives) (config : SdmConfig) {uid : Uid} {counter : U24}

theorem keyForUid_total (uid : Uid) : ∃ key, keyForUid c config uid.1 = .ok key := by
  unfold keyForUid
  cases config.keyMode with
  | factory => exact ⟨_,rfl⟩
  | sdmbackend => exact ⟨_,rfl⟩
  | diversified =>
    have short : (0x01 :: (uid.1 ++ KEY_DIV_APP_ID ++ KEY_DIV_SYS_ID)).length ≤ 32 := by
      simp [uid.2,KEY_DIV_APP_ID,KEY_DIV_SYS_ID,ascii]
    exact ⟨_,by simp only [diversify,require_pass short,ok_bind]; rfl⟩

theorem metaReadKey_total : ∃ key, metaReadKey c config = .ok key := by
  unfold metaReadKey
  cases config.keyMode with
  | factory => exact ⟨_,rfl⟩
  | diversified => exact ⟨_,rfl⟩
  | sdmbackend =>
    unfold deriveUndiversifiedKey
    cases config.sdmDerive with
    | legacy => exact ⟨_,rfl⟩
    | standard => exact ⟨_,by simp only [require_pass,ok_bind]; rfl⟩

-- The keys a chip of the deployment carries.
def fileKey (uid : Uid) : Block := (keyForUid c config uid.1).toOption.getD (filled 0)
def metaKey : Block := (metaReadKey c config).toOption.getD (filled 0)

theorem fileKey_is (uid : Uid) : keyForUid c config uid.1 = .ok (fileKey c config uid) := by
  obtain ⟨key,keyed⟩ := keyForUid_total c config uid
  rw [fileKey,keyed]
  rfl

theorem metaKey_is : metaReadKey c config = .ok (metaKey c config) := by
  obtain ⟨key,keyed⟩ := metaReadKey_total c config
  rw [metaKey,keyed]
  rfl

def plainMac (uid : Uid) (counter : U24) : List Byte := sdmCmac c uid.1 counter.val (fileKey c config uid)

-- What a chip of the deployment composes.
structure Composed (mode : EncMode) (content : SunContent) (rand : List Byte) (sent : SunParams) : Prop where
  valid : content.Valid
  eight : mode = .lrp → rand.length = 8
  composed : chipMessage c .separated mode (metaKey c config) (fileKey c config content.uid) rand content = .ok sent

variable {settings c config}

theorem validateTap_iff {mac : List Byte} :
    (settings.withChips c config).validateTap uid counter mac = true ↔ mac = plainMac c config uid counter := by
  have checked : (settings.withChips c config).validateTap uid counter mac =
      Verifier.validateTap c uid.1 counter.val mac (fileKey c config uid) := by
    simp only [Settings.withChips,fileKey_is c config uid]
  rw [checked,Verifier.validateTap,validatePlainSun,plainMac,sdmCmac]
  by_cases signed : mac = calculateSdmmac c .separated (fileKey c config uid) (uid.1 ++ (toBigEndian 3 counter.val).reverse) none .aes
  · rw [require_pass signed,ok_bind]
    exact iff_of_true rfl signed
  · rw [require,if_neg signed,error_bind]
    exact iff_of_false Bool.false_ne_true signed

theorem uidOf_val (uid : Uid) : uidOf uid.1 = uid := by
  have same : bytesOf 7 uid.1 = uid.1 := List.take_left' uid.2
  exact Subtype.ext same

theorem decryptTap_iff {piccData mac : List Byte} {enc : Option (List Byte)} :
    (settings.withChips c config).decryptTap piccData mac enc = some (uid,counter) ↔
      ∃ mode content rand, Composed c config mode content rand ⟨piccData,mac,enc.getD []⟩ ∧ content.uid = uid ∧
        content.readCtr = some counter := by
  have given : (enc.filter (· ≠ [])).getD [] = enc.getD [] := by
    rw [filter_given]
    split <;> simp_all
  have opened (message : SunMessage) := sun_messages_exact c .separated (metaKey c config) (keyForUid c config) piccData mac
    (enc.filter (· ≠ [])) message
  have told (content : SunContent) (mode : EncMode) : ((content.message mode).readCtr.map fun readCtr =>
      ((content.message mode).uid,readCtr)).map (fun told => (uidOf told.1,(Fin.ofNat _ told.2 : U24))) =
        content.readCtr.map fun counter => (content.uid,counter) := by
    simp only [SunContent.message,Option.map_map]
    congr 1
    funext counter
    exact Prod.ext (uidOf_val content.uid) (Fin.ext (Nat.mod_eq_of_lt counter.isLt))
  simp only [Settings.withChips,decryptTap,metaKey_is c config,ok_bind]
  constructor
  · intro accepted
    cases result : decryptSunMessage c .separated (metaKey c config) (keyForUid c config) piccData mac (enc.filter (· ≠ [])) with
    | error refused =>
      rw [result] at accepted
      cases accepted
    | ok message =>
      obtain ⟨mode,content,rand,key,valid,eight,keyed,composed,same⟩ := (opened message).mp result
      rw [fileKey_is c config content.uid] at keyed
      cases keyed
      rw [given] at composed
      rw [result,same] at accepted
      have accepted := (told content mode).symm.trans accepted
      obtain ⟨counter',counted,both⟩ := Option.map_eq_some_iff.mp accepted
      cases both
      exact ⟨mode,content,rand,⟨valid,eight,composed⟩,rfl,counted⟩
  · rintro ⟨mode,content,rand,⟨valid,eight,composed⟩,uid_is,counted⟩
    rw [← given] at composed
    have result := (opened _).mpr ⟨mode,content,rand,_,valid,eight,fileKey_is c config content.uid,composed,rfl⟩
    rw [result]
    have shown := told content mode
    rw [counted,uid_is] at shown
    exact shown

-- The three ways a tap of one chip reaches the server, and what each is authenticated as.
def plainParams (uid : Uid) (counter : U24) (mac : List Byte) : TapParams :=
  ⟨some (urlText uid.1),some (.text (String.ofList (ctrHex counter.val))),some (urlText mac),none,none⟩

-- NXP TagWriter mirrors all three into `uid`; the other two parameters are missing or filled with zeros.
def zeroText (count : ℕ) : String := String.ofList (List.replicate count '0')

def tagwriterText (uid : Uid) (counter : U24) (mac : List Byte) : List Char :=
  hexUpper uid.1 ++ 'x' :: (ctrHex counter.val ++ 'x' :: hexUpper mac)

def tagwriterParams (uid : Uid) (counter : U24) (mac : List Byte) (ctr cmac : Option ℕ) : TapParams :=
  ⟨some (String.ofList (tagwriterText uid counter mac)),ctr.map fun count => .text (zeroText count),cmac.map zeroText,none,none⟩

def encryptedParams (sent : SunParams) (uid : Option String) (ctr : Option CtrParam) : TapParams :=
  ⟨uid,ctr,some (urlText sent.sdmmac),some (urlText sent.piccData),some (urlText sent.enc)⟩

theorem plain_parsed {mac : List Byte} (eight : mac.length = 8) :
    authenticateTap settings (plainParams uid counter mac) =
      if settings.validateTap uid counter mac then .genuine uid counter mac false
      else .invalid ⟨.invalid,some (.chip uid),some (settings.uidHash uid),some counter,some mac,none,some .badCmac,false⟩ := by
  have short : ¬(tooLong (some (urlText uid.1)) ∨ ctrTooLong (some (.text (String.ofList (ctrHex counter.val)))) ∨ tooLong (some (urlText mac))) := by
    simp [tooLong,ctrTooLong,uid.2,eight,MAX_PLAIN_HEX,ctrHex_length]
  have unmirrored : splitTagwriter (some (urlText uid.1)) (some (.text (String.ofList (ctrHex counter.val)))) (some (urlText mac)) =
      (some (urlText uid.1),some (.text (String.ofList (ctrHex counter.val))),some (urlText mac)) := by
    simp [splitTagwriter,strip_upper (hexUpper_upper uid.1),uid.2]
  unfold authenticateTap plainParams
  simp only [Option.filter_none]
  rw [if_neg short,unmirrored]
  simp only [urlText_toList,parseUid_url,parseCtr_url,parseCmac_url eight,ok_bind]
  rfl

theorem allHexDigits_upper {text : List Char} (upper : UpperHex text) : allHexDigits text = true := by
  unfold allHexDigits
  rw [List.all_eq_true]
  intro c inside
  obtain ⟨digit,small,rfl⟩ := upper c inside
  rw [(upperDigit_plain small).value]
  rfl

theorem tagwriter_unspaced (uid : Uid) (counter : U24) (mac : List Byte) : ∀ c ∈ tagwriterText uid counter mac, isSpace c = false := by
  have marked : isSpace 'x' = false := by decide
  intro c inside
  rcases List.mem_append.mp inside with first | inside
  · exact (hexUpper_upper uid.1).unspaced c first
  · rcases List.mem_cons.mp inside with rfl | inside
    · exact marked
    · rcases List.mem_append.mp inside with second | inside
      · exact (hexUpper_upper _).unspaced c second
      · rcases List.mem_cons.mp inside with rfl | third
        · exact marked
        · exact (hexUpper_upper mac).unspaced c third

theorem zeroText_empty (count : ℕ) : (stripChar '0' (zeroText count).toList).isEmpty = true := by
  have nothing : (List.replicate count '0').dropWhile (· == '0') = [] := by
    rw [List.dropWhile_eq_nil_iff]
    intro c inside
    rw [List.eq_of_mem_replicate inside]
    rfl
  rw [zeroText,String.toList_ofList,stripChar,nothing]
  rfl

theorem tagwriter_split {mac : List Byte} (eight : mac.length = 8) (ctr cmac : Option ℕ) :
    splitTagwriter (some (String.ofList (tagwriterText uid counter mac))) (ctr.map fun count => .text (zeroText count)) (cmac.map zeroText) =
      (some (urlText uid.1),some (.text (String.ofList (ctrHex counter.val))),some (urlText mac)) := by
  have front : (hexUpper uid.1).length = 14 := by rw [hexUpper_length,uid.2]
  have middle := ctrHex_length counter
  have back : (hexUpper mac).length = 16 := by rw [hexUpper_length,eight]
  have length : (tagwriterText uid counter mac).length = 38 := by
    simp only [tagwriterText,List.length_append,List.length_cons,front,middle,back]
  have first : (tagwriterText uid counter mac).take 14 = hexUpper uid.1 := List.take_left' front
  have rest : (tagwriterText uid counter mac).drop 14 = 'x' :: (ctrHex counter.val ++ 'x' :: hexUpper mac) := List.drop_left' front
  have after : (tagwriterText uid counter mac).drop 15 = ctrHex counter.val ++ 'x' :: hexUpper mac := by
    rw [← List.drop_drop (i := 1) (j := 14),rest]
    rfl
  have second : ((tagwriterText uid counter mac).drop 15).take 6 = ctrHex counter.val := by
    rw [after]
    exact List.take_left' middle
  have last : (tagwriterText uid counter mac).drop 21 = 'x' :: hexUpper mac := by
    rw [← List.drop_drop (i := 6) (j := 15),after]
    exact List.drop_left' middle
  have third : (tagwriterText uid counter mac).drop 22 = hexUpper mac := by
    rw [← List.drop_drop (i := 1) (j := 21),last]
    rfl
  have mark : (tagwriterText uid counter mac)[14]? = some 'x' := by
    rw [← List.head?_drop,rest]
    rfl
  have mark' : (tagwriterText uid counter mac)[21]? = some 'x' := by
    rw [← List.head?_drop,last]
    rfl
  unfold splitTagwriter
  simp only [String.length_ofList,String.toList_ofList,strip_unspaced (tagwriter_unspaced uid counter mac)]
  rw [if_pos ⟨by omega,length,first ▸ allHexDigits_upper (hexUpper_upper _),mark,second ▸ allHexDigits_upper (hexUpper_upper _),mark',
    third ▸ allHexDigits_upper (hexUpper_upper _)⟩,first,second,third]
  cases ctr with
  | none =>
    cases cmac with
    | none => rfl
    | some count => simp only [Option.map_none,Option.map_some,zeroText_empty,if_true]; rfl
  | some count =>
    cases cmac with
    | none => simp only [Option.map_none,Option.map_some,zeroText_empty,if_true]; rfl
    | some count' => simp only [Option.map_some,zeroText_empty,if_true]; rfl

theorem tagwriter_parsed {mac : List Byte} (eight : mac.length = 8) {ctr cmac : Option ℕ} (short : ∀ count ∈ ctr, count ≤ 64)
    (short' : ∀ count ∈ cmac, count ≤ 64) :
    authenticateTap settings (tagwriterParams uid counter mac ctr cmac) = authenticateTap settings (plainParams uid counter mac) := by
  have bounded : ¬(tooLong (some (String.ofList (tagwriterText uid counter mac))) ∨
      ctrTooLong (ctr.map fun count => .text (zeroText count)) ∨ tooLong (cmac.map zeroText)) := by
    have length : (tagwriterText uid counter mac).length = 38 := by
      simp only [tagwriterText,List.length_append,List.length_cons,hexUpper_length,uid.2,ctrHex_length,eight]
    rintro (long | long | long)
    · simp [tooLong,length,MAX_PLAIN_HEX] at long
    · cases ctr with
      | none => cases long
      | some count =>
        have := short count rfl
        simp [ctrTooLong,zeroText,MAX_PLAIN_HEX] at long
        omega
    · cases cmac with
      | none => cases long
      | some count =>
        have := short' count rfl
        simp [tooLong,zeroText,MAX_PLAIN_HEX] at long
        omega
  rw [plain_parsed eight]
  unfold authenticateTap tagwriterParams
  simp only [Option.filter_none]
  rw [if_neg bounded,tagwriter_split eight]
  simp only [urlText_toList,parseUid_url,parseCtr_url,parseCmac_url eight,ok_bind]
  rfl

theorem stripHex_url (bytes : List Byte) : stripHex (some (urlText bytes)) = hexUpper bytes := by
  have upper := hexUpper_upper bytes
  have unmarked : ¬((hexUpper bytes).take 2 = "0x".toList ∨ (hexUpper bytes).take 2 = "0X".toList) := by
    rintro (start | start)
    · exact take_upper upper 'x' (.inl rfl) start
    · exact take_upper upper 'X' (.inr rfl) start
  unfold stripHex
  simp only [Option.getD_some,urlText_toList,strip_upper upper]
  exact if_neg unmarked

theorem urlText_nonempty {bytes : List Byte} (something : bytes ≠ []) : urlText bytes ≠ "" := by
  intro nothing
  have length := congrArg String.length nothing
  rw [urlText_length] at length
  have : bytes.length = 0 := by simpa using length
  exact something (List.eq_nil_of_length_eq_zero this)

-- The parameters of an encrypted message within the server's bounds.
structure Bounded (settings : Settings) (sent : SunParams) : Prop where
  piccData : sent.piccData.length = 16 ∨ sent.piccData.length = 24 ∧ settings.sdmLrp = true
  sdmmac : sent.sdmmac.length = 8
  enc : 16 ∣ sent.enc.length ∧ sent.enc.length ≤ 32

theorem encrypted_parsed {sent : SunParams} (bounded : Bounded settings sent) (uidText : Option String) (ctr : Option CtrParam) :
    authenticateTap settings (encryptedParams sent uidText ctr) =
      match settings.decryptTap sent.piccData sent.sdmmac (if sent.enc = [] then none else some sent.enc) with
      | none => .invalid {TapCheck.refused .badCmac with cmac := some sent.sdmmac
                                                         encrypted := true}
      | some (uid,counter) => .genuine uid counter sent.sdmmac true := by
  have picc_length : sent.piccData.length = 16 ∨ sent.piccData.length = 24 := bounded.piccData.imp_right And.left
  have something : sent.piccData ≠ [] := by
    intro nothing
    rw [nothing] at picc_length
    rcases picc_length with none_long | none_long <;> cases none_long
  have given : (some (urlText sent.piccData)).filter (· ≠ "") = some (urlText sent.piccData) := by
    simp [Option.filter,urlText_nonempty something]
  have lrp : ¬(sent.piccData.length = 24 ∧ settings.sdmLrp = false) := by
    rintro ⟨long,disabled⟩
    rcases bounded.piccData with short | ⟨-,enabled⟩
    · omega
    · rw [disabled] at enabled
      cases enabled
  have short : ¬((hexUpper sent.piccData).length > MAX_PICC_HEX ∨ (hexUpper sent.enc).length > MAX_ENC_HEX ∨
      tooLong (some (urlText sent.sdmmac)) = true) := by
    have enc_length := bounded.enc.2
    have mac_length := bounded.sdmmac
    simp only [hexUpper_length,MAX_PICC_HEX,MAX_ENC_HEX,tooLong,Option.any_some,urlText_length,MAX_PLAIN_HEX,decide_eq_true_eq]
    omega
  unfold authenticateTap encryptedParams
  simp only [given]
  unfold authenticateEncrypted
  simp only [stripHex_url]
  rw [if_neg short]
  simp only [fromHex_hexUpper,orRefuse,ok_bind,require_pass picc_length,require_pass lrp,urlText_toList,parseCmac_url bounded.sdmmac]
  by_cases empty : sent.enc = []
  · simp only [empty,hexUpper,List.flatMap_nil,List.isEmpty_nil,if_true]
    rfl
  · have filled_ : (hexUpper sent.enc).isEmpty = false := by
      rw [List.isEmpty_eq_false_iff]
      intro nothing
      have length := congrArg List.length nothing
      rw [hexUpper_length,List.length_nil] at length
      exact empty (List.eq_nil_of_length_eq_zero (by omega))
    have whole : sent.enc.length%16 = 0 := Nat.mod_eq_zero_of_dvd bounded.enc.1
    simp only [filled_,Bool.false_eq_true,if_false,require_pass whole,ok_bind,if_neg empty]
    rfl

-- A genuine tap was checked by one of the two.
theorem genuine_checked {params : TapParams} {mac : List Byte} {encrypted : Bool}
    (genuine : authenticateTap settings params = .genuine uid counter mac encrypted) :
    encrypted = false ∧ settings.validateTap uid counter mac = true ∨
      encrypted = true ∧ ∃ piccData enc, settings.decryptTap piccData mac enc = some (uid,counter) := by
  unfold authenticateTap at genuine
  split at genuine
  · split at genuine
    · cases genuine
    · unfold authenticateEncrypted at genuine
      dsimp only at genuine
      split at genuine
      · cases genuine
      · split at genuine
        · cases genuine
        · split at genuine
          · cases genuine
          · rename_i opened
            cases genuine
            exact .inr ⟨rfl,_,_,opened⟩
  · split at genuine
    · cases genuine
    · split at genuine
      · dsimp only at genuine
        split at genuine
        · cases genuine
        · split at genuine
          · rename_i valid
            cases genuine
            exact .inl ⟨rfl,valid⟩
          · cases genuine
      · cases genuine

theorem plainMac_length : (plainMac c config uid counter).length = 8 := by
  unfold plainMac sdmCmac
  exact sdmmac_length c _ _ _ _ _

theorem plain_genuine : authenticateTap (settings.withChips c config) (plainParams uid counter (plainMac c config uid counter)) =
    .genuine uid counter (plainMac c config uid counter) false := by
  rw [plain_parsed plainMac_length,if_pos (validateTap_iff.mpr rfl)]

theorem Composed.parts {mode : EncMode} {content : SunContent} {rand : List Byte} {sent : SunParams}
    (composed : Composed c config mode content rand sent) :
    getEncryptionMode sent.piccData = .ok mode ∧ FileSent c mode (fileKey c config content.uid) content.data content.file sent.enc ∧
      sent.sdmmac = calculateSdmmac c .separated (fileKey c config content.uid) content.identity (some sent.enc) mode := by
  have parts := (@chipMessage_iff c .separated mode (metaKey c config) (fileKey c config content.uid) sent.piccData sent.sdmmac (some sent.enc) rand
    content composed.valid).mp composed.composed
  have moded := picc_iff.mpr ⟨composed.valid.block,rand,composed.eight,parts.1⟩
  exact ⟨moded.1,parts.2⟩

theorem Composed.bounded {mode : EncMode} {content : SunContent} {rand : List Byte} {sent : SunParams}
    (composed : Composed c config mode content rand sent) (enabled : mode = .lrp → settings.sdmLrp = true)
    (short : content.file.length ≤ 32) : Bounded settings sent := by
  obtain ⟨moded,filed,mac⟩ := composed.parts
  have lengths := filed.whole
  refine ⟨?_,by rw [mac,sdmmac_length],lengths.1 ▸ lengths.2,by omega⟩
  unfold getEncryptionMode at moded
  rcases branch moded with ⟨length,-⟩ | ⟨-,moded⟩
  · exact .inl length
  · rcases branch moded with ⟨length,same⟩ | ⟨-,refused⟩
    · cases same
      exact .inr ⟨length,enabled rfl⟩
    · cases refused

variable (settings c config uid counter)

-- The law of a tap: each transport of what the chip sends is authenticated as the chip's UID and counter, the plain and
-- the AES message carry one MAC, and nothing else is authenticated so.
structure TapLaw : Prop where
  plain : authenticateTap (settings.withChips c config) (plainParams uid counter (plainMac c config uid counter)) =
    .genuine uid counter (plainMac c config uid counter) false
  tagwriter : ∀ ctr cmac : Option ℕ, (∀ count ∈ ctr, count ≤ 64) → (∀ count ∈ cmac, count ≤ 64) →
    authenticateTap (settings.withChips c config) (tagwriterParams uid counter (plainMac c config uid counter) ctr cmac) =
      .genuine uid counter (plainMac c config uid counter) false
  encrypted : ∀ mode content rand sent, Composed c config mode content rand sent → content.uid = uid → content.readCtr = some counter →
    content.file.length ≤ 32 → (mode = .lrp → settings.sdmLrp = true) → ∀ uidText ctr,
      authenticateTap (settings.withChips c config) (encryptedParams sent uidText ctr) = .genuine uid counter sent.sdmmac true
  sameMac : ∀ content rand sent, Composed c config .aes content rand sent → content.uid = uid → content.readCtr = some counter →
    content.file = [] → sent.sdmmac = plainMac c config uid counter
  onlyPlain : ∀ params mac, authenticateTap (settings.withChips c config) params = .genuine uid counter mac false →
    mac = plainMac c config uid counter
  onlyEncrypted : ∀ params mac, authenticateTap (settings.withChips c config) params = .genuine uid counter mac true →
    ∃ mode content rand sent, Composed c config mode content rand sent ∧ content.uid = uid ∧ content.readCtr = some counter ∧
      sent.sdmmac = mac

theorem tap_transports : TapLaw settings c config uid counter := by
  have plain : authenticateTap (settings.withChips c config) (plainParams uid counter (plainMac c config uid counter)) =
      .genuine uid counter (plainMac c config uid counter) false := plain_genuine
  refine ⟨plain,?_,?_,?_,?_,?_⟩
  · intro ctr cmac short short'
    rw [tagwriter_parsed plainMac_length short short']
    exact plain
  · intro mode content rand sent composed uid_is counted short enabled uidText ctr
    have bounded : Bounded (settings.withChips c config) sent := composed.bounded enabled short
    have opened : (settings.withChips c config).decryptTap sent.piccData sent.sdmmac (if sent.enc = [] then none else some sent.enc) =
        some (uid,counter) := by
      refine decryptTap_iff.mpr ⟨mode,content,rand,?_,uid_is,counted⟩
      have given : (if sent.enc = [] then none else some sent.enc).getD [] = sent.enc := by
        split <;> simp_all
      rw [given]
      exact composed
    rw [encrypted_parsed bounded,opened]
  · intro content rand sent composed uid_is counted empty
    obtain ⟨-,filed,mac⟩ := composed.parts
    have nothing : sent.enc = [] := by
      have lengths := filed.whole.1
      rw [empty] at lengths
      exact List.eq_nil_of_length_eq_zero lengths
    have identity : content.identity = uid.1 ++ (toBigEndian 3 counter.val).reverse := by
      rw [SunContent.identity,counted,uid_is,toBigEndian,List.reverse_reverse]
      rfl
    rw [mac,nothing,identity,uid_is]
    rfl
  · intro params mac genuine
    rcases genuine_checked genuine with ⟨-,valid⟩ | ⟨encrypted,-⟩
    · exact validateTap_iff.mp valid
    · cases encrypted
  · intro params mac genuine
    rcases genuine_checked genuine with ⟨plain,-⟩ | ⟨-,piccData,enc,opened⟩
    · cases plain
    · obtain ⟨mode,content,rand,composed,uid_is,counted⟩ := decryptTap_iff.mp opened
      exact ⟨mode,content,rand,_,composed,uid_is,counted,rfl⟩

end Deployed

-- One tap of a chip without file data, as a plain message and as an encrypted one.
namespace TwoWays
open Mirrored (chip)

def config : SdmConfig := ⟨.diversified,filled 0x42,.standard⟩
def counter : U24 := 61
def content : SunContent := ⟨0xc7,chip,some counter,[9,9,9,9,9],[]⟩
def settings : Settings := Settings.sample.withChips .sample config

theorem sent_once : ∃ sent, Composed .sample config .aes content [] sent := by
  have composed : (chipMessage .sample .separated .aes (metaKey .sample config) (fileKey .sample config chip) [] content).toOption.isSome = true := by
    decide +kernel
  obtain ⟨sent,result⟩ := exists_ok composed
  exact ⟨sent,⟨by decide,by decide,by decide,by decide,by decide,by decide,fun _ => rfl⟩,nofun,result⟩

theorem one_tap_two_ways : ∃ sent, Composed .sample config .aes content [] sent ∧
    authenticateTap settings (plainParams chip counter sent.sdmmac) = .genuine chip counter sent.sdmmac false ∧
    authenticateTap settings (encryptedParams sent none none) = .genuine chip counter sent.sdmmac true := by
  have law : TapLaw Settings.sample .sample config chip counter := tap_transports ..
  obtain ⟨sent,composed⟩ := sent_once
  have same := law.sameMac content [] sent composed rfl rfl rfl
  refine ⟨sent,composed,?_,?_⟩
  · rw [same]
    exact law.plain
  · exact law.encrypted .aes content [] sent composed rfl rfl (by decide) nofun none none

end TwoWays
end FlaconVault.Verifier
