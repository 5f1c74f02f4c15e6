import FlaconVault.Web.Canonical
import FlaconVault.Verifier.BundleStability
import FlaconVault.Verifier.Origins
import FlaconVault.Verifier.Sightings
namespace FlaconVault.Web
open Guards Json Schemas Verifier

-- The web client's reading of a signed bundle: the schema it is parsed with, its canonical text and its hash.
def isHexDigit (c : Char) : Bool := decide (48 ≤ c.toNat ∧ c.toNat ≤ 57 ∨ 97 ≤ c.toNat ∧ c.toNat ≤ 102)

def isHex0x (digits : ℕ) (text : String) : Bool :=
  match text.toList with
  | '0' :: 'x' :: rest => decide (rest.length = digits) && rest.all isHexDigit
  | _ => false

def hex32 : Schema := string (isHex0x 64)

def u8Max (high : Int) : Schema := between 0 (min 255 high)

def bit : Schema := union [number (· == 0),number (· == 1)]

def shortText (low high : ℕ) : Schema := string fun text => decide (low ≤ units text ∧ units text ≤ high)

def visualSchema : Schema := object [("loopIntact",nullable boolean),("note",shortText 0 280)]

def locationSchema : Schema := object [("country",nullable (shortText 2 2)),("city",nullable (shortText 0 80))]

def mediaSchema : Schema :=
  object [("type",enumeration ["SEAL_FRAMES","PHOTO"]),("sha256",hex32),("ar",nullable (string fun _ => true))]

def bundleShape : List (String × Schema) :=
  [("schema",literal BUNDLE_SCHEMA),
   ("serial",shortText 1 64),
   ("serialHash",hex32),
   ("uidHash",hex32),
   ("counter",between 0 0xffffffff),
   ("seal",object [("kind",enumeration ["BOX","NECK","LOOP"]),("uidHash",hex32)]),
   ("tamper",u8Max 3),
   ("indicators",object [("heat",u8Max 3),("humidity",u8Max 3),("uv",u8Max 3)]),
   ("heatLevels",tuple [bit,bit,bit,bit,bit,bit]),
   ("fill",between 0 100),
   ("visual",visualSchema),
   ("location",locationSchema),
   ("media",array mediaSchema),
   ("logger",nothing),
   ("session",object [("nonce",hex32),("issuedAt",integer)]),
   ("device",object [("platform",enumeration ["ANDROID_WEB","IOS_WEB","DESKTOP_WEB","SIMULATOR"])]),
   ("attester",object [("role",u8Max 4),("tier",u8Max 4),("pubkey",nullable (shortText 32 64))]),
   ("server",object [("keyId",u8Max 255),("verdict",string fun _ => true),("ts",integer),("sig",string (isHex0x 128))]),
   ("ts",integer)]

def ScanProofBundleSchema : Schema := object bundleShape

def canonicalBundle (numbers : NumberText) (bundle : Json) : Option (List Char) :=
  (ScanProofBundleSchema bundle).map (canonicalize numbers)

def bundleHash (numbers : NumberText) (sha256 : List Byte → Bytes32) (bundle : Json) : Option Bytes32 :=
  (canonicalBundle numbers bundle).map fun text => sha256 (utf8 text)

-- The spelling of keys: base58 of 32 bytes.
structure Base58 where
  spell : Pubkey → String
  length : ∀ key, 32 ≤ units (spell key) ∧ units (spell key) ≤ 44

def Base58.sample : Base58 := ⟨fun _ => String.ofList (List.replicate 32 '1'),fun _ => by decide⟩

-- What every signed bundle has.
structure Signable (bundle : Bundle) : Prop where
  serial : 1 ≤ units bundle.serial ∧ units bundle.serial ≤ 64
  counter : bundle.counter ≤ 0xffffffff
  tamper : bundle.tamper ≤ 3
  indicators : bundle.indicators.heat ≤ 3 ∧ bundle.indicators.humidity ≤ 3 ∧ bundle.indicators.uv ≤ 3
  heatLevels : bundle.heatLevels.length = 6 ∧ ∀ level ∈ bundle.heatLevels, level ≤ 1
  fill : bundle.fill ≤ 100
  country : ∀ country ∈ bundle.location.country, units country = 2
  issuedAt : bundle.issuedAt.natAbs < 2^53
  attester : bundle.attester.role ≤ 4 ∧ bundle.attester.tier ≤ 4
  sig : bundle.server.sig.length = 64
  signedAt : bundle.server.ts.natAbs < 2^53
  ts : bundle.ts.natAbs < 2^53

theorem accepts_shortText {low high : ℕ} {text : String} :
    Accepts (shortText low high) (.str text) ↔ low ≤ units text ∧ units text ≤ high := by
  unfold shortText
  rw [accepts_string,decide_eq_true_eq]

theorem accepts_natural {high : Int} {value : ℕ} (low : (value : Int) ≤ 255) (fits : (value : Int) ≤ high) :
    Accepts (u8Max high) (natural value) :=
  accepts_between.mpr ⟨Int.natCast_nonneg value,le_min low fits⟩

theorem accepts_enumeration {names : List String} {text : String} (named : text ∈ names) : Accepts (enumeration names) (.str text) :=
  accepts_string.mpr (List.contains_iff_mem.mpr named)

theorem hexChar_isHexDigit : ∀ digit < 16, isHexDigit (hexChar digit) = true := by decide

theorem isHex0x_hex0x (bytes : List Byte) : isHex0x (2*bytes.length) (hex0x bytes) = true := by
  have length : (hex bytes).length = 2*bytes.length := by
    unfold hex
    rw [List.length_flatMap]
    simp [Nat.mul_comm]
  have digits : (hex bytes).all isHexDigit = true := by
    rw [List.all_eq_true]
    intro c inside
    obtain ⟨byte,_,here⟩ := List.mem_flatMap.mp inside
    have bound := byte.isLt
    simp only [List.mem_cons,List.not_mem_nil,or_false] at here
    rcases here with high | low
    · exact high ▸ hexChar_isHexDigit _ (by omega)
    · exact low ▸ hexChar_isHexDigit _ (by omega)
  unfold isHex0x hex0x
  rw [String.toList_ofList]
  simp [length,digits]

theorem accepts_hex32 (bytes : Bytes32) : Accepts hex32 (.str (hex0x bytes.val)) := by
  have shown := isHex0x_hex0x bytes.val
  rw [bytes.property] at shown
  exact accepts_string.mpr shown

theorem accepts_bit {level : ℕ} (low : level ≤ 1) : Accepts bit (natural level) := by
  interval_cases level <;> rfl

theorem accepts_levels {levels : List ℕ} (length : levels.length = 6) (low : ∀ level ∈ levels, level ≤ 1) :
    Accepts (tuple [bit,bit,bit,bit,bit,bit]) (.arr (levels.map natural)) := by
  refine accepts_tuple ?_
  have bits : [bit,bit,bit,bit,bit,bit] = List.replicate levels.length bit := by
    rw [length]
    rfl
  rw [bits]
  clear bits length
  induction levels with
  | nil => exact .nil
  | cons level rest ih =>
    exact .cons (accepts_bit (low level List.mem_cons_self)) (ih fun other inside => low other (List.mem_cons_of_mem level inside))

theorem accepts_optional {schema : Schema} {text : Option String} (each : ∀ value ∈ text, Accepts schema (.str value)) :
    Accepts (nullable schema) (orNull .str text) := by
  cases text with
  | none => exact accepts_null schema
  | some value => exact accepts_nullable (each value rfl)

theorem accepts_media (media : Media) : Accepts mediaSchema (mediaJson media) := by
  refine accepts_object (by simp) ?_
  refine .cons ⟨rfl,accepts_enumeration (by simp)⟩ (.cons ⟨rfl,accepts_hex32 media.sha256⟩ (.cons ⟨rfl,?_⟩ .nil))
  exact accepts_optional fun _ _ => accepts_string.mpr rfl

theorem sealKindName_listed (kind : ℕ) : sealKindName kind ∈ ["BOX","NECK","LOOP"] := by
  unfold sealKindName
  split <;> simp

theorem platform_listed (platform : Platform) : platform.text ∈ ["ANDROID_WEB","IOS_WEB","DESKTOP_WEB","SIMULATOR"] := by
  cases platform <;> simp [Platform.text]

section spelled
variable (base58 : Base58)

theorem accepts_pubkey (key : Option Pubkey) : Accepts (nullable (shortText 32 64)) (orNull (keyJson base58.spell) key) := by
  cases key with
  | none => exact accepts_null _
  | some key =>
    obtain ⟨low,high⟩ := base58.length key
    exact accepts_nullable (accepts_shortText.mpr ⟨low,by omega⟩)

theorem accepts_bundle {bundle : Bundle} (signable : Signable bundle) (note : units bundle.note ≤ 280)
    (short : ∀ city ∈ bundle.location.city, units city ≤ 80) :
    Accepts ScanProofBundleSchema (.obj (buildBundle base58.spell bundle)) := by
  obtain ⟨heat,humidity,uv⟩ := signable.indicators
  obtain ⟨role,tier⟩ := signable.attester
  have counter := signable.counter
  have tamper := signable.tamper
  have fill := signable.fill
  have keyId := bundle.server.keyId.isLt
  have sig_shown : bundle.server.sig ≠ [] := by
    intro empty
    have length := signable.sig
    rw [empty] at length
    cases length
  have sig := isHex0x_hex0x bundle.server.sig
  rw [signable.sig] at sig
  refine accepts_object (bundle_nodup bundle) ?_
  refine .cons ⟨rfl,accepts_string.mpr (beq_self_eq_true _)⟩ ?_
  refine .cons ⟨rfl,accepts_shortText.mpr signable.serial⟩ ?_
  refine .cons ⟨rfl,accepts_hex32 _⟩ (.cons ⟨rfl,accepts_hex32 _⟩ ?_)
  refine .cons ⟨rfl,accepts_between.mpr ⟨by omega,by omega⟩⟩ ?_
  refine .cons ⟨rfl,accepts_object (by simp) ?_⟩ ?_
  · exact .cons ⟨rfl,accepts_enumeration (sealKindName_listed _)⟩ (.cons ⟨rfl,accepts_hex32 _⟩ .nil)
  refine .cons ⟨rfl,accepts_natural (by omega) (by omega)⟩ ?_
  refine .cons ⟨rfl,accepts_object (by simp) ?_⟩ ?_
  · refine .cons ⟨rfl,accepts_natural (by omega) (by omega)⟩ ?_
    exact .cons ⟨rfl,accepts_natural (by omega) (by omega)⟩ (.cons ⟨rfl,accepts_natural (by omega) (by omega)⟩ .nil)
  refine .cons ⟨rfl,accepts_levels signable.heatLevels.1 signable.heatLevels.2⟩ ?_
  refine .cons ⟨rfl,accepts_between.mpr ⟨by omega,by omega⟩⟩ ?_
  refine .cons ⟨rfl,accepts_object (by simp) ?_⟩ ?_
  · exact .cons ⟨rfl,accepts_null _⟩ (.cons ⟨rfl,accepts_shortText.mpr ⟨by omega,note⟩⟩ .nil)
  refine .cons ⟨rfl,accepts_object (by simp) ?_⟩ ?_
  · refine .cons ⟨rfl,accepts_optional ?_⟩ (.cons ⟨rfl,accepts_optional ?_⟩ .nil)
    · intro country named
      have two := signable.country country named
      exact accepts_shortText.mpr ⟨two.ge,two.le⟩
    · intro city named
      exact accepts_shortText.mpr ⟨by omega,short city named⟩
  refine .cons ⟨rfl,accepts_array ?_⟩ ?_
  · intro item inside
    obtain ⟨media,_,rfl⟩ := List.mem_map.mp inside
    exact accepts_media media
  refine .cons ⟨rfl,rfl⟩ ?_
  refine .cons ⟨rfl,accepts_object (by simp) ?_⟩ ?_
  · exact .cons ⟨rfl,accepts_hex32 _⟩ (.cons ⟨rfl,accepts_integer _⟩ .nil)
  refine .cons ⟨rfl,accepts_object (by simp) ?_⟩ ?_
  · exact .cons ⟨rfl,accepts_enumeration (platform_listed _)⟩ .nil
  refine .cons ⟨rfl,accepts_object (by simp) ?_⟩ ?_
  · refine .cons ⟨rfl,accepts_natural (by omega) (by omega)⟩ (.cons ⟨rfl,accepts_natural (by omega) (by omega)⟩ ?_)
    exact .cons ⟨rfl,accepts_pubkey base58 _⟩ .nil
  refine .cons ⟨rfl,accepts_object (by simp) ?_⟩ ?_
  · rw [if_neg sig_shown]
    refine .cons ⟨rfl,accepts_natural (by omega) (by omega)⟩ (.cons ⟨rfl,accepts_string.mpr rfl⟩ ?_)
    exact .cons ⟨rfl,accepts_integer _⟩ (.cons ⟨rfl,accepts_string.mpr sig⟩ .nil)
  exact .cons ⟨rfl,accepts_integer _⟩ .nil

theorem refuses_shortText {high : ℕ} {text : String} (long : high < units text) : shortText 0 high (.str text) = none := by
  unfold shortText string
  simp [long]

-- A note or a city of more units is refused, whatever else the bundle has.
theorem refuses_note {bundle : Bundle} (long : 280 < units bundle.note) :
    ScanProofBundleSchema (.obj (buildBundle base58.spell bundle)) = none := by
  have refused : visualSchema (.obj [("loopIntact",.null),("note",.str bundle.note)]) = none :=
    object_refuses "note" (by simp) rfl (refuses_shortText long)
  exact object_refuses "visual" (by simp [bundleShape]) rfl refused

theorem refuses_city {bundle : Bundle} {city : String} (named : bundle.location.city = some city) (long : 80 < units city) :
    ScanProofBundleSchema (.obj (buildBundle base58.spell bundle)) = none := by
  have refused : locationSchema (.obj [("country",orNull .str bundle.location.country),("city",orNull .str bundle.location.city)]) =
      none := by
    rw [named]
    exact object_refuses "city" (List.mem_cons_of_mem _ List.mem_cons_self) rfl (refuses_shortText long)
  exact object_refuses "location" (by simp [bundleShape]) rfl refused

theorem plain_null : plain .null = true := rfl

theorem plain_str (text : String) : plain (.str text) = true := rfl

theorem plain_arr (items : List Json) : plain (.arr items) = plainAll items := rfl

theorem plain_obj (fields : List (String × Json)) : plain (.obj fields) = plainFields fields := rfl

theorem plain_orNull {α : Type} {make : α → Json} (value : Option α) (each : ∀ value, plain (make value) = true) :
    plain (orNull make value) = true := by
  cases value with
  | none => rfl
  | some value => exact each value

theorem plainAll_map {α : Type} {make : α → Json} (values : List α) (each : ∀ value ∈ values, plain (make value) = true) :
    plainAll (values.map make) = true := by
  induction values with
  | nil => rfl
  | cons first rest ih =>
    rw [List.map_cons,plainAll,each first List.mem_cons_self,ih fun other inside => each other (List.mem_cons_of_mem first inside)]
    rfl

theorem plain_natural {value : ℕ} (low : value < 2^53) : plain (natural value) = true := by
  unfold natural
  simp only [plain,decide_eq_true_eq,Int.natAbs_natCast]
  exact low

theorem plain_media (media : Media) : plain (mediaJson media) = true := by
  have ar : plain (orNull .str media.ar) = true := plain_orNull media.ar fun _ => rfl
  simp only [mediaJson,plain,plainFields,plainField,ar,Bool.and_true]
  decide

theorem plain_bundle {bundle : Bundle} (signable : Signable bundle) : plain (.obj (buildBundle base58.spell bundle)) = true := by
  have small {value : ℕ} (low : value ≤ 0xffffffff) : plain (natural value) = true := plain_natural (by omega)
  have levels : plainAll (bundle.heatLevels.map natural) = true := by
    refine plainAll_map bundle.heatLevels ?_
    intro level inside
    exact small ((signable.heatLevels.2 level inside).trans (by decide))
  have media : plainAll (bundle.media.map mediaJson) = true := plainAll_map bundle.media fun media _ => plain_media media
  have country : plain (orNull .str bundle.location.country) = true := plain_orNull _ fun _ => rfl
  have city : plain (orNull .str bundle.location.city) = true := plain_orNull _ fun _ => rfl
  have pubkey : plain (orNull (keyJson base58.spell) bundle.attester.pubkey) = true := plain_orNull _ fun _ => rfl
  have sig : plain (if bundle.server.sig = [] then .null else .str (hex0x bundle.server.sig)) = true := by
    split <;> rfl
  have issuedAt : plain (.int bundle.issuedAt) = true := decide_eq_true signable.issuedAt
  have signedAt : plain (.int bundle.server.ts) = true := decide_eq_true signable.signedAt
  have ts : plain (.int bundle.ts) = true := decide_eq_true signable.ts
  have counter := small signable.counter
  have tamper := small (signable.tamper.trans (by decide))
  have fill := small (signable.fill.trans (by decide))
  have heat := small (signable.indicators.1.trans (by decide))
  have humidity := small (signable.indicators.2.1.trans (by decide))
  have uv := small (signable.indicators.2.2.trans (by decide))
  have role := small (signable.attester.1.trans (by decide))
  have tier := small (signable.attester.2.trans (by decide))
  have keyId : plain (natural bundle.server.keyId.val) = true := small (bundle.server.keyId.isLt.le.trans (by decide))
  simp only [buildBundle,plain_obj,plain_arr,plain_str,plain_null,plainFields,plainField,levels,media,country,city,pubkey,sig,issuedAt,signedAt,
    ts,counter,tamper,fill,heat,humidity,uv,role,tier,keyId,Bool.and_true]
  decide

end spelled

theorem units_basic {text : String} (is_basic : basic text = true) : units text = text.length := by
  unfold units
  rw [utf16_basic is_basic,List.length_map,String.length_toList]

theorem isSerialChar_low {c : Char} (shown : isSerialChar c = true) : c.toNat < 0x10000 := by
  unfold isSerialChar isAlnum at shown
  simp only [Bool.or_eq_true,beq_iff_eq,decide_eq_true_eq] at shown
  rcases shown with ((letter | same) | same) | same
  · omega
  · subst same
    decide
  · subst same
    decide
  · subst same
    decide

theorem basic_serial {serial : String} (valid : validSerial serial = true) : basic serial = true ∧ 1 ≤ serial.length := by
  unfold validSerial at valid
  dsimp only at valid
  split at valid
  · cases valid
  · rename_i first rest shown
    simp only [Bool.and_eq_true,decide_eq_true_eq,List.all_eq_true] at valid
    have low (c : Char) (inside : c ∈ first :: rest) : c.toNat < 0x10000 := by
      rcases List.mem_cons.mp inside with here | later
      · refine isSerialChar_low ?_
        unfold isSerialChar
        rw [here,valid.1.1]
        rfl
      · exact isSerialChar_low (valid.2 c later)
    have text : serial.toList = first :: rest ∨ serial.toList = (first :: rest) ++ ['\n'] := by
      split at shown
      · rename_i ends
        right
        rw [← shown]
        exact (List.dropLast_append_getLast? _ ends).symm
      · exact .inl shown
    unfold basic
    rw [← String.length_toList,List.all_eq_true]
    rcases text with text | text
    · rw [text]
      exact ⟨fun c inside => decide_eq_true (low c inside),by simp⟩
    · rw [text]
      refine ⟨fun c inside => decide_eq_true ?_,by simp⟩
      rcases List.mem_append.mp inside with plain | ended
      · exact low c plain
      · rw [List.mem_singleton.mp ended]
        decide

def PlainSerial (serial : String) : Prop := basic serial = true ∧ 1 ≤ serial.length ∧ serial.length ≤ 64

theorem units_country {text country : String} (read : countryOf text = some country) : units country = 2 := by
  unfold countryOf at read
  split at read
  · rename_i fits
    have two : text.toList.length = 2 := (String.length_toList (s := text)).trans fits.1
    have same := Option.some.inj read
    have is_basic : basic country = true := by
      rw [← same]
      unfold basic
      rw [String.toList_ofList,List.all_eq_true]
      intro c inside
      obtain ⟨letter,there,rfl⟩ := List.mem_map.mp inside
      have low := List.all_eq_true.mp fits.2 letter there
      unfold isLetter at low
      simp only [decide_eq_true_eq] at low ⊢
      unfold upper
      split
      · rw [Char.toNat_ofNat]
        split <;> omega
      · omega
    rw [units_basic is_basic,← same]
    simp [two]
  · cases read

-- The texts whose length the two sides count differently, as a request sends them.
def FitsUnits (body : VerifyBody) : Prop := units body.note ≤ 280 ∧ ∀ city ∈ body.location.bind (·.city), units city ≤ 80

-- The web client accepts the bundle of a signed scan, and gets its canonical text and its hash again.
structure Agrees (numbers : NumberText) (base58 : Base58) (sha256 : List Byte → Bytes32) (scan : SignedScan) : Prop where
  accepted : (ScanProofBundleSchema (.obj (buildBundle base58.spell scan.bundle))).isSome
  canonical : canonicalBundle numbers (.obj (buildBundle base58.spell scan.bundle)) =
    some (canonicalJson (.obj (buildBundle base58.spell scan.bundle)))
  hash : bundleHash numbers sha256 (.obj (buildBundle base58.spell scan.bundle)) = some scan.bundleHash

section agreement
variable (numbers : NumberText) (base58 : Base58) (settings : Settings) (sha256 : List Byte → Bytes32) (run : Verifier.Run)

theorem signable_at {n : ℕ} {body : VerifyBody} {around : Surroundings} {check : TapCheck} {scan : SignedScan}
    (signature : ∀ msg, (settings.sign msg).length = 64) (admitted : ∀ n, Admitted settings (run.actions n))
    (asked : run.actions n = .verify body around) (signed : run.signed (settings.hashing base58.spell sha256) n = some (check,scan)) :
    Signable scan.bundle ∧ scan.bundleHash = sha256 (utf8 (canonicalJson (.obj (buildBundle base58.spell scan.bundle)))) ∧
      scan.bundle.note = body.note ∧ scan.bundle.location = body.location.getD ⟨none,none⟩ := by
  obtain ⟨_,_,answer,action,told,_,scanned⟩ := run.signed_told _ signed
  obtain ⟨rfl,rfl⟩ := Action.verify.inj (asked.symm.trans action)
  obtain ⟨row,session,uidHash,counter,mediaHash,msg,stored,live,hashed,bundle⟩ := (run.verifying_at _ action told).bundled scanned
  obtain ⟨kept,present,same⟩ := stored
  have serials : run.Fits (settings.hashing base58.spell sha256) PlainSerial n := by
    refine run.fits _ ?_ n
    intro k body reads now serial posted named valid
    have known := admitted k
    rw [posted] at known
    exact ⟨(basic_serial valid).1,(basic_serial valid).2,known serial named⟩
  have fits := serials.seals kept present
  obtain ⟨k,_,now,issued,clock⟩ := run.session_clock _ live.found live.unused
  have known := admitted n
  rw [asked] at known
  obtain ⟨_,located,signedAt⟩ := known
  refine ⟨?_,hashed,bundle ▸ rfl,bundle ▸ rfl⟩
  rw [bundle]
  refine ⟨?_,?_,?_,⟨?_,?_,?_⟩,⟨?_,?_⟩,?_,?_,?_,⟨?_,?_⟩,signature msg,signedAt,signedAt⟩
  · rw [same] at fits
    have units_is : units row.serial = row.serial.length := units_basic fits.1
    exact ⟨units_is.symm ▸ fits.2.1,units_is.symm ▸ fits.2.2⟩
  · exact counter.isLt.le.trans (by decide)
  · exact (by decide : Tamper.UNKNOWN ≤ 3)
  · exact Nat.lt_succ_iff.mp body.heat.isLt
  · exact Nat.lt_succ_iff.mp body.humidity.isLt
  · exact Nat.lt_succ_iff.mp body.uv.isLt
  · exact (List.length_map _).trans body.heatLevels.property
  · intro level inside
    obtain ⟨shown,_,rfl⟩ := List.mem_map.mp inside
    exact Nat.lt_succ_iff.mp shown.isLt
  · exact Nat.lt_succ_iff.mp body.fill.isLt
  · intro country named
    cases sent : body.location with
    | none =>
      have named : country ∈ (body.location.getD ⟨none,none⟩).country := named
      rw [sent] at named
      cases named
    | some location =>
      have named : country ∈ (body.location.getD ⟨none,none⟩).country := named
      rw [sent] at named
      obtain ⟨text,city,read⟩ := located location sent
      unfold locationOf at read
      split at read
      · cases read
      · have same := Option.some.inj read
        rw [← same] at named
        obtain ⟨_,_,read⟩ := Option.bind_eq_some_iff.mp named
        exact units_country read
  · have known := admitted k
    rw [issued] at known
    have issuedAt : session.issuedAt.natAbs < 2^53 := clock ▸ known
    exact issuedAt
  · exact Nat.lt_succ_iff.mp body.role.isLt
  · exact Nat.lt_succ_iff.mp body.tier.isLt

theorem bundle_agreement {n : ℕ} {body : VerifyBody} {around : Surroundings} {check : TapCheck} {scan : SignedScan}
    (signature : ∀ msg, (settings.sign msg).length = 64) (admitted : ∀ n, Admitted settings (run.actions n))
    (asked : run.actions n = .verify body around) (signed : run.signed (settings.hashing base58.spell sha256) n = some (check,scan)) :
    Agrees numbers base58 sha256 scan ↔ FitsUnits body := by
  obtain ⟨signable,hashed,note,location⟩ := signable_at base58 settings sha256 run signature admitted asked signed
  have city : scan.bundle.location.city = body.location.bind (·.city) := by
    rw [location]
    cases body.location <;> rfl
  constructor
  · intro agrees
    rw [FitsUnits,← note,← city]
    refine ⟨?_,?_⟩
    · by_contra long
      have accepted := agrees.accepted
      rw [refuses_note base58 (not_le.mp long)] at accepted
      cases accepted
    · intro city named
      by_contra long
      have accepted := agrees.accepted
      rw [refuses_city base58 named (not_le.mp long)] at accepted
      cases accepted
  · intro fits
    rw [FitsUnits,← note,← city] at fits
    have accepted : ScanProofBundleSchema (.obj (buildBundle base58.spell scan.bundle)) =
        some (.obj (buildBundle base58.spell scan.bundle)) := accepts_bundle base58 signable fits.1 fits.2
    have canonical : canonicalBundle numbers (.obj (buildBundle base58.spell scan.bundle)) =
        some (canonicalJson (.obj (buildBundle base58.spell scan.bundle))) := by
      unfold canonicalBundle
      rw [accepted,Option.map_some,canonicalize_plain numbers _ (plain_bundle base58 signable)]
      rfl
    refine ⟨by rw [accepted]; rfl,canonical,?_⟩
    unfold bundleHash
    rw [canonical,hashed]
    rfl

end agreement

-- A note of 141 characters, each two units long.
namespace LongNote

def body : VerifyBody := {Sighted.body with note := String.ofList (List.replicate 141 (Char.ofNat 0x1f600))}

def run : Verifier.Run := ⟨fun
  | 6 => .verify body {Sighted.around with tapIds := [8]}
  | n => Sighted.run.actions n⟩

def sha256 (bytes : List Byte) : Bytes32 := hashOf bytes

def deployed : Settings := Settings.sample.hashing Base58.sample.spell sha256

theorem signature (msg : List Byte) : (Settings.sample.sign msg).length = 64 := by
  simp [Settings.sample,bytesOf]

theorem note_characters : body.note.toList = List.replicate 141 (Char.ofNat 0x1f600) := String.toList_ofList

theorem note_length : body.note.length = 141 := by
  rw [← String.length_toList,note_characters,List.length_replicate]

theorem note_units : units body.note = 282 := by
  unfold units utf16
  rw [note_characters]
  decide +kernel

theorem signs : (run.signed deployed 6).isSome = true := by decide +kernel

theorem admitted (n : ℕ) : Admitted Settings.sample (run.actions n) := by
  have posted (type : EventType) (txSig : Signature) (uid : Option String) (reads : ChainReads) :
      Admitted Settings.sample (.postEvent (Attachments.post type txSig uid) reads Attachments.now) := by
    intro serial named
    have same : Attachments.serial = serial := Option.some.inj named
    rw [← same]
    decide
  have sighted (n : ℕ) (other : n ≠ 6) : Admitted Settings.sample (Sighted.run.actions n) := by
    unfold Sighted.run
    dsimp only
    split
    · exact posted _ _ _ _
    · exact posted _ _ _ _
    · exact (by decide : Attachments.now.val.natAbs < 2^53)
    · trivial
    · exact absurd rfl other
    · trivial
    · trivial
    · trivial
  unfold run
  dsimp only
  split
  · exact ⟨note_length.trans_le (by decide),fun _ => nofun,by decide⟩
  · rename_i other
    exact sighted n other

theorem note_refused : (∀ n, Admitted Settings.sample (run.actions n)) ∧ ∃ check scan, run.signed deployed 6 = some (check,scan) ∧
    ∀ numbers, ¬Agrees numbers Base58.sample sha256 scan := by
  refine ⟨admitted,?_⟩
  obtain ⟨⟨check,scan⟩,signed⟩ := Option.isSome_iff_exists.mp signs
  refine ⟨check,scan,signed,?_⟩
  intro numbers agrees
  obtain ⟨_,_,note,_⟩ := signable_at Base58.sample Settings.sample sha256 run signature admitted rfl signed
  have accepted := agrees.accepted
  have long : 280 < units body.note := by
    rw [note_units]
    decide
  rw [refuses_note Base58.sample (note ▸ long)] at accepted
  cases accepted

theorem note_agreement : ∃ check scan, run.signed deployed 6 = some (check,scan) ∧
    (Agrees .sample Base58.sample sha256 scan ↔ FitsUnits body) := by
  obtain ⟨⟨check,scan⟩,signed⟩ := Option.isSome_iff_exists.mp signs
  exact ⟨check,scan,signed,bundle_agreement .sample Base58.sample Settings.sample sha256 run signature admitted rfl signed⟩

end LongNote
end FlaconVault.Web
