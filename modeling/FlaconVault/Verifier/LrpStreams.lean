import FlaconVault.Lib.Guards
import FlaconVault.Lib.Layouts
import FlaconVault.Verifier.Lrp
namespace FlaconVault.Verifier
open Blocks Guards

-- Two LRP objects of one key and counter, one that encrypts a sequence of messages and one that decrypts it.

theorem joined_blocks (blocks : List Block) : ∀ raw ∈ blocks.map (·.1), raw.length = 16 := by
  intro raw inside
  obtain ⟨block,-,rfl⟩ := List.mem_map.mp inside
  exact block.2

theorem joined_length (blocks : List Block) : (joined blocks).length = 16*blocks.length := by
  induction blocks with
  | nil => rfl
  | cons block rest ih =>
    have here := block.2
    simp only [joined,List.map_cons,List.flatten_cons,List.length_append,List.length_cons] at ih ⊢
    omega

theorem joined_append (front back : List Block) : joined (front ++ back) = joined front ++ joined back := by
  simp [joined]

-- Cutting into blocks and putting together are inverse to each other.
theorem wholeBlocks_map (blocks : List Block) : wholeBlocks (blocks.map (·.1)) = .ok blocks := by
  induction blocks with
  | nil => rfl
  | cons block rest ih =>
    rw [List.map_cons,wholeBlocks,dif_pos block.2,ih]
    rfl

theorem wholeBlocks_sound {raws : List (List Byte)} {blocks : List Block} (whole : wholeBlocks raws = .ok blocks) :
    raws = blocks.map (·.1) := by
  induction raws generalizing blocks with
  | nil =>
    cases whole
    rfl
  | cons raw rest ih =>
    unfold wholeBlocks at whole
    split at whole
    · obtain ⟨later,read,same⟩ := bind_ok.mp whole
      cases same
      rw [List.map_cons,← ih read]
    · cases whole

theorem wholeBlocks_iff {data : List Byte} {blocks : List Block} : wholeBlocks (blocksOf 16 data) = .ok blocks ↔ data = joined blocks := by
  constructor
  · intro whole
    have pieces := wholeBlocks_sound whole
    rw [joined,← pieces]
    exact (flatten_blocksOf (by norm_num) data).symm
  · intro same
    rw [same,joined,blocksOf_flatten (by norm_num) (joined_blocks blocks)]
    exact wholeBlocks_map blocks

theorem exists_joined {data : List Byte} (whole : 16 ∣ data.length) : ∃ blocks, data = joined blocks := by
  have full := blocksOf_full (by norm_num) whole
  have found : ∀ raws : List (List Byte), (∀ raw ∈ raws, raw.length = 16) → ∃ blocks, wholeBlocks raws = .ok blocks := by
    intro raws
    induction raws with
    | nil => exact fun _ => ⟨[],rfl⟩
    | cons raw rest ih =>
      intro all
      obtain ⟨later,read⟩ := ih fun other inside => all other (List.mem_cons_of_mem _ inside)
      exact ⟨⟨raw,all raw List.mem_cons_self⟩ :: later,by rw [wholeBlocks,dif_pos (all raw List.mem_cons_self),read]; rfl⟩
  obtain ⟨blocks,read⟩ := found (blocksOf 16 data) full
  exact ⟨blocks,wholeBlocks_iff.mp read⟩

-- The padding is found again.
theorem removePad_zeros (count : ℕ) (data : List Byte) : removePad (data ++ 0x80 :: List.replicate count 0) = .ok data := by
  unfold removePad
  rw [List.reverse_append,List.reverse_cons,List.reverse_replicate,List.append_assoc]
  induction count with
  | zero => simp [removePadReversed]
  | succ count ih =>
    rw [List.replicate_succ,List.cons_append,removePadReversed,if_neg (by decide),if_neg (by decide)]
    exact ih

theorem fromBigEndian_toBigEndian {width value : ℕ} (fits : value < 256^width) : fromBigEndian (toBigEndian width value) = value := by
  rw [fromBigEndian,toBigEndian,List.reverse_reverse]
  exact Bytes.fromLittleEndian_littleEndian fits

theorem fromLittleEndian_zeros (width : ℕ) : Bytes.fromLittleEndian (List.replicate width 0) = 0 := by
  induction width with
  | zero => rfl
  | succ width ih =>
    rw [List.replicate_succ,Bytes.fromLittleEndian,ih]
    rfl

theorem incrCounter_length (r : List Byte) : (incrCounter r).length = r.length := by
  unfold incrCounter
  dsimp only
  split
  · exact List.length_replicate
  · exact toBigEndian_length _ _

theorem incrCounter_value (r : List Byte) : fromBigEndian (incrCounter r) = (fromBigEndian r + 1)%256^r.length := by
  have bound := Bytes.fromLittleEndian_lt r.reverse
  rw [List.length_reverse] at bound
  unfold incrCounter
  dsimp only
  split
  · rename_i last
    have all : fromBigEndian r + 1 = 256^r.length := Nat.le_antisymm bound last
    rw [all,Nat.mod_self,fromBigEndian,List.reverse_replicate]
    exact fromLittleEndian_zeros r.length
  · rename_i below
    rw [fromBigEndian_toBigEndian (not_le.mp below),Nat.mod_eq_of_lt (not_le.mp below)]

-- The counter runs through all its values before one comes again.
theorem incrCounter_steps (r : List Byte) (n : ℕ) :
    (incrCounter^[n] r).length = r.length ∧ fromBigEndian (incrCounter^[n] r) = (fromBigEndian r + n)%256^r.length := by
  have bound := Bytes.fromLittleEndian_lt r.reverse
  rw [List.length_reverse] at bound
  induction n with
  | zero => exact ⟨rfl,(Nat.mod_eq_of_lt bound).symm⟩
  | succ n ih =>
    obtain ⟨length,value⟩ := ih
    rw [Function.iterate_succ_apply',incrCounter_length,incrCounter_value,length,value]
    refine ⟨rfl,?_⟩
    rw [Nat.mod_add_mod,Nat.add_assoc]

theorem incrCounter_fresh (r : List Byte) {i j : ℕ} (first : i < 256^r.length) (second : j < 256^r.length)
    (same : incrCounter^[i] r = incrCounter^[j] r) : i = j := by
  have values := congrArg fromBigEndian same
  rw [(incrCounter_steps r i).2,(incrCounter_steps r j).2] at values
  have congruent : i ≡ j [MOD 256^r.length] := Nat.ModEq.add_left_cancel' (fromBigEndian r) values
  exact Nat.ModEq.eq_of_lt_of_lt congruent first second

namespace Lrp
variable {aes : Aes} {lrp moved : Lrp}

def framed (lrp : Lrp) (data : List Byte) : List Byte := if lrp.pad then Blocks.pad 16 0x80 0 data else data

-- What an object can send: anything with padding, else whole blocks, at least one.
def Sendable (lrp : Lrp) (data : List Byte) : Prop := lrp.pad = true ∨ data ≠ [] ∧ 16 ∣ data.length

def after (lrp : Lrp) (blocks : List Block) : Lrp := {lrp with r := incrCounter^[blocks.length] lrp.r}

def sentBlocks (aes : Aes) (lrp : Lrp) (blocks : List Block) : List Block :=
  (counterRun (lrp.eval aes) incrCounter aes.encrypt lrp.r blocks).2

theorem framed_whole {data : List Byte} (sendable : lrp.Sendable data) : ∃ blocks, lrp.framed data = joined blocks := by
  apply exists_joined
  unfold framed
  split
  · exact pad_dvd (by norm_num) _ _ data
  · rename_i unpadded
    rcases sendable with padded | ⟨-,whole⟩
    · exact absurd padded unpadded
    · exact whole

theorem plainStream_iff {data stream : List Byte} : lrp.plainStream data = .ok stream ↔ lrp.Sendable data ∧ lrp.framed data = stream := by
  unfold plainStream Sendable framed
  cases lrp.pad with
  | true => simp
  | false =>
    simp only [Bool.false_eq_true,if_false,false_or]
    by_cases whole : data.length%16 = 0
    · by_cases empty : data.length = 0
      · have nothing := List.eq_nil_of_length_eq_zero empty
        simp [nothing]
      · have something : data ≠ [] := fun nothing => empty (by rw [nothing]; rfl)
        rw [if_neg (not_not.mpr whole),if_neg empty]
        simp [something,Nat.dvd_of_mod_eq_zero whole]
    · have partial_ : ¬16 ∣ data.length := fun divides => whole (Nat.mod_eq_zero_of_dvd divides)
      rw [if_pos whole]
      simp [partial_]

theorem encrypt_iff {data sent : List Byte} :
    lrp.encrypt aes data = .ok (moved,sent) ↔
      lrp.Sendable data ∧ ∃ blocks, lrp.framed data = joined blocks ∧ moved = lrp.after blocks ∧ sent = joined (sentBlocks aes lrp blocks) := by
  unfold encrypt
  simp only [bind_ok,plainStream_iff,wholeBlocks_iff,pure_ok,Prod.mk.injEq,counterRun_counter]
  constructor
  · rintro ⟨stream,⟨sendable,framed_is⟩,blocks,whole,here,there⟩
    exact ⟨sendable,blocks,framed_is.trans whole,here.symm,there.symm⟩
  · rintro ⟨sendable,blocks,whole,here,there⟩
    exact ⟨joined blocks,⟨sendable,whole⟩,blocks,rfl,here.symm,there.symm⟩

-- Decrypting what was sent gives the message, and moves the counter as sending it did.
theorem decrypt_sent {data : List Byte} {blocks : List Block} (whole : lrp.framed data = joined blocks) :
    lrp.decrypt aes (joined (sentBlocks aes lrp blocks)) = .ok (lrp.after blocks,data) := by
  have undone : counterRun (lrp.eval aes) incrCounter aes.decrypt lrp.r (sentBlocks aes lrp blocks) = (incrCounter^[blocks.length] lrp.r,blocks) := by
    rw [sentBlocks,counterRun_undone aes.decrypt_encrypt,counterRun_counter]
  have read : lrp.unpadded (joined blocks) = .ok data := by
    rw [← whole]
    unfold unpadded framed
    cases lrp.pad with
    | true => exact removePad_zeros _ data
    | false => rfl
  unfold decrypt
  rw [wholeBlocks_iff.mpr rfl,ok_bind]
  simp only [undone,read,ok_bind]
  rfl

-- The messages of a session as one run of the counter over all their blocks.
structure Session (aes : Aes) (lrp last : Lrp) (messages sent : List (List Byte)) : Prop where
  opened : lrp.decryptAll aes sent = .ok (last,messages)
  stream : ∃ blocks, (messages.map lrp.framed).flatten = joined blocks ∧ sent.flatten = joined (sentBlocks aes lrp blocks) ∧
    last = lrp.after blocks

theorem session_of_encrypted {last : Lrp} {messages sent : List (List Byte)} (encrypted : lrp.encryptAll aes messages = .ok (last,sent)) :
    Session aes lrp last messages sent := by
  induction messages generalizing lrp sent with
  | nil =>
    cases encrypted
    exact ⟨rfl,[],rfl,rfl,rfl⟩
  | cons message rest ih =>
    obtain ⟨⟨moved,first⟩,here,encrypted⟩ := bind_ok.mp encrypted
    obtain ⟨⟨last',later⟩,there,same⟩ := bind_ok.mp encrypted
    cases same
    obtain ⟨-,blocks,whole,rfl,rfl⟩ := encrypt_iff.mp here
    obtain ⟨opened,blocks',whole',stream,rest_last⟩ := ih there
    refine ⟨?_,blocks ++ blocks',?_,?_,?_⟩
    · simp only [decryptAll,decrypt_sent whole,ok_bind,opened]
      rfl
    · rw [List.map_cons,List.flatten_cons,joined_append,whole]
      exact congrArg (joined blocks ++ ·) whole'
    · have run : sentBlocks aes lrp (blocks ++ blocks') = sentBlocks aes lrp blocks ++ sentBlocks aes (lrp.after blocks) blocks' :=
        counterRun_append aes.encrypt lrp.r blocks blocks'
      rw [List.flatten_cons,stream,← joined_append]
      exact congrArg joined run.symm
    · rw [rest_last]
      unfold after
      rw [List.length_append,Nat.add_comm,Function.iterate_add_apply]

theorem encryptAll_iff {messages : List (List Byte)} :
    (∃ last sent, lrp.encryptAll aes messages = .ok (last,sent)) ↔ ∀ message ∈ messages, lrp.Sendable message := by
  induction messages generalizing lrp with
  | nil => exact ⟨fun _ message inside => (by cases inside),fun _ => ⟨lrp,[],rfl⟩⟩
  | cons message rest ih =>
    constructor
    · rintro ⟨last,sent,encrypted⟩
      obtain ⟨⟨moved,first⟩,here,encrypted⟩ := bind_ok.mp encrypted
      obtain ⟨⟨last',later⟩,there,-⟩ := bind_ok.mp encrypted
      obtain ⟨sendable,blocks,-,rfl,-⟩ := encrypt_iff.mp here
      have all := ih.mp ⟨last',later,there⟩
      intro other inside
      rcases List.mem_cons.mp inside with rfl | inside
      · exact sendable
      · exact all other inside
    · intro sendable
      have here := sendable message List.mem_cons_self
      obtain ⟨blocks,whole⟩ := framed_whole here
      have first : lrp.encrypt aes message = .ok (lrp.after blocks,joined (sentBlocks aes lrp blocks)) :=
        encrypt_iff.mpr ⟨here,blocks,whole,rfl,rfl⟩
      obtain ⟨last,later,there⟩ : ∃ last later, (lrp.after blocks).encryptAll aes rest = .ok (last,later) :=
        ih.mpr fun other inside => sendable other (List.mem_cons_of_mem _ inside)
      exact ⟨last,joined (sentBlocks aes lrp blocks) :: later,by simp only [encryptAll,first,ok_bind,there]; rfl⟩

-- The law of a session: which messages can be sent, that the other side reads all of them and stays in step, that block
-- number k of the session stands under the key of counter start + k, and that no two blocks share a counter before its
-- values are used up.
structure SessionLaw (aes : Aes) (lrp : Lrp) (messages : List (List Byte)) : Prop where
  sendable : (∃ last sent, lrp.encryptAll aes messages = .ok (last,sent)) ↔ ∀ message ∈ messages, lrp.Sendable message
  session : ∀ last sent, lrp.encryptAll aes messages = .ok (last,sent) → Session aes lrp last messages sent
  keyed : ∀ blocks k, (sentBlocks aes lrp blocks)[k]? = blocks[k]?.map (aes.encrypt (lrp.eval aes (incrCounter^[k] lrp.r)))
  counted : ∀ k, fromBigEndian (incrCounter^[k] lrp.r) = (fromBigEndian lrp.r + k)%256^lrp.r.length
  fresh : ∀ i < 256^lrp.r.length, ∀ j < 256^lrp.r.length, incrCounter^[i] lrp.r = incrCounter^[j] lrp.r → i = j

theorem lrp_sessions (aes : Aes) (lrp : Lrp) (messages : List (List Byte)) : SessionLaw aes lrp messages :=
  ⟨encryptAll_iff,fun _ _ => session_of_encrypted,fun blocks k => counterRun_block aes.encrypt lrp.r blocks k,
    fun k => (incrCounter_steps lrp.r k).2,fun _ first _ second => incrCounter_fresh lrp.r first second⟩

end Lrp

-- Two messages of one session, the second one empty; the counter stands before a carry.
namespace Padded
def sender : Lrp := ⟨filled 0x11,1,List.replicate 15 0 ++ [0xff],true⟩
def messages : List (List Byte) := [[1,2,3],[]]

theorem two_messages_read : ∃ last sent, sender.encryptAll masking messages = .ok (last,sent) ∧
    sender.decryptAll masking sent = .ok (last,messages) ∧ fromBigEndian last.r = 257 := by
  have law := Lrp.lrp_sessions masking sender messages
  obtain ⟨last,sent,encrypted⟩ := law.sendable.mpr fun message _ => .inl rfl
  obtain ⟨opened,blocks,framed,-,last_is⟩ := law.session last sent encrypted
  have two : blocks.length = 2 := by
    have lengths := congrArg List.length framed
    rw [joined_length] at lengths
    have whole : (messages.map sender.framed).flatten.length = 32 := by decide
    omega
  refine ⟨last,sent,encrypted,opened,?_⟩
  rw [last_is,Lrp.after,two,law.counted 2]
  decide

end Padded
end FlaconVault.Verifier
