import FlaconVault.Verifier.Listings
namespace FlaconVault.Verifier.Listings
open Guards

theorem History.apart (history : History) {a b : Listing} (here : a ∈ history.listings) (there : b ∈ history.listings)
    (same : a.listedAt = b.listedAt) : a = b := by
  have different : (history.listings.map (·.listedAt)).Nodup := by
    unfold List.Nodup
    rw [List.pairwise_map]
    exact history.in_turn.imp fun before => before.1.ne
  exact List.inj_on_of_nodup_map different here there same

theorem History.different (history : History) : history.listings.Nodup := by
  refine history.in_turn.imp ?_
  intro a b before same
  rw [same] at before
  exact lt_irrefl _ before.1

theorem History.positive (history : History) {listing : Listing} (inside : listing ∈ history.listings) {finish : Finish}
    (ended : listing.finish = some finish) : 0 < listing.listedAt ∧ -finish.moment < 0 ∧ listing.listedAt ≤ finish.moment := by
  have dated := history.dated listing inside
  have ends := history.ends listing inside finish ended
  omega

theorem Ending.state_terminal (ending : Ending) : ending.state ∈ ORDER_TERMINAL := by cases ending <;> decide

theorem Ending.state_counts (ending : Ending) : ending.state = ORDER_RELEASED ∨ ending.state = ORDER_DISPUTE := by
  cases ending with
  | released => exact .inl rfl
  | dispute => exact .inr rfl

-- The invariant of one account: what stands under each key, and which outcome it belongs to.
structure Sound (history : History) (orderPda : Pubkey) (db : Database) (posted : List (Pubkey × Int)) (place : Listing → Option Int) :
    Prop where
  own : ∀ listing ∈ history.listings, ∀ key, place listing = some key → ∃ finish row, listing.finish = some finish ∧
    (key = listing.listedAt ∨
      key = -finish.moment ∧ (orderPda,listing.listedAt) ∈ posted ∧ db.getOrder orderPda listing.listedAt = none) ∧
    db.getOrder orderPda key = some row ∧ row.buyer = some finish.buyer ∧ row.state = finish.ending.state
  apart : ∀ a ∈ history.listings, ∀ b ∈ history.listings, ∀ key, place a = some key → place b = some key → a = b
  known : ∀ key row, 0 ≤ key → db.getOrder orderPda key = some row → ∃ listing ∈ history.listings, listing.listedAt = key ∧
    (∀ finish, listing.finish = some finish → row.buyer = none ∨ row.buyer = some finish.buyer) ∧
    (∀ finish, listing.finish = some finish → row.state ∈ ORDER_TERMINAL → place listing = some key) ∧
    (listing.finish = none → row.state ≠ ORDER_RELEASED ∧ row.state ≠ ORDER_DISPUTE)
  spare : ∀ key row, key < 0 → db.getOrder orderPda key = some row → ∃ listing ∈ history.listings, place listing = some key
  seller : ∀ key row, db.getOrder orderPda key = some row → row.seller = history.seller
  posted : ∀ listing ∈ history.listings, listing.finish.isSome = true → (orderPda,listing.listedAt) ∈ posted →
    (place listing).isSome = true

theorem written_here {db later : Database} {orderPda : Pubkey} {key : Int} {row : OrderRow} (written : db.SetOrder orderPda key row later) :
    later.getOrder orderPda key = some row := (written.rows orderPda key).trans (if_pos rfl)

theorem written_else {db later : Database} {orderPda : Pubkey} {key : Int} {row : OrderRow} (written : db.SetOrder orderPda key row later)
    {other : Int} (elsewhere : other ≠ key) : later.getOrder orderPda other = db.getOrder orderPda other :=
  (written.rows orderPda other).trans (if_neg fun same => elsewhere (Prod.mk.inj same).2)

section Accounts
variable {history : History} {orderPda : Pubkey} {db later : Database} {posted : List (Pubkey × Int)} {place : Listing → Option Int}

theorem Sound.recorded {world : World} (sound : Sound history orderPda world.db world.posted place) :
    Recorded history orderPda world place where
  own := by
    intro listing inside key placed
    obtain ⟨finish,row,ended,spot,found,buyer,state⟩ := sound.own listing inside key placed
    exact ⟨finish,row,ended,spot.imp_right And.left,found,sound.seller key row found,buyer,state⟩
  apart := sound.apart
  only := by
    intro row present named counts
    have found := Database.getOrder_mem present
    rw [named] at found
    rcases lt_or_ge row.listedAt 0 with below | above
    · exact sound.spare row.listedAt row below found
    · obtain ⟨listing,inside,_,_,final,unfinished⟩ := sound.known row.listedAt row above found
      refine ⟨listing,inside,?_⟩
      cases ended : listing.finish with
      | none =>
        obtain ⟨one,two⟩ := unfinished ended
        rcases counts with released | dispute
        · exact absurd released one
        · exact absurd dispute two
      | some finish =>
        refine final finish ended ?_
        rcases counts with released | dispute
        · rw [released]
          decide
        · rw [dispute]
          decide
  posted := sound.posted

-- Other accounts, other tables: nothing changes.
theorem Sound.of_same {later_posted : List (Pubkey × Int)} (sound : Sound history orderPda db posted place)
    (same : ∀ key, later.getOrder orderPda key = db.getOrder orderPda key)
    (listed : ∀ time, (orderPda,time) ∈ later_posted ↔ (orderPda,time) ∈ posted) : Sound history orderPda later later_posted place where
  own := by
    intro listing inside key placed
    rw [same,same,listed]
    exact sound.own listing inside key placed
  apart := sound.apart
  known := by
    intro key row above found
    rw [same] at found
    exact sound.known key row above found
  spare := by
    intro key row below found
    rw [same] at found
    exact sound.spare key row below found
  seller := by
    intro key row found
    rw [same] at found
    exact sound.seller key row found
  posted := fun listing inside ended there => sound.posted listing inside ended ((listed listing.listedAt).mp there)

-- A listing that was not posted has no placeholder.
theorem Sound.unposted (sound : Sound history orderPda db posted place) {listing : Listing} (inside : listing ∈ history.listings)
    (once : (orderPda,listing.listedAt) ∉ posted) {key : Int} (placed : place listing = some key) : key = listing.listedAt := by
  obtain ⟨_,_,_,spot,_⟩ := sound.own listing inside key placed
  rcases spot with here | ⟨_,there,_⟩
  · exact here
  · exact absurd there once

-- The outcome of a listing is written to a row that is no other's: at its own time, or as a placeholder before it is
-- known. The row where it stood before goes.
theorem Sound.put (sound : Sound history orderPda db posted place) {posted' : List (Pubkey × Int)} {listing : Listing} {finish : Finish}
    {key : Int} {row : OrderRow} (inside : listing ∈ history.listings) (ended : listing.finish = some finish)
    (here : later.getOrder orderPda key = some row)
    (rest : ∀ time, time ≠ key → later.getOrder orderPda time = db.getOrder orderPda time ∨
      later.getOrder orderPda time = none ∧ place listing = some time)
    (sold : row.seller = history.seller) (bought : row.buyer = some finish.buyer) (final : row.state = finish.ending.state)
    (before : ∀ other, place listing = some other → other = key ∨ later.getOrder orderPda other = none)
    (free : ∀ other ∈ history.listings, place other = some key → other = listing)
    (spot : key = listing.listedAt ∨
      key = -finish.moment ∧ (orderPda,listing.listedAt) ∈ posted' ∧ db.getOrder orderPda listing.listedAt = none)
    (wider : ∀ time, (orderPda,time) ∈ posted → (orderPda,time) ∈ posted')
    (only : ∀ time, (orderPda,time) ∈ posted' → time = listing.listedAt ∨ (orderPda,time) ∈ posted) :
    Sound history orderPda later posted' (Function.update place listing (some key)) := by
  obtain ⟨dated,below,_⟩ := history.positive inside ended
  have others : ∀ {other : Listing}, other ≠ listing → Function.update place listing (some key) other = place other :=
    fun apart => Function.update_of_ne apart (some key) place
  have itself : Function.update place listing (some key) listing = some key := Function.update_self listing (some key) place
  have absent : ∀ {time : Int}, time ≠ key → db.getOrder orderPda time = none → later.getOrder orderPda time = none := by
    intro time elsewhere nothing
    rcases rest time elsewhere with same | gone
    · exact same.trans nothing
    · exact gone.1
  have present : ∀ {time : Int} {found : OrderRow}, time ≠ key → later.getOrder orderPda time = some found →
      db.getOrder orderPda time = some found := by
    intro time found elsewhere there
    rcases rest time elsewhere with same | gone
    · exact same.symm.trans there
    · cases gone.1.symm.trans there
  -- What stands elsewhere afterwards was never this listing's.
  have moved : ∀ {time : Int} {found : OrderRow}, time ≠ key → later.getOrder orderPda time = some found → place listing ≠ some time := by
    intro time found elsewhere there placed
    rcases before time placed with same | gone
    · exact elsewhere same
    · cases gone.symm.trans there
  -- No other listing's time is the key.
  have timed : ∀ other ∈ history.listings, other ≠ listing → other.listedAt ≠ key := by
    intro other there apart same
    rcases spot with own | ⟨own,_⟩
    · exact apart (history.apart there inside (same.trans own))
    · have positive := history.dated other there
      omega
  constructor
  · intro other there place' placed
    by_cases same : other = listing
    · subst same
      obtain rfl : key = place' := Option.some.inj (itself.symm.trans placed)
      refine ⟨finish,row,ended,?_,here,bought,final⟩
      rcases spot with own | ⟨own,told,unlisted⟩
      · exact .inl own
      · exact .inr ⟨own,told,absent (by omega) unlisted⟩
    · rw [others same] at placed
      obtain ⟨finish',row',ended',spot',found,parts⟩ := sound.own other there place' placed
      have elsewhere : place' ≠ key := by
        intro own
        exact same (free other there (own ▸ placed))
      have stays : later.getOrder orderPda place' = some row' := by
        rcases rest place' elsewhere with unchanged | gone
        · exact unchanged.trans found
        · exact absurd (sound.apart other there listing inside place' placed gone.2) same
      refine ⟨finish',row',ended',?_,stays,parts⟩
      rcases spot' with own | ⟨own,told,unlisted⟩
      · exact .inl own
      · exact .inr ⟨own,wider _ told,absent (timed other there same) unlisted⟩
  · intro a one b two place' placed placed'
    by_cases first : a = listing
    · by_cases second : b = listing
      · exact first.trans second.symm
      · rw [others second] at placed'
        rw [first,itself] at placed
        cases placed
        exact absurd (free b two placed') second
    · rw [others first] at placed
      by_cases second : b = listing
      · rw [second,itself] at placed'
        cases placed'
        exact absurd (free a one placed) first
      · rw [others second] at placed'
        exact sound.apart a one b two place' placed placed'
  · intro time found above there
    by_cases own : time = key
    · subst own
      obtain rfl : row = found := Option.some.inj (here.symm.trans there)
      have named : listing.listedAt = time := by
        rcases spot with own | ⟨own,_⟩
        · exact own.symm
        · omega
      refine ⟨listing,inside,named,?_,fun _ _ _ => itself,?_⟩
      · intro other ended'
        rw [ended] at ended'
        cases ended'
        exact .inr bought
      · intro unfinished
        cases ended.symm.trans unfinished
    · obtain ⟨other,listed,named,buyer,terminal,unfinished⟩ := sound.known time found above (present own there)
      refine ⟨other,listed,named,buyer,?_,unfinished⟩
      intro finish' ended' settled
      have placed := terminal finish' ended' settled
      by_cases same : other = listing
      · exact absurd (same ▸ placed) (moved own there)
      · exact (others same).trans placed
  · intro time found under there
    by_cases own : time = key
    · exact ⟨listing,inside,own ▸ itself⟩
    · obtain ⟨other,listed,placed⟩ := sound.spare time found under (present own there)
      by_cases same : other = listing
      · exact absurd (same ▸ placed) (moved own there)
      · exact ⟨other,listed,(others same).trans placed⟩
  · intro time found there
    by_cases own : time = key
    · subst own
      obtain rfl : row = found := Option.some.inj (here.symm.trans there)
      exact sold
    · exact sound.seller time found (present own there)
  · intro other there ended' told
    by_cases same : other = listing
    · rw [same,itself]
      rfl
    · rw [others same]
      refine sound.posted other there ended' ?_
      rcases only _ told with own | earlier
      · exact absurd (history.apart there inside own) same
      · exact earlier

-- What is known of a listing by its own time.
theorem Sound.listed (sound : Sound history orderPda db posted place) {listing : Listing} (inside : listing ∈ history.listings)
    {finish : Finish} (ended : listing.finish = some finish) {old : OrderRow}
    (found : db.getOrder orderPda listing.listedAt = some old) : old.buyer = none ∨ old.buyer = some finish.buyer := by
  obtain ⟨other,there,named,buyer,_⟩ := sound.known listing.listedAt old (history.dated listing inside).le found
  exact buyer finish (history.apart there inside named ▸ ended)

-- Its time is no other outcome's key.
theorem Sound.timed (sound : Sound history orderPda db posted place) {listing : Listing} (inside : listing ∈ history.listings)
    {other : Listing} (there : other ∈ history.listings) (placed : place other = some listing.listedAt) : other = listing := by
  obtain ⟨finish,_,ended,spot,_⟩ := sound.own other there listing.listedAt placed
  obtain ⟨_,below,_⟩ := history.positive there ended
  have positive := history.dated listing inside
  rcases spot with here | ⟨here,_⟩
  · exact history.apart there inside here.symm
  · omega

theorem Posts.outcome {finish : Finish} {job : EventJob} (posts : Posts history orderPda finish job) :
    (if job.type = .release then ORDER_RELEASED else ORDER_DISPUTE) = finish.ending.state := by
  rw [posts.type]
  cases finish.ending <;> rfl

theorem Posts.sold {finish : Finish} {job : EventJob} (posts : Posts history orderPda finish job) {wallet : Pubkey}
    (named : escrowSeller job.vt = some wallet) : wallet = history.seller := by
  have told := @escrowSeller_named job.vt history.seller (fun order sold bought amount moved ts own => (posts.events _ _ _ _ _ _ own).1)
    (fun chain given => (posts.order chain given).elim fun _ shown => shown.2.seller) posts.seller
  rcases told with unnamed | same
  · cases unnamed.symm.trans named
  · exact Option.some.inj (named.symm.trans same)

-- The row that a careful post writes, and the wallets that are counted again.
structure Entered (history : History) (orderPda : Pubkey) (db later : Database) (listing : Listing) (finish : Finish)
    (place : Listing → Option Int) (key : Int) (row : OrderRow) (middle : Database) (wallets : List Pubkey) : Prop where
  written : db.SetOrder orderPda key row middle
  counted : middle.syncEscrowCounters (some wallets) = .ok later
  sold : row.seller = history.seller
  bought : row.buyer = some finish.buyer
  final : row.state = finish.ending.state
  before : ∀ other, place listing = some other → other = key
  free : ∀ other ∈ history.listings, place other = some key → other = listing
  spot : key = listing.listedAt ∨ key = -finish.moment ∧ db.getOrder orderPda listing.listedAt = none
  parties : history.seller ∈ wallets ∧ finish.buyer ∈ wallets
  old : ∀ old, db.getOrder orderPda key = some old → old.seller = history.seller ∧ (old.buyer = none ∨ old.buyer = some finish.buyer)

theorem Sound.entered (sound : Sound history orderPda db posted place) {listing : Listing} {finish : Finish} {job : EventJob}
    (inside : listing ∈ history.listings) (ended : listing.finish = some finish) (once : (orderPda,listing.listedAt) ∉ posted)
    (posts : Posts history orderPda finish job) (matched : Matched db orderPda listing finish job)
    (accepted : recordOutcome db job = .ok later) :
    ∃ key row middle wallets, Entered history orderPda db later listing finish place key row middle wallets := by
  obtain ⟨dated,below,ends⟩ := history.positive inside ended
  have recorded := recordOutcome_cases accepted posts.address posts.time
    (fun order sold bought amount moved ts own => (posts.events _ _ _ _ _ _ own).2) posts.buyer
  rw [posts.outcome] at recorded
  -- A listing that is known, or whose Order was read in time, leads to no placeholder.
  have early : ∀ chain, job.vt.order = some chain → chain.listedAt.val = listing.listedAt → ¬finish.moment < chain.listedAt.val := by
    intro chain _ own late
    omega
  have here : ∀ old : OrderRow, db.getOrder orderPda listing.listedAt = some old →
      old.seller = history.seller ∧ (old.buyer = none ∨ old.buyer = some finish.buyer) :=
    fun old found => ⟨sound.seller _ old found,sound.listed inside ended found⟩
  cases recorded with
  | read chain row middle given listed written final sold bought counted =>
    have own : chain.listedAt.val = listing.listedAt := by
      cases matched with
      | read other given' own => exact Option.some.inj (given'.symm.trans given) ▸ own
      | known unread => exact absurd (unread chain given) (by omega)
      | unknown unread => exact absurd (unread chain given) (by omega)
    obtain ⟨shown,there,shows⟩ := posts.order chain given
    obtain rfl : shown = listing := history.apart there inside (shows.listedAt.symm.trans own)
    have buyer : (chain.buyer <|> some finish.buyer) = some finish.buyer := orElse_same (shows.buyer finish ended)
    rw [own] at written sold bought
    refine ⟨_,row,middle,_,⟨written,counted,?_,?_,final,?_,fun other there' placed => sound.timed inside there' placed,.inl rfl,?_,here⟩⟩
    · rw [sold]
      cases found : db.getOrder orderPda shown.listedAt with
      | none => exact shows.seller
      | some old => exact (here old found).1
    · rw [bought]
      rcases shows.buyer finish ended with unknown | known
      · rw [unknown]
        rfl
      · rw [known]
        rfl
    · exact fun other placed => sound.unposted inside once placed
    · rw [buyer,shows.seller]
      simp
  | known old row middle unread found since listed newest written final sold bought counted =>
    have own : old.listedAt = listing.listedAt := by
      cases matched with
      | read chain given own => exact absurd (unread chain given) (early chain given own)
      | known _ stored newest' =>
        obtain ⟨row',there⟩ := Option.isSome_iff_exists.mp stored
        obtain ⟨present,named,time⟩ := Database.getOrder_some.mp there
        obtain ⟨present',named',_⟩ := Database.getOrder_some.mp found
        have one := newest row' present named (by omega) (by omega)
        have two := newest' old present' named' listed
        omega
      | unknown _ unlisted =>
        obtain ⟨present,named,_⟩ := Database.getOrder_some.mp found
        exact absurd (unlisted old present named since) (by omega)
    rw [own] at found written
    obtain ⟨seller,buyer⟩ := here old found
    have bought' : (old.buyer <|> some finish.buyer) = some finish.buyer := orElse_same buyer
    refine ⟨_,row,middle,_,⟨written,counted,sold.trans seller,bought.trans bought',final,
      fun other placed => sound.unposted inside once placed,fun other there placed => sound.timed inside there placed,.inl rfl,?_,here⟩⟩
    rw [bought',seller]
    simp
  | placed wallet row middle unread unknown named written final sold bought counted =>
    have unlisted : db.getOrder orderPda listing.listedAt = none := by
      rw [Option.eq_none_iff_forall_ne_some]
      intro row' there
      obtain ⟨present,named',time⟩ := Database.getOrder_some.mp there
      have late := unknown row' present named' (by omega)
      omega
    have free : db.getOrder orderPda (-finish.moment) = none := by
      cases matched with
      | read chain given own => exact absurd (unread chain given) (early chain given own)
      | known _ stored => simp [unlisted] at stored
      | unknown _ _ free => exact free
    rw [free] at sold bought
    refine ⟨_,row,middle,_,⟨written,counted,sold.trans (posts.sold named),bought,final,?_,?_,.inr ⟨rfl,unlisted⟩,?_,?_⟩⟩
    · intro other placed
      obtain ⟨_,_,_,_,found,_⟩ := sound.own listing inside other placed
      rw [sound.unposted inside once placed,unlisted] at found
      cases found
    · intro other there placed
      obtain ⟨_,_,_,_,found,_⟩ := sound.own other there _ placed
      cases free.symm.trans found
    · rw [posts.sold named]
      simp
    · intro old found
      cases free.symm.trans found
  | dropped unread unknown unnamed =>
    cases matched with
    | read chain given own => exact absurd (unread chain given) (early chain given own)
    | known _ stored =>
      obtain ⟨row',there⟩ := Option.isSome_iff_exists.mp stored
      obtain ⟨present,named,time⟩ := Database.getOrder_some.mp there
      exact absurd (unknown row' present named (by omega)) (by omega)
    | unknown _ _ _ named => simp [unnamed] at named

-- An outcome that a careful post enters.
theorem Sound.post (sound : Sound history orderPda db posted place) {listing : Listing} {finish : Finish}
    (inside : listing ∈ history.listings) (ended : listing.finish = some finish) {key : Int} {row : OrderRow} {middle : Database}
    {wallets : List Pubkey} (entered : Entered history orderPda db later listing finish place key row middle wallets) :
    Sound history orderPda later ((orderPda,listing.listedAt) :: posted) (Function.update place listing (some key)) := by
  have orders := Database.getOrder_congr (Database.syncEscrowCounters_orders entered.counted) orderPda
  refine sound.put inside ended ((orders key).trans (written_here entered.written)) ?_ entered.sold entered.bought entered.final
    (fun other placed => .inl (entered.before other placed)) entered.free ?_ (fun _ told => List.mem_cons_of_mem _ told) ?_
  · exact fun time elsewhere => .inl ((orders time).trans (written_else entered.written elsewhere))
  · exact entered.spot.imp_right fun spot => ⟨spot.1,List.mem_cons_self,spot.2⟩
  · intro time told
    rcases List.mem_cons.mp told with here | earlier
    · exact .inl (Prod.mk.inj here).2
    · exact .inr earlier

theorem Entered.synced {listing : Listing} {finish : Finish} {key : Int} {row : OrderRow} {middle : Database}
    {wallets : List Pubkey} (entered : Entered history orderPda db later listing finish place key row middle wallets)
    (synced : db.Synced) : later.Synced := by
  refine synced.of_set entered.written entered.counted ?_ ?_
  · intro wallet apart
    constructor
    · rw [entered.sold]
      exact fun same => apart (same ▸ entered.parties.1)
    · rw [entered.bought]
      exact fun same => apart (Option.some.inj same ▸ entered.parties.2)
  · intro old found wallet apart
    obtain ⟨sold,bought⟩ := entered.old old found
    constructor
    · rw [sold]
      exact fun same => apart (same ▸ entered.parties.1)
    · rcases bought with unknown | known
      · rw [unknown]
        exact (Option.some_ne_none wallet).symm
      · rw [known]
        exact fun same => apart (Option.some.inj same ▸ entered.parties.2)

-- A read of a listing that is not over, or of an outcome that it does not show: only the listing's own row changes.
theorem Sound.view (sound : Sound history orderPda db posted place) {listing : Listing} {row : OrderRow}
    (inside : listing ∈ history.listings) (written : db.SetOrder orderPda listing.listedAt row later)
    (unplaced : place listing = none) (sold : row.seller = history.seller)
    (bought : ∀ finish, listing.finish = some finish → row.buyer = none ∨ row.buyer = some finish.buyer)
    (running : ∀ finish, listing.finish = some finish → row.state ∉ ORDER_TERMINAL)
    (unfinished : listing.finish = none → row.state ≠ ORDER_RELEASED ∧ row.state ≠ ORDER_DISPUTE) :
    Sound history orderPda later posted place := by
  have dated := history.dated listing inside
  constructor
  · intro other there key placed
    have apart : other ≠ listing := by
      intro same
      cases (same ▸ placed).symm.trans unplaced
    obtain ⟨finish,row',ended,spot,found,parts⟩ := sound.own other there key placed
    have elsewhere : key ≠ listing.listedAt := fun same => apart (sound.timed inside there (same ▸ placed))
    refine ⟨finish,row',ended,?_,(written_else written elsewhere).trans found,parts⟩
    rcases spot with own | ⟨own,told,unlisted⟩
    · exact .inl own
    · exact .inr ⟨own,told,(written_else written fun same => apart (history.apart there inside same)).trans unlisted⟩
  · exact sound.apart
  · intro key found above there
    by_cases own : key = listing.listedAt
    · subst own
      obtain rfl : row = found := Option.some.inj ((written_here written).symm.trans there)
      exact ⟨listing,inside,rfl,bought,fun finish ended settled => absurd settled (running finish ended),unfinished⟩
    · exact sound.known key found above ((written_else written own).symm.trans there)
  · intro key found under there
    exact sound.spare key found under ((written_else written (by omega)).symm.trans there)
  · intro key found there
    by_cases own : key = listing.listedAt
    · subst own
      obtain rfl : row = found := Option.some.inj ((written_here written).symm.trans there)
      exact sold
    · exact sound.seller key found ((written_else written own).symm.trans there)
  · exact sound.posted

def Kept (history : History) (place after : Listing → Option Int) : Prop :=
  ∀ listing ∈ history.listings, (place listing).isSome = true → (after listing).isSome = true

theorem kept_update (place : Listing → Option Int) (listing : Listing) (key : Int) :
    Kept history place (Function.update place listing (some key)) := by
  intro other _ placed
  by_cases same : other = listing
  · rw [same,Function.update_self]
    rfl
  · rw [Function.update_of_ne same]
    exact placed

-- The listing's row now shows what was read.
theorem Sound.stores (sound : Sound history orderPda db posted place) {listing : Listing} {order : ChainOrder} {row : OrderRow}
    (inside : listing ∈ history.listings) (shows : Shows history listing order)
    (written : db.SetOrder orderPda listing.listedAt row later) (before : ∀ key, place listing = some key → key = listing.listedAt)
    (running : ∀ old, db.getOrder orderPda listing.listedAt = some old → old.state ∉ ORDER_TERMINAL)
    (state : row.state = order.state.val) (buyer : row.buyer = order.buyer) (seller : row.seller = history.seller) :
    ∃ after, Sound history orderPda later posted after ∧ Kept history place after := by
  have unplaced : place listing = none := by
    rw [Option.eq_none_iff_forall_ne_some]
    intro key placed
    obtain ⟨finish,old,_,_,found,_,final⟩ := sound.own listing inside key placed
    rw [before key placed] at found
    exact running old found (final ▸ finish.ending.state_terminal)
  by_cases settles : order.state.val ∈ ORDER_TERMINAL ∧ listing.finish.isSome = true
  · obtain ⟨settled,finished⟩ := settles
    obtain ⟨finish,ended⟩ := Option.isSome_iff_exists.mp finished
    obtain ⟨final,bought⟩ := shows.final finish ended settled
    refine ⟨_,sound.put inside ended (written_here written) ?_ seller (buyer.trans bought) (state.trans final) ?_
      (fun other there placed => sound.timed inside there placed) (.inl rfl) (fun _ told => told) (fun _ told => .inr told),
      kept_update place listing _⟩
    · exact fun time elsewhere => .inl (written_else written elsewhere)
    · intro other placed
      cases unplaced.symm.trans placed
  · refine ⟨place,sound.view inside written unplaced seller ?_ ?_ ?_,fun _ _ placed => placed⟩
    · intro finish ended
      rw [buyer]
      exact shows.buyer finish ended
    · intro finish ended settled
      exact settles ⟨state ▸ settled,by rw [ended]; rfl⟩
    · intro unfinished
      rw [state]
      exact shows.unfinished unfinished

theorem refresh_settled {order : ChainOrder} {state : ℕ} {ts : Int} {old : OrderRow} (settled : old.state ∈ ORDER_TERMINAL) :
    order.refresh state ts old = old := if_pos (.inl settled)

theorem refresh_running {order : ChainOrder} {state : ℕ} {ts : Int} {old : OrderRow} (running : old.state ∉ ORDER_TERMINAL) :
    (order.refresh state ts old).state = state ∧ (order.refresh state ts old).buyer = order.buyer ∧
      (order.refresh state ts old).seller = old.seller := by
  unfold ChainOrder.refresh
  split
  · rename_i same
    rcases same with settled | ⟨state',buyer,_⟩
    · exact absurd settled running
    · exact ⟨state',buyer,rfl⟩
  · exact ⟨rfl,rfl,rfl⟩

-- A read with no placeholder to merge.
theorem Sound.reads (sound : Sound history orderPda db posted place) {listing : Listing} {order : ChainOrder} {ts : Int}
    (inside : listing ∈ history.listings) (shows : Shows history listing order) (read : db.ReadOrder orderPda order ts later)
    (clear : ∀ row ∈ db.escrowOrders.rows, Database.placeholder orderPda order.listedAt.val row = false) :
    ∃ after, Sound history orderPda later posted after ∧ Kept history place after := by
  have unmerged : db.oldestPlaceholder orderPda order.listedAt.val = none := by
    rw [Option.eq_none_iff_forall_ne_some]
    intro row found
    obtain ⟨present,chosen⟩ := List.mem_filter.mp (Database.oldestListing_some found).1
    cases (clear row present).symm.trans chosen
  have state : db.readState orderPda order = order.state.val := by
    unfold Database.readState
    rw [unmerged]
  have written : db.SetOrder orderPda listing.listedAt ((db.getOrder orderPda listing.listedAt).elim
      (order.row orderPda order.state.val ts) (order.refresh order.state.val ts)) later := by
    refine ⟨read.rest,?_⟩
    intro other time
    have kept : (db.getOrder other time).filter (!Database.placeholder orderPda order.listedAt.val ·) = db.getOrder other time := by
      cases there : db.getOrder other time with
      | none => rfl
      | some row => simp [Option.filter,clear row (Database.getOrder_some.mp there).1]
    rw [read.rows other time,kept,state,← shows.listedAt]
    dsimp only
    split
    · rename_i here
      rw [(Prod.mk.inj here).1,(Prod.mk.inj here).2]
    · rfl
  have before : ∀ key, place listing = some key → key = listing.listedAt := by
    intro key placed
    obtain ⟨finish,row,ended,spot,found,_⟩ := sound.own listing inside key placed
    rcases spot with own | ⟨own,_⟩
    · exact own
    · obtain ⟨_,below,ends⟩ := history.positive inside ended
      obtain ⟨present,named,time⟩ := Database.getOrder_some.mp found
      have chosen : Database.placeholder orderPda order.listedAt.val row = true := by
        rw [shows.listedAt]
        simp only [Database.placeholder,named,beq_self_eq_true,Bool.true_and,Bool.and_eq_true,decide_eq_true_eq]
        omega
      cases (clear row present).symm.trans chosen
  cases known : db.getOrder orderPda listing.listedAt with
  | some old =>
    rw [known] at written
    by_cases settled : old.state ∈ ORDER_TERMINAL
    · refine ⟨place,sound.of_same ?_ fun _ => Iff.rfl,fun _ _ placed => placed⟩
      intro key
      by_cases own : key = listing.listedAt
      · rw [own,written_here written,known]
        exact congrArg some (refresh_settled settled)
      · exact written_else written own
    · obtain ⟨state',buyer,seller⟩ := @refresh_running order order.state.val ts old settled
      exact sound.stores inside shows written before (fun other found => Option.some.inj (known.symm.trans found) ▸ settled) state' buyer
        (seller.trans (sound.seller _ old known))
  | none =>
    rw [known] at written
    refine sound.stores inside shows written before ?_ rfl rfl shows.seller
    intro other found
    cases known.symm.trans found

-- A read that merges the placeholder of its own listing.
theorem Sound.merged (sound : Sound history orderPda db posted place) {listing : Listing} {order : ChainOrder} {ts : Int}
    (inside : listing ∈ history.listings) (shows : Shows history listing order) (read : db.ReadOrder orderPda order ts later)
    (merges : Merges posted db orderPda listing order) {spare : OrderRow} (present : spare ∈ db.escrowOrders.rows)
    (chosen : Database.placeholder orderPda order.listedAt.val spare = true) :
    ∃ after, Sound history orderPda later posted after ∧ Kept history place after := by
  obtain ⟨finish,ended,_,told,unlisted,bought⟩ := merges spare present chosen
  obtain ⟨dated,below,ends⟩ := history.positive inside ended
  have only : ∀ row ∈ db.escrowOrders.rows, Database.placeholder orderPda order.listedAt.val row = true → row.listedAt = -finish.moment := by
    intro row there picked
    obtain ⟨finish',ended',time,_⟩ := merges row there picked
    rw [ended] at ended'
    cases ended'
    exact time
  obtain ⟨key,placed⟩ := Option.isSome_iff_exists.mp (sound.posted listing inside (by rw [ended]; rfl) told)
  obtain ⟨finish',old,ended',spot,found,_,final⟩ := sound.own listing inside key placed
  rw [ended] at ended'
  cases ended'
  have own : key = -finish.moment := by
    rcases spot with same | ⟨same,_⟩
    · rw [same,unlisted] at found
      cases found
    · exact same
  rw [own] at found placed
  -- What is merged is the listing's own outcome.
  have state : db.readState orderPda order = finish.ending.state := by
    unfold Database.readState
    cases oldest : db.oldestPlaceholder orderPda order.listedAt.val with
    | none => cases (Database.oldestPlaceholder_none oldest present).symm.trans chosen
    | some row =>
      obtain ⟨there,picked⟩ := List.mem_filter.mp (Database.oldestListing_some oldest).1
      have same : row = old := by
        have here := Database.getOrder_mem there
        rw [(Database.oldestPlaceholder_some oldest).2.1,only row there picked,found] at here
        exact (Option.some.inj here).symm
      dsimp only
      split
      · rename_i settled
        exact (shows.final finish ended settled).1
      · rw [same]
        exact final
  have rows : ∀ time, later.getOrder orderPda time = if time = listing.listedAt then some (order.row orderPda finish.ending.state ts)
      else (db.getOrder orderPda time).filter (!Database.placeholder orderPda order.listedAt.val ·) := by
    intro time
    rw [read.rows orderPda time,state]
    dsimp only
    by_cases here : time = listing.listedAt
    · rw [if_pos here,if_pos (by rw [here,shows.listedAt]),here,unlisted]
      rfl
    · rw [if_neg here,if_neg fun same => here ((Prod.mk.inj same).2.trans shows.listedAt)]
  refine ⟨_,sound.put inside ended ((rows listing.listedAt).trans (if_pos rfl)) ?_ shows.seller bought rfl ?_
    (fun other there placed' => sound.timed inside there placed') (.inl rfl) (fun _ told => told) (fun _ told => .inr told),
    kept_update place listing _⟩
  · intro time elsewhere
    rw [rows time,if_neg elsewhere]
    cases there : db.getOrder orderPda time with
    | none => exact .inl rfl
    | some row =>
      obtain ⟨present',_,named⟩ := Database.getOrder_some.mp there
      cases picked : Database.placeholder orderPda order.listedAt.val row with
      | false =>
        left
        simp [Option.filter,picked]
      | true =>
        right
        refine ⟨by simp [Option.filter,picked],?_⟩
        rw [placed,← named]
        exact congrArg some (only row present' picked).symm
  · intro other placed'
    right
    have moved : other = -finish.moment := Option.some.inj (placed'.symm.trans placed)
    rw [rows other,if_neg (by omega),moved,found]
    obtain ⟨_,named,time⟩ := Database.getOrder_some.mp found
    have picked : Database.placeholder orderPda order.listedAt.val old = true := by
      simp only [Database.placeholder,named,beq_self_eq_true,Bool.true_and,Bool.and_eq_true,decide_eq_true_eq]
      rw [shows.listedAt]
      omega
    simp [Option.filter,picked]

theorem Sound.read (sound : Sound history orderPda db posted place) {listing : Listing} {order : ChainOrder} {ts : Int}
    (inside : listing ∈ history.listings) (shows : Shows history listing order) (read : db.ReadOrder orderPda order ts later)
    (merges : Merges posted db orderPda listing order) :
    ∃ after, Sound history orderPda later posted after ∧ Kept history place after := by
  by_cases waiting : ∃ row ∈ db.escrowOrders.rows, Database.placeholder orderPda order.listedAt.val row = true
  · obtain ⟨spare,present,chosen⟩ := waiting
    exact sound.merged inside shows read merges present chosen
  · refine sound.reads inside shows read ?_
    intro row present
    cases chosen : Database.placeholder orderPda order.listedAt.val row with
    | false => rfl
    | true => exact absurd ⟨row,present,chosen⟩ waiting

end Accounts

-- The invariant of the whole run.
structure Invariant (histories : Pubkey → History) (world : World) (places : Pubkey → Listing → Option Int) : Prop where
  sound : ∀ orderPda, Sound (histories orderPda) orderPda world.db world.posted (places orderPda)
  synced : world.db.Synced

def KeptAll (histories : Pubkey → History) (places after : Pubkey → Listing → Option Int) : Prop :=
  ∀ orderPda, Kept (histories orderPda) (places orderPda) (after orderPda)

section Runs
variable {histories : Pubkey → History} {posted : List (Pubkey × Int)}

theorem reads_sound {ts : Int} {orders : List (Pubkey × ChainOrder)} {db later : Database} {places : Pubkey → Listing → Option Int}
    (sound : ∀ orderPda, Sound (histories orderPda) orderPda db posted (places orderPda))
    (shown : ∀ entry ∈ orders, ∃ listing ∈ (histories entry.1).listings, Shows (histories entry.1) listing entry.2)
    (stored : db.readOrders ts orders = .ok later) (careful : CarefulReads histories posted ts db orders) :
    ∃ after, (∀ orderPda, Sound (histories orderPda) orderPda later posted (after orderPda)) ∧ KeptAll histories places after := by
  induction orders generalizing db places with
  | nil =>
    cases Except.ok.inj stored
    exact ⟨places,sound,fun _ _ _ placed => placed⟩
  | cons entry rest ih =>
    obtain ⟨orderPda,order⟩ := entry
    unfold Database.readOrders at stored
    obtain ⟨next,upserted,stored⟩ := bind_ok.mp stored
    obtain ⟨merges,careful⟩ := careful
    obtain ⟨listing,inside,shows⟩ := shown (orderPda,order) List.mem_cons_self
    have read := Database.upsertEscrowOrder_parts upserted
    obtain ⟨after,here,kept⟩ := (sound orderPda).read inside shows read (merges listing inside shows.listedAt.symm)
    have moved : ∀ other, Sound (histories other) other next posted (Function.update places orderPda after other) := by
      intro other
      by_cases same : other = orderPda
      · subst same
        rw [Function.update_self]
        exact here
      · rw [Function.update_of_ne same]
        exact (sound other).of_same (read.other same) fun _ => Iff.rfl
    obtain ⟨final,done,kept'⟩ := ih moved (fun entry there => shown entry (List.mem_cons_of_mem _ there)) stored (careful next upserted)
    refine ⟨final,done,?_⟩
    intro other listing' there placed
    refine kept' other listing' there ?_
    by_cases same : other = orderPda
    · subst same
      rw [Function.update_self]
      exact kept listing' there placed
    · rw [Function.update_of_ne same]
      exact placed

theorem step_invariant {world later : World} {action : Action} {places : Pubkey → Listing → Option Int}
    (invariant : Invariant histories world places) (step : Step histories world action later) (careful : Careful histories world action) :
    ∃ after, Invariant histories later after ∧ KeptAll histories places after := by
  cases step with
  | aside later orders counters =>
    refine ⟨places,⟨?_,?_⟩,fun _ _ _ placed => placed⟩
    · intro orderPda
      exact (invariant.sound orderPda).of_same (Database.getOrder_congr orders orderPda) fun _ => Iff.rfl
    · intro key
      rw [Database.endedOrders_same orders,Database.endedOrders_same orders,counters key]
      exact invariant.synced key
  | read ts orders middle later shown stored counted =>
    obtain ⟨after,sound,kept⟩ := reads_sound invariant.sound shown stored careful
    refine ⟨after,⟨?_,.of_all counted⟩,kept⟩
    intro orderPda
    exact (sound orderPda).of_same (Database.getOrder_congr (Database.syncEscrowCounters_orders counted) orderPda) fun _ => Iff.rfl
  | post orderPda listing finish job later inside ended once posts accepted =>
    obtain ⟨key,row,middle,wallets,entered⟩ := (invariant.sound orderPda).entered inside ended once posts careful accepted
    refine ⟨Function.update places orderPda (Function.update (places orderPda) listing (some key)),⟨?_,entered.synced invariant.synced⟩,?_⟩
    · intro other
      by_cases same : other = orderPda
      · subst same
        rw [Function.update_self]
        exact (invariant.sound other).post inside ended entered
      · rw [Function.update_of_ne same]
        refine (invariant.sound other).of_same ?_ ?_
        · intro time
          rw [Database.getOrder_congr (Database.syncEscrowCounters_orders entered.counted),entered.written.rows other time]
          exact if_neg fun here => same (Prod.mk.inj here).1
        · intro time
          rw [List.mem_cons]
          exact or_iff_right fun here => same (Prod.mk.inj here).1
    · intro other
      by_cases same : other = orderPda
      · subst same
        rw [Function.update_self]
        exact kept_update (places other) listing key
      · rw [Function.update_of_ne same]
        exact fun _ _ placed => placed

theorem run_invariant {start world : World} {places : Pubkey → Listing → Option Int} (invariant : Invariant histories start places)
    (run : Run histories (Careful histories) start world) : ∃ after, Invariant histories world after ∧ KeptAll histories places after := by
  induction run with
  | refl => exact ⟨places,invariant,fun _ _ _ placed => placed⟩
  | step _ taken fits ih =>
    obtain ⟨middle,held,kept⟩ := ih
    obtain ⟨after,done,kept'⟩ := step_invariant held taken fits
    exact ⟨after,done,fun orderPda listing inside placed => kept' orderPda listing inside (kept orderPda listing inside placed)⟩

theorem Fresh.invariant {start : World} (fresh : Fresh start) : Invariant histories start fun _ _ => none := by
  have empty : ∀ orderPda key, start.db.getOrder orderPda key = none := by
    intro orderPda key
    unfold Database.getOrder
    rw [Table.get_none,fresh.orders]
    exact fun _ inside => absurd inside List.not_mem_nil
  constructor
  · intro orderPda
    constructor
    · intro listing _ key placed
      cases placed
    · intro a _ b _ key placed
      cases placed
    · intro key row _ found
      cases (empty orderPda key).symm.trans found
    · intro key row _ found
      cases (empty orderPda key).symm.trans found
    · intro key row found
      cases (empty orderPda key).symm.trans found
    · intro listing _ _ told
      rw [fresh.posted] at told
      cases told
  · intro key
    unfold Database.endedOrders
    rw [fresh.counters key,fresh.orders]
    rfl

end Runs
section Counts
variable {history : History} {orderPda : Pubkey} {world : World} {place : Listing → Option Int}

theorem Ending.state_injective {a b : Ending} (same : a.state = b.state) : a = b := by
  cases a <;> cases b <;> simp_all [Ending.state,ORDER_RELEASED,ORDER_DISPUTE]

-- With every outcome posted, the rows of the account that count are its finished listings.
theorem Recorded.ended (recorded : Recorded history orderPda world place) (complete : Complete history orderPda world)
    (ending : Ending) (key : Pubkey) :
    (world.db.escrowOrders.rows.filter (·.orderPda == orderPda)).countP
      (fun row => row.state == ending.state && (row.seller == key || row.buyer == some key)) = history.ended ending key := by
  rw [List.countP_filter]
  refine @Table.countP_placed _ _ _ _ world.db.escrowOrders history.listings (fun listing => (place listing).map (orderPda,·)) _ _
    history.different ?_ ?_ ?_
  · intro a one b two wanted placed placed'
    obtain ⟨key,here,named⟩ := Option.map_eq_some_iff.mp placed
    obtain ⟨key',here',named'⟩ := Option.map_eq_some_iff.mp placed'
    have same : key = key' := (Prod.mk.inj (named.trans named'.symm)).2
    exact recorded.apart a one b two key here (same ▸ here')
  · intro listing inside chosen
    obtain ⟨finish,ended,picked⟩ := Option.any_eq_true .. |>.mp chosen
    simp only [Bool.and_eq_true,Bool.or_eq_true,beq_iff_eq] at picked
    obtain ⟨time,placed⟩ := Option.isSome_iff_exists.mp
      (recorded.posted listing inside (by rw [ended]; rfl) (complete listing inside (by rw [ended]; rfl)))
    obtain ⟨finish',row,ended',_,found,seller,buyer,state⟩ := recorded.own listing inside time placed
    rw [ended] at ended'
    cases ended'
    obtain ⟨present,named,time'⟩ := Database.getOrder_some.mp found
    refine ⟨row,present,by rw [placed,named,time']; rfl,?_⟩
    simp only [Bool.and_eq_true,Bool.or_eq_true,beq_iff_eq]
    refine ⟨⟨state.trans (congrArg _ picked.1),?_⟩,named⟩
    rw [seller,buyer]
    exact picked.2.imp_right (congrArg some)
  · intro row present picked
    simp only [Bool.and_eq_true,Bool.or_eq_true,beq_iff_eq] at picked
    obtain ⟨⟨state,parties⟩,named⟩ := picked
    obtain ⟨listing,inside,placed⟩ := recorded.only row present named (state ▸ ending.state_counts)
    obtain ⟨finish,row',ended,_,found,seller,buyer,state'⟩ := recorded.own listing inside row.listedAt placed
    have there := Database.getOrder_mem present
    rw [named,found] at there
    cases Option.some.inj there
    refine ⟨listing,inside,?_,by rw [placed,← named]; rfl⟩
    rw [ended,Option.any_some]
    simp only [Bool.and_eq_true,Bool.or_eq_true,beq_iff_eq]
    refine ⟨Ending.state_injective (state'.symm.trans state),?_⟩
    rw [← seller]
    refine parties.imp_right fun bought => ?_
    exact Option.some.inj (buyer.symm.trans bought)

theorem endedOrders_split (db : Database) (orderPda : Pubkey) (state : ℕ) (key : Pubkey) :
    db.endedOrders state key = endedElsewhere db orderPda state key+
      (db.escrowOrders.rows.filter (·.orderPda == orderPda)).countP
        (fun row => row.state == state && (row.seller == key || row.buyer == some key)) := by
  unfold Database.endedOrders endedElsewhere
  rw [List.countP_eq_countP_filter_add _ _ (fun row : OrderRow => row.orderPda == orderPda),Nat.add_comm]
  rfl

end Counts

-- From a state where nothing is known of any order, whatever the order of reads and posts whose steps all find the
-- listing that they are about.
theorem outcomes_counted {histories : Pubkey → History} {start world later : World} (fresh : Fresh start)
    (run : Run histories (Careful histories) start world) (onward : Run histories (Careful histories) world later)
    (orderPda : Pubkey) : Upheld (histories orderPda) orderPda world later := by
  obtain ⟨places,held,_⟩ := run_invariant fresh.invariant run
  obtain ⟨after,held',kept⟩ := run_invariant held onward
  constructor
  · exact ⟨places orderPda,after orderPda,(held.sound orderPda).recorded,(held'.sound orderPda).recorded,kept orderPda⟩
  · intro complete key
    rw [held.synced key,endedOrders_split world.db orderPda ORDER_RELEASED key,endedOrders_split world.db orderPda ORDER_DISPUTE key]
    have released := (held.sound orderPda).recorded.ended complete .released key
    have disputed := (held.sound orderPda).recorded.ended complete .dispute key
    dsimp only [Ending.state] at released disputed
    rw [released,disputed]

-- One address, two listings: the first is released, the second goes back to its buyer.
namespace Turns

def seller : Pubkey := .keypair 1
def firstBuyer : Pubkey := .keypair 2
def secondBuyer : Pubkey := .keypair 3
def passport : Pubkey := .passport zero32
def orderPda : Pubkey := .order passport seller

def first : Listing := ⟨10,some ⟨.released,20,firstBuyer⟩⟩
def second : Listing := ⟨30,some ⟨.dispute,40,secondBuyer⟩⟩

theorem dated : ∀ listing ∈ [first,second], 0 < listing.listedAt := by decide
theorem ends : ∀ listing ∈ [first,second], ∀ finish, listing.finish = some finish → listing.listedAt ≤ finish.moment := by
  simp [first,second]
theorem in_turn : [first,second].Pairwise fun earlier later => earlier.listedAt < later.listedAt ∧
    ∀ finish, earlier.finish = some finish → finish.moment ≤ later.listedAt := by
  simp [first,second]

def history : History := ⟨seller,[first,second],dated,ends,in_turn⟩

theorem none_dated : ∀ listing ∈ ([] : List Listing), 0 < listing.listedAt := by simp
theorem none_ends : ∀ listing ∈ ([] : List Listing), ∀ finish, listing.finish = some finish → listing.listedAt ≤ finish.moment := by simp

def histories (key : Pubkey) : History := if key = orderPda then history else ⟨seller,[],none_dated,none_ends,.nil⟩

theorem here : histories orderPda = history := if_pos rfl

def chain (buyer : Pubkey) (state listedAt : ℕ) : ChainOrder where
  passport := passport
  seller := seller
  buyer := some buyer
  asset := .foreign 7
  price := Fin.ofNat _ 5
  state := Fin.ofNat _ state
  listedAt := I64.clip listedAt
  reservedAt := I64.clip (listedAt+1)
  shippedAt := I64.clip (listedAt+2)
  sellerScan := .foreign 8
  buyerScan := .foreign 9
  disputeAfterS := I64.clip 100
  assetDeposited := false

def released : EventJob where
  serial := "FV-1"
  type := .release
  txSig := "first"
  actor := firstBuyer
  sealUidHash := none
  uid := none
  passportPda := passport
  vt := ⟨"first",firstBuyer,some (I64.clip 20),.release,[.config,orderPda,.vault orderPda,.foreign 10,firstBuyer,firstBuyer],[],
    [.orderReleased orderPda seller firstBuyer (Fin.ofNat _ 5) false (I64.clip 20)],some orderPda,none,[]⟩
  facts := .release (some orderPda) (some 5) (some seller) none none
  ts := 50

def disputed (order : Option ChainOrder) : EventJob where
  serial := "FV-1"
  type := .dispute
  txSig := "second"
  actor := secondBuyer
  sealUidHash := none
  uid := none
  passportPda := passport
  vt := ⟨"second",secondBuyer,some (I64.clip 40),.dispute,
    [.config,orderPda,.vault orderPda,.foreign 11,secondBuyer,seller,secondBuyer],[],[],some orderPda,order,[]⟩
  facts := .dispute (some orderPda) none none (some 5)
  ts := 60

theorem shows_first : Shows history first (chain firstBuyer ORDER_RELEASED 10) where
  seller := rfl
  listedAt := by decide
  unfinished := by
    intro unfinished
    cases unfinished
  buyer := by
    intro finish ended
    cases ended
    exact .inr rfl
  final := by
    intro finish ended _
    cases ended
    exact ⟨by decide,rfl⟩

theorem shows_second : Shows history second (chain secondBuyer ORDER_DISPUTE 30) where
  seller := rfl
  listedAt := by decide
  unfinished := by
    intro unfinished
    cases unfinished
  buyer := by
    intro finish ended
    cases ended
    exact .inr rfl
  final := by
    intro finish ended _
    cases ended
    exact ⟨by decide,rfl⟩

theorem posts_first : Posts history orderPda ⟨.released,20,firstBuyer⟩ released where
  address := rfl
  time := by decide
  type := rfl
  events := by
    intro order sold bought amount moved ts own
    have told := (List.mem_filter.mp own).1
    cases List.mem_singleton.mp told
    exact ⟨rfl,rfl⟩
  seller := by
    intro key named
    cases named
  buyer := rfl
  order := by
    intro order read
    cases read

theorem posts_second {order : Option ChainOrder} (shown : ∀ chain, order = some chain → ∃ listing ∈ history.listings, Shows history listing chain) :
    Posts history orderPda ⟨.dispute,40,secondBuyer⟩ (disputed order) where
  address := rfl
  time := (by decide : Option.map (·.val) (some (I64.clip 40)) = some 40)
  type := rfl
  events := by
    intro order sold bought amount moved ts own
    cases (List.mem_filter.mp own).1
  seller := by
    intro key named
    exact (Option.some.inj named).symm
  buyer := rfl
  order := shown

def start : World := ⟨.empty,[]⟩

theorem fresh : Fresh start := ⟨rfl,fun _ => rfl,rfl⟩

-- What a write leaves; the writes below are all accepted.
def left (written : Except SqlError Database) : Database := written.toOption.getD .empty

theorem left_ok {written : Except SqlError Database} (accepted : written.toOption.isSome = true) : written = .ok (left written) := by
  obtain ⟨db,rfl⟩ := exists_ok accepted
  rfl

def cycle (db : Database) : Database := left (db.readOrders 25 [(orderPda,chain firstBuyer ORDER_RELEASED 10)])

def known : World := ⟨left ((cycle .empty).syncEscrowCounters none),[]⟩
def settled : World := ⟨left (recordOutcome known.db released),[(orderPda,10)]⟩
def overwritten : World := ⟨left (recordOutcome settled.db (disputed none)),[(orderPda,30),(orderPda,10)]⟩

theorem read_first {world : World} (stored : (world.db.readOrders 25 [(orderPda,chain firstBuyer ORDER_RELEASED 10)]).toOption.isSome = true)
    (counted : ((cycle world.db).syncEscrowCounters none).toOption.isSome = true) :
    Step histories world (.read 25 [(orderPda,chain firstBuyer ORDER_RELEASED 10)])
      ⟨left ((cycle world.db).syncEscrowCounters none),world.posted⟩ := by
  refine .read _ _ (cycle world.db) _ ?_ (left_ok stored) (left_ok counted)
  intro entry inside
  cases List.mem_singleton.mp inside
  rw [here]
  exact ⟨first,by decide,shows_first⟩

-- The second outcome is posted when its Order is closed: it finds the first listing, the only one that is known.
theorem outcome_overwritten : ¬∀ (histories : Pubkey → History) (start world later : World) (orderPda : Pubkey), Fresh start →
    Run histories (fun _ _ => True) start world → Run histories (fun _ _ => True) world later →
    Upheld (histories orderPda) orderPda world later := by
  intro claimed
  have one : Step histories start _ known := read_first (by decide +kernel) (by decide +kernel)
  have two : Step histories known _ settled := .post orderPda first ⟨.released,20,firstBuyer⟩ released _ (by rw [here]; decide) rfl
    List.not_mem_nil (by rw [here]; exact posts_first) (left_ok (by decide +kernel))
  have three : Step histories settled _ overwritten := .post orderPda second ⟨.dispute,40,secondBuyer⟩ (disputed none) _
    (by rw [here]; decide) rfl (by decide) (by
      rw [here]
      refine posts_second ?_
      intro chain read
      cases read) (left_ok (by decide +kernel))
  have run : Run histories (fun _ _ => True) start overwritten := .step (.step (.step .refl one trivial) two trivial) three trivial
  obtain ⟨place,_,recorded,_⟩ := (claimed histories start overwritten overwritten orderPda fresh run .refl).recorded
  rw [here] at recorded
  obtain ⟨key,placed⟩ := Option.isSome_iff_exists.mp (recorded.posted first (by decide) rfl (by decide))
  obtain ⟨finish,row,ended,_,found,_,_,state⟩ := recorded.own first (by decide) key placed
  cases ended
  have disputes : ∀ row ∈ overwritten.db.escrowOrders.rows, row.state = ORDER_DISPUTE := by decide +kernel
  have dispute := disputes row (Database.getOrder_some.mp found).1
  cases state.symm.trans dispute

-- The first outcome is posted before anything is known of the order, and merged by the read; the second with its Order.
def placed : World := ⟨left (recordOutcome .empty released),[(orderPda,10)]⟩
def merged : World := ⟨left ((cycle placed.db).syncEscrowCounters none),[(orderPda,10)]⟩
def both : World := ⟨left (recordOutcome merged.db (disputed (some (chain secondBuyer ORDER_DISPUTE 30)))),[(orderPda,30),(orderPda,10)]⟩

theorem outcomes_counted_both : Upheld (histories orderPda) orderPda both both := by
  have one : Step histories start _ placed := .post orderPda first ⟨.released,20,firstBuyer⟩ released _ (by rw [here]; decide) rfl
    List.not_mem_nil (by rw [here]; exact posts_first) (left_ok (by decide +kernel))
  have careful : Careful histories start (.post orderPda first ⟨.released,20,firstBuyer⟩ released) := by
    refine .unknown ?_ ?_ (by decide) rfl
    · intro chain read
      cases read
    · intro row present
      cases present
  have two : Step histories placed _ merged := read_first (by decide +kernel) (by decide +kernel)
  have merges : Careful histories placed (.read 25 [(orderPda,chain firstBuyer ORDER_RELEASED 10)]) := by
    refine ⟨?_,fun _ _ => trivial⟩
    rw [here]
    intro listing inside time row present _
    have same : listing = first := history.apart inside (by decide) (time.trans (by decide))
    have only : ∀ row ∈ placed.db.escrowOrders.rows, row.listedAt = -20 := by decide +kernel
    rw [same]
    exact ⟨⟨.released,20,firstBuyer⟩,rfl,only row present,List.mem_cons_self,by decide +kernel,rfl⟩
  have three : Step histories merged _ both := .post orderPda second ⟨.dispute,40,secondBuyer⟩ _ _ (by rw [here]; decide) rfl
    (by decide) (by
      rw [here]
      refine posts_second ?_
      intro chain read
      cases read
      exact ⟨second,by decide,shows_second⟩) (left_ok (by decide +kernel))
  have reads : Careful histories merged (.post orderPda second ⟨.dispute,40,secondBuyer⟩ (disputed (some (chain secondBuyer ORDER_DISPUTE 30)))) :=
    .read _ rfl (by decide)
  exact outcomes_counted fresh (.step (.step (.step .refl one careful) two merges) three reads) .refl orderPda

end Turns
end FlaconVault.Verifier.Listings
