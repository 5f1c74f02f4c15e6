import FlaconVault.Verifier.Issuers
namespace FlaconVault.Verifier
open Guards

-- The issuer of a passport is never refused as another wallet.
def notIssuer : HttpError := ⟨403,"not_issuer"⟩

theorem differs {status : ℕ} {detail : String} (other : status ≠ 403) : (⟨status,detail⟩ : HttpError) ≠ notIssuer := by
  intro same
  exact other (congrArg HttpError.status same)

theorem mismatch_differs : txMismatch ≠ notIssuer := by
  intro same
  exact absurd (congrArg HttpError.detail same) (by decide)

-- An issuer from the chain passes the check.
theorem IssuedOnChain.admits {settings : Settings} {cluster : FlaconVault.Run} {db : Database} {serial : String} {actor : Pubkey}
    (issued : IssuedOnChain settings cluster db) (issues : OnChainIssuer cluster (.passport (settings.serialHash serial)) actor) :
    checkIssuer db serial (db.getPassport serial) actor = .ok () := by
  apply require_pass
  cases found : db.findEvent serial .mint none with
  | none => exact .inl rfl
  | some row =>
    obtain ⟨there,named,mint⟩ := findEvent_some found
    obtain ⟨entry,inside,same⟩ := List.mem_map.mp (issued.mints row.id row there mint)
    obtain ⟨stored,present,entry_is⟩ := List.mem_map.mp inside
    have serial_is : stored.serial = serial := by
      rw [← entry_is] at same
      exact same.trans named
    right
    cases passport : db.getPassport serial with
    | none =>
      have absent := Table.get_none.mp passport
      exact absurd serial_is (absent stored present)
    | some kept =>
      obtain ⟨inside',named'⟩ := Table.get_some.mp passport
      obtain ⟨key,issuer,on_chain⟩ := issued.issuers (kept.serial,kept.issuer) (List.mem_map.mpr ⟨kept,inside',rfl⟩)
      have issuer : kept.issuer = some key := issuer
      have kept_is : kept.serial = serial := named'
      rw [kept_is] at on_chain
      rw [issues.unique on_chain]
      exact issuer

section Requests
variable {settings : Settings} {db : Database}

theorem bindOrder_admits {exp : Expectation} {tx : ParsedTx} {reads : ChainReads} {name : IxName} {ix : Instruction} :
    Avoids notIssuer (bindOrder settings exp tx reads name ix) := by
  unfold Avoids bindOrder
  split
  · exact nofun
  · split
    · exact nofun
    · dsimp only
      split
      · rename_i error fetched
        intro refused
        have refused : error = notIssuer := Except.error.inj refused
        subst refused
        rcases branch fetched with read | unread
        · obtain ⟨_,read⟩ := read
          split at read
          · cases read
          · split at read
            · cases read
            · exact differs (by decide) (Except.error.inj read)
        · cases unread.2
      · split
        · exact nofun
        · exact nofun

theorem findInstruction_admits {exp : Expectation} {tx : ParsedTx} {reads : ChainReads} {signature : Signature} {actor : Pubkey}
    {instructions : List Instruction} : Avoids notIssuer (findInstruction settings exp tx reads signature actor instructions) := by
  induction instructions with
  | nil => exact fun refused => mismatch_differs (Except.error.inj refused)
  | cons ix rest ih =>
    unfold findInstruction
    split
    · exact ih
    · rename_i name _
      split
      · rename_i error bound
        exact fun refused => bindOrder_admits (bound.trans (congrArg _ (Except.error.inj refused)))
      · exact ih
      · split
        · exact fun refused => differs (by decide) (Except.error.inj refused)
        · intro refused
          cases refused

theorem verifyTransaction_admits {reads : ChainReads} {signature : Signature} {actor : Pubkey} {exp : Expectation} :
    Avoids notIssuer (verifyTransaction settings reads signature actor exp) := by
  unfold verifyTransaction
  apply Avoids.bind
  · cases reads.transaction with
    | ok res => exact nofun
    | error refusal =>
      cases refusal with
      | busy => exact fun refused => differs (by decide) (Except.error.inj refused)
      | notVisible => exact fun refused => differs (by decide) (Except.error.inj refused)
      | rateLimited => exact fun refused => differs (by decide) (Except.error.inj refused)
  · intro res _
    apply Avoids.bind (Avoids.require mismatch_differs)
    intro _ _
    apply Avoids.bind (Avoids.require mismatch_differs)
    intro _ _
    exact findInstruction_admits

theorem expectation_admits {type : EventType} {serial : String} {sealUidHash : Option Bytes32} {counter : Option ℕ} :
    Avoids notIssuer (expectation settings db type serial sealUidHash counter) := by
  unfold expectation
  apply Avoids.bind (Avoids.orRefuse (differs (by decide)))
  intro _ _
  split
  · exact Avoids.pure
  · apply Avoids.bind (Avoids.orRefuse (differs (by decide)))
    intro _ _
    exact Avoids.pure

theorem txFacts_admits {type : EventType} {vt : VerifiedTx} {body : EventBody} {serial : String} {reads : ChainReads} :
    Avoids notIssuer (txFacts settings type vt body serial reads) := by
  unfold txFacts
  cases type with
  | mint =>
    dsimp only
    split
    · apply Avoids.bind (Avoids.require mismatch_differs)
      intro _ _
      apply Avoids.bind (Avoids.require mismatch_differs)
      intro _ _
      exact Avoids.pure
    · exact fun refused => mismatch_differs (Except.error.inj refused)
  | sealAttach =>
    dsimp only
    split
    · exact Avoids.pure
    · exact Avoids.pure
  | receive =>
    dsimp only
    split
    · exact Avoids.pure
    · exact Avoids.pure
    · exact Avoids.pure
  | release =>
    dsimp only
    split
    · exact Avoids.pure
    · exact Avoids.pure
  | dispute =>
    dsimp only
    split
    · exact Avoids.pure
    · exact Avoids.pure
  | scan => exact fun refused => mismatch_differs (Except.error.inj refused)
  | sealDead => exact Avoids.pure
  | list => exact Avoids.pure
  | reserve => exact Avoids.pure
  | ship => exact Avoids.pure

theorem sql_admits {α : Type} {outcome : Except SqlError α} : Avoids notIssuer (sql outcome) := by
  unfold sql
  split
  · exact nofun
  · exact fun refused => differs (by decide) (Except.error.inj refused)

theorem sealOfSerial_admits {hash : Bytes32} {serial : String} : Avoids notIssuer (sealOfSerial db hash serial) := by
  unfold sealOfSerial
  apply Avoids.bind (Avoids.orRefuse (differs (by decide)))
  intro _ _
  exact Avoids.require (differs (by decide))

theorem hash_admits {text : String} :
    Avoids notIssuer ((orRefuse (parseHash text) (⟨422,"sealUidHash"⟩ : HttpError)).map some) := by
  cases parseHash text with
  | some hash => exact nofun
  | none => exact fun refused => differs (by decide) (Except.error.inj refused)

theorem admitEvent_admits {body : EventBody} {serial : String} {type : EventType} {txSig : Signature} {actor : Pubkey}
    {sealUidHash : Option Bytes32} (admits : checkIssuer db serial (db.getPassport serial) actor = .ok ()) :
    Avoids notIssuer (admitEvent settings db body serial type txSig actor sealUidHash) := by
  unfold admitEvent
  dsimp only
  split
  · apply Avoids.bind (Avoids.require (differs (by decide)))
    intro _ _
    rw [admits,ok_bind]
    split
    · exact Avoids.pure
    · apply Avoids.bind (Avoids.require (differs (by decide)))
      intro _ _
      exact Avoids.pure
  · apply Avoids.bind (Avoids.require (differs (by decide)))
    intro _ _
    apply Avoids.bind (Avoids.orRefuse (differs (by decide)))
    intro _ _
    apply Avoids.bind (Avoids.orRefuse (differs (by decide)))
    intro _ _
    apply Avoids.bind (Avoids.require (differs (by decide)))
    intro _ _
    exact Avoids.pure
  · split
    · exact Avoids.pure
    · apply Avoids.bind (Avoids.require (differs (by decide)))
      intro _ _
      split
      · apply Avoids.bind sealOfSerial_admits
        intro _ _
        exact Avoids.pure
      · exact Avoids.pure

theorem eventRead_admits {body : EventBody} {reads : ChainReads} {now : I64}
    (admits : ∀ serial actor, body.serial = some serial → body.actor.bind (·.pubkey) = some actor →
      checkIssuer db serial (db.getPassport serial) actor = .ok ()) : Avoids notIssuer (eventRead settings db body reads now) := by
  unfold eventRead
  apply Avoids.bind (Avoids.require (differs (by decide)))
  intro _ _
  apply Avoids.bind (Avoids.orRefuse (differs (by decide)))
  intro serial named
  apply Avoids.bind (Avoids.orRefuse (differs (by decide)))
  intro type _
  apply Avoids.bind (Avoids.require (differs (by decide)))
  intro _ _
  dsimp only
  split
  all_goals
    apply Avoids.bind
    · first
      | exact Avoids.pure
      | exact hash_admits
    · intro sealUidHash _
      apply Avoids.bind (Avoids.require (differs (by decide)))
      intro _ _
      apply Avoids.bind (Avoids.orRefuse (differs (by decide)))
      intro txSig _
      apply Avoids.bind (Avoids.orRefuse (differs (by decide)))
      intro actor posted
      apply Avoids.bind (admitEvent_admits (admits serial actor (orRefuse_ok.mp named) (orRefuse_ok.mp posted)))
      intro found _
      obtain ⟨known,uid,hash⟩ := found
      dsimp only
      split
      · exact Avoids.pure
      · apply Avoids.bind expectation_admits
        intro exp _
        apply Avoids.bind verifyTransaction_admits
        intro vt _
        apply Avoids.bind txFacts_admits
        intro facts _
        exact Avoids.pure

theorem mintPassport_admits {job : EventJob} {label brand name batch : Option String} {asset : Option Pubkey}
    {bindingHash : Option Bytes32} : Avoids notIssuer (mintPassport settings db job label brand name batch asset bindingHash) := by
  unfold mintPassport
  apply Avoids.bind (Avoids.require (differs (by decide)))
  intro _ _
  apply Avoids.bind sql_admits
  intro _ _
  apply Avoids.bind (Avoids.orRefuse (differs (by decide)))
  intro _ _
  exact Avoids.pure

-- The two ends of a new event: the insert, and the row that is there already.
theorem store_admits {job : EventJob} {label : Option String} {sealUidHash : Option Bytes32} {facts : Facts} :
    Avoids notIssuer (do
      let passport ← orRefuse (db.getPassport job.serial) (⟨404,"passport not found"⟩ : HttpError)
      let make := newEvent job label sealUidHash facts passport
      pure (db.insertEvent make (fun _ => rfl),make db.events.next)) := by
  apply Avoids.bind (Avoids.orRefuse (differs (by decide)))
  intro _ _
  exact Avoids.pure

theorem settled_admits {job : EventJob} {facts : Facts} {existing : EventRow} :
    Avoids notIssuer (do
      let settled := settleExisting db existing facts job.txSig job.actor
      pure (settled,← orRefuse (settled.getEvent existing.id) internalError)) := by
  apply Avoids.bind (Avoids.orRefuse (differs (by decide)))
  intro _ _
  exact Avoids.pure

theorem eventWrite_admits {job : EventJob} (admits : checkIssuer db job.serial (db.getPassport job.serial) job.actor = .ok ()) :
    Avoids notIssuer (eventWrite settings db job) := by
  unfold eventWrite
  dsimp only
  split
  · exact Avoids.pure
  · have checked : checkIssuer (db.upsertAttester job.actor job.ts) job.serial
        ((db.upsertAttester job.actor job.ts).getPassport job.serial) job.actor = .ok () := admits
    split
    · rw [checked,ok_bind]
      split
      · split
        · exact Avoids.pure
        · apply Avoids.bind mintPassport_admits
          intro minted _
          exact settled_admits
      · apply Avoids.bind mintPassport_admits
        intro minted _
        exact store_admits
    · apply Avoids.bind (Avoids.require (differs (by decide)))
      intro _ _
      split
      · apply Avoids.bind (Avoids.require (differs (by decide)))
        intro _ _
        split
        · exact Avoids.pure
        · split
          · apply Avoids.bind (Avoids.require mismatch_differs)
            intro _ _
            apply Avoids.bind sql_admits
            intro _ _
            split
            · exact settled_admits
            · exact store_admits
          · exact fun refused => mismatch_differs (Except.error.inj refused)
      · exact fun refused => differs (by decide) (Except.error.inj refused)
    · apply Avoids.bind (Avoids.require (differs (by decide)))
      intro _ _
      exact store_admits
    · apply Avoids.bind (Avoids.require (differs (by decide)))
      intro _ _
      split
      · apply Avoids.bind sql_admits
        intro _ _
        exact store_admits
      · exact store_admits

end Requests

def Answer.refusal : Answer → Option HttpError
  | .refused error => some error
  | _ => none

theorem Answer.refusal_some {answer : Answer} {error : HttpError} : answer.refusal = some error ↔ answer = .refused error := by
  cases answer with
  | refused other => simp [refusal]
  | _ => simp [refusal]

namespace Run
variable {settings : Settings} {run : Run}

-- A post of a wallet for a serial, or the write that ends it.
inductive Posting (settings : Settings) (run : Run) (n : ℕ) (serial : String) (actor : Pubkey) : Prop
  | read (body : EventBody) (reads : ChainReads) (now : I64) (action : run.actions n = .postEvent body reads now)
      (named : body.serial = some serial) (posted : body.actor.bind (·.pubkey) = some actor)
  | write (index : ℕ) (now : I64) (job : EventJob) (action : run.actions n = .finish index now)
      (there : (run.server settings n).jobs[index]? = some (.event job)) (named : job.serial = serial) (posted : job.actor = actor)

theorem issuer_admitted (chain : MintsRead settings run) {n : ℕ} (alone : ∀ m < n, run.Alone settings m) {serial : String} {actor : Pubkey}
    (issues : OnChainIssuer chain.cluster (.passport (settings.serialHash serial)) actor) (posting : run.Posting settings n serial actor) :
    run.answer settings n ≠ .refused notIssuer := by
  have admits := (issued chain alone).admits issues
  have answer_is : run.answer settings n = (Server.step settings (run.server settings n) (run.actions n)).2 := rfl
  cases posting with
  | read body reads now action named posted =>
    rw [answer_is,action]
    have avoids : Avoids notIssuer (eventRead settings (run.db settings n) body reads now) := by
      apply eventRead_admits
      intro serial' actor' named' posted'
      cases named.symm.trans named'
      cases posted.symm.trans posted'
      exact admits
    unfold Server.step
    dsimp only
    split
    · exact nofun
    · exact nofun
    · rename_i error refused
      intro told
      cases told
      exact avoids refused
  | write index now job action there named posted =>
    subst named
    subst posted
    rw [answer_is,action]
    simp only [Server.step,there,Server.finish]
    intro told
    rcases answered_cases ⟨run.db settings n,(run.server settings n).jobs.eraseIdx index⟩ (eventWrite settings (run.db settings n) job) .event
      with refused | accepted
    · obtain ⟨error,refused,same⟩ := refused
      cases (congrArg Prod.snd same).symm.trans told
      exact eventWrite_admits admits refused
    · obtain ⟨later,row,_,same⟩ := accepted
      cases (congrArg Prod.snd same).symm.trans told

end Run

-- Whom a confirmed event names. What the requests check is not the signer's position, so the law needs that no other signer
-- of the transaction stands in the instruction.
structure ActorLaw (settings : Settings) : Prop where
  exact : ∀ reads res signature exp, reads.transaction = .ok res → (res.signatures = [] ∨ signature ∈ res.signatures) → res.err = none →
    ((∀ actor vt, verifyTransaction settings reads signature actor exp = .ok vt → vt.account .signer = some actor) ↔
      coSigners settings exp reads (parseTransaction res) = [])
  stored : ∀ run n row, Run.Stores settings run n row → ∃ m < n, ∃ vt, Vouches settings (run.db settings m) (run.actions m) row vt ∧
    (row.type = .scan ∨ run.Alone settings m → vt.account .signer = row.actor)
  issuer : ∀ run (chain : MintsRead settings run) n, (∀ m < n, run.Alone settings m) →
    ∀ serial passport, (run.db settings n).getPassport serial = some passport →
      ∃ key, passport.issuer = some key ∧ OnChainIssuer chain.cluster (.passport (settings.serialHash serial)) key
  admitted : ∀ run (chain : MintsRead settings run) n, (∀ m < n, run.Alone settings m) →
    ∀ serial actor, OnChainIssuer chain.cluster (.passport (settings.serialHash serial)) actor →
      run.Posting settings n serial actor → run.answer settings n ≠ .refused ⟨403,"not_issuer"⟩

theorem actor_law (settings : Settings) : ActorLaw settings where
  exact reads res signature exp read named succeeded := verified_signers read named succeeded
  stored run n row stores := by
    obtain ⟨m,before,vt,vouches⟩ := Run.stores_vouched stores
    refine ⟨m,before,vt,vouches,?_⟩
    intro bound
    rw [vouches.actor]
    rcases bound with scan | alone
    · exact vouches.scan scan
    · by_cases scan : row.type = .scan
      · exact vouches.scan scan
      · obtain ⟨reads,exp,asks,verified⟩ := vouches.verified
        obtain ⟨res,told,_,_⟩ := verified_parts verified
        exact verified_signer told (alone row.type row.serial reads exp res asks scan told) verified
  issuer run chain n alone serial passport found := by
    obtain ⟨inside,named⟩ := Table.get_some.mp found
    obtain ⟨key,issuer,on_chain⟩ := (Run.issued chain alone).issuers (passport.serial,passport.issuer)
      (List.mem_map.mpr ⟨passport,inside,rfl⟩)
    have named : passport.serial = serial := named
    rw [named] at on_chain
    exact ⟨key,issuer,on_chain⟩
  admitted run chain n alone serial actor issues posting := Run.issuer_admitted chain alone issues posting

-- Of a transaction with one mint instruction, the signer is at the third place.
theorem mint_signer {settings : Settings} {exp : Expectation} {tx : ParsedTx} {reads : ChainReads} {signature : Signature} {actor : Pubkey}
    {ix : Instruction} {vt : VerifiedTx} (minting : exp.instructions = [.mintPassport]) (one : tx.instructions = [ix])
    (found : findInstruction settings exp tx reads signature actor tx.instructions = .ok vt) : vt.account .signer = ix.accounts[2]? := by
  obtain ⟨same,inside,name,chosen,_,_,vt_is⟩ := findInstruction_found found
  obtain rfl : same = ix := List.mem_singleton.mp (one ▸ inside)
  obtain ⟨named,_,_,_⟩ := candidate_some chosen
  obtain ⟨_,allowed,_⟩ := named_some named
  rw [minting,List.mem_singleton] at allowed
  rw [vt_is]
  unfold VerifiedTx.account
  dsimp only
  rw [allowed]
  rfl

-- The issuer alone signs the mint: the passport is its own, and it may go on posting.
namespace OrdinaryMint
open Attachments (serial issuer program passport core asset post reads now)

def minting : TxResult :=
  ⟨["mint"],[issuer,passport,.registry,program,core],1,[],[],
    [⟨some 3,[2,1,0,3,4],ixDisc .mintPassport ++ (Settings.sample.serialHash serial).val ++ zero32.val ++ asset.val⟩],[],none,none,[]⟩

def run : Run := ⟨fun
  | 1 => .finish 0 now
  | _ => .postEvent (post .mint "mint" none) (reads minting) now⟩

def calls : List FlaconVault.Call := [
  .flacon (.initRegistry ⟨.registry,issuer⟩),
  .core (.create core issuer),
  .flacon (.mintPassport ⟨.registry,passport,issuer,core⟩ (Settings.sample.serialHash serial) zero32 core)]

def cluster : FlaconVault.Run := ⟨some issuer,none,fun n => ⟨calls.getD n (.core (.burn core issuer)),.zero⟩⟩

theorem acts : ∀ m, run.actions m = .finish 0 now ∨ run.actions m = .postEvent (post .mint "mint" none) (reads minting) now
  | 0 => .inr rfl
  | 1 => .inl rfl
  | _+2 => .inr rfl

theorem asked {m : ℕ} {type : EventType} {text : String} {told : ChainReads} {exp : Expectation}
    (asks : Asks Settings.sample (run.db Settings.sample m) (run.actions m) type text told exp) :
    told = reads minting ∧ exp.instructions = [.mintPassport] := by
  rcases acts m with idle | posts
  · rw [idle] at asks
    cases asks
  · rw [posts] at asks
    cases asks with
    | event _ _ _ _ _ _ _ typed _ expected =>
      cases typed
      exact ⟨rfl,(expectation_mint expected).1⟩

theorem alone (m : ℕ) : run.Alone Settings.sample m := by
  intro type text told exp res asks _ read
  obtain ⟨rfl,instructions⟩ := asked asks
  obtain rfl : minting = res := Except.ok.inj read
  refine (verified_signers read (.inr (List.mem_singleton_self "mint")) rfl).mp ?_
  intro actor vt verified
  obtain ⟨res,told,signs,found⟩ := verified_parts verified
  obtain rfl : minting = res := Except.ok.inj told
  rw [mint_signer instructions rfl found,List.mem_singleton.mp signs]
  rfl

theorem minted : Minted cluster ⟨.registry,passport,issuer,core⟩ := by
  have accepted : (process (cluster.schedule 2) (cluster.ledger 2)).toOption.isSome = true := by decide +kernel
  obtain ⟨after,result⟩ := exists_ok accepted
  refine ⟨2,_,_,_,rfl,?_⟩
  rw [result,FlaconVault.Run.ledger_succ,execute_of_accepted result]

def chain : MintsRead Settings.sample run where
  cluster := cluster
  executed := by
    intro m text told exp res ix asks read _ inside _
    obtain ⟨rfl,_⟩ := asked asks
    obtain rfl : minting = res := Except.ok.inj read
    rw [List.mem_singleton.mp inside]
    exact ⟨_,rfl,minted⟩

theorem issuer_kept : (∃ row, (run.db Settings.sample 2).getPassport serial = some row ∧ row.issuer = some issuer) ∧
    run.answer Settings.sample 2 ≠ .refused ⟨403,"not_issuer"⟩ := by
  have law := actor_law Settings.sample
  have issued : OnChainIssuer cluster passport issuer := minted.issues
  refine ⟨?_,law.admitted run chain 2 (fun m _ => alone m) serial issuer issued (.read _ _ _ rfl rfl rfl)⟩
  have stored : ((run.db Settings.sample 2).getPassport serial).isSome = true := by decide +kernel
  obtain ⟨row,found⟩ := Option.isSome_iff_exists.mp stored
  obtain ⟨key,named,onChain⟩ := law.issuer run chain 2 (fun m _ => alone m) serial row found
  exact ⟨row,found,named.trans (congrArg some (onChain.unique issued))⟩

end OrdinaryMint

-- The asset's key signs its creation, so it can be posted as the actor of the mint; the issuer is refused from then on.
namespace Attachments

def squatting : Run := ⟨fun
  | 0 => .postEvent {post .mint "mint" none with actor := some (.key core)} (reads minting) now
  | 1 => .finish 0 now
  | _ => .postEvent (post .mint "mint" none) (reads minting) now⟩

def squatted : EventRow :=
  ⟨1,serial,.mint,100,some core,none,some "mint",.confirmed,none,
    ⟨.facts (.mint (some "Brand") (some "Flacon") none (some core) (some zero32)),none⟩,some Grade.A,none,none,none⟩

theorem squatted_stored : squatting.Stores Settings.sample 1 squatted where
  later := by decide +kernel
  settled := rfl
  new := by
    intro old found
    have empty : (squatting.db Settings.sample 1).getEvent squatted.id = none := by decide +kernel
    cases empty.symm.trans found
  posted := by
    have started : ((squatting.server Settings.sample 1).jobs[0]?).isSome = true := by decide +kernel
    obtain ⟨job,there⟩ := Option.isSome_iff_exists.mp started
    refine ⟨0,now,job,rfl,there,?_⟩
    intro cycle same
    subst same
    obtain ⟨m,before,begun⟩ := Run.origin (List.mem_of_getElem? there)
    obtain rfl : m = 0 := by omega
    cases begun

-- The transaction that was verified for it is the issuer's.
theorem squatted_signer {vt : VerifiedTx} (vouches : Vouches Settings.sample (squatting.db Settings.sample 0) (squatting.actions 0) squatted vt) :
    vt.account .signer = some issuer := by
  obtain ⟨reads',exp,asks,verified⟩ := vouches.verified
  generalize action_is : squatting.actions 0 = action at asks
  generalize squatted.serial = serial' at asks
  generalize type_is : squatted.type = type at asks
  cases asks with
  | event body _ now _ _ sealUidHash _ typed named expected =>
    cases action_is
    cases type_is
    obtain ⟨instructions,_⟩ := expectation_mint expected
    obtain ⟨res,told,_,found⟩ := verified_parts verified
    have same : minting = res := Except.ok.inj told
    subst same
    exact mint_signer instructions rfl found
  | confirm => cases action_is

-- The stored actor is another wallet than the signer of its instruction, and the issuer's own post is refused.
theorem mint_squatted : ¬((∀ n row, squatting.Stores Settings.sample n row → ∃ m < n, ∃ vt,
    Vouches Settings.sample (squatting.db Settings.sample m) (squatting.actions m) row vt ∧ vt.account .signer = row.actor) ∨
    squatting.answer Settings.sample 2 ≠ .refused ⟨403,"not_issuer"⟩) := by
  intro law
  rcases law with bound | admitted
  · obtain ⟨m,before,vt,vouches,signer⟩ := bound 1 squatted squatted_stored
    obtain rfl : m = 0 := by omega
    rw [squatted_signer vouches] at signer
    exact absurd signer (by decide +kernel)
  · exact admitted (Answer.refusal_some.mp (by decide +kernel))

end Attachments
end FlaconVault.Verifier
