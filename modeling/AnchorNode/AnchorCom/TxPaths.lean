import AnchorNode.AnchorCom.TxMoves

/-! Every step of the transmit half is a path of moves. -/

namespace AnchorNode.AnchorCom.Tx

open AnchorNode.Lib

variable {cfg : Config} {env : Env} {ok : State → Op → Prop} {s t : State} {i : Nat}

def Path (cfg : Config) (env : Env) (ok : State → Op → Prop) : State → State → Prop :=
  Relation.ReflTransGen (Move cfg env ok)

theorem Move.path (move : Move cfg env ok s t) : Path cfg env ok s t :=
  Relation.ReflTransGen.single move

theorem Path.invariant (Inv : Core → Prop)
    (preserved : ∀ s t, Move cfg env ok s t → Inv s.toCore → Inv t.toCore)
    (path : Path cfg env ok s t) (initial : Inv s.toCore) : Inv t.toCore := by
  induction path with
  | refl => exact initial
  | tail _ move ih => exact preserved _ _ move ih

theorem Move.still (same : t.toCore = s.toCore) : Move cfg env ok s t := by
  apply Move.quiet []
  · intro e member
    cases member
  · rw [same, List.append_nil]

theorem Move.report (id : Nat) (api : ApiId) (error : ErrorId)
    (becomes : t.toCore = (s.emit (.reportError id api error)).toCore) : Move cfg env ok s t := by
  apply Move.quiet [.reportError id api error]
  · intro e member
    exact ⟨id, api, error, List.mem_singleton.mp member⟩
  · exact becomes

theorem front_entry (s : State) (i : Nat) : s.entry i (s.queue i).head = s.front i := rfl

theorem getTxQueueHead_filled (filled : (s.queue i).isEmpty = false) :
    getTxQueueHead s i = some (s.queue i).head := by
  simp [getTxQueueHead, filled]

theorem getTxQueueHead_empty (empty : (s.queue i).isEmpty = true) :
    getTxQueueHead s i = none := by
  simp [getTxQueueHead, empty]

theorem front_mem (filled : (s.queue i).isEmpty = false) : s.front i ∈ s.entries i := by
  simp [Core.entries, Core.front, Ring.toList_cons _ filled]

theorem Queued.atFront (queued : Queued cfg s.toCore) (bound : i < cfg.numLlTx)
    (filled : (s.queue i).isEmpty = false) : AtFront cfg s i where
  bound := bound
  filled := filled
  own := queued.own i bound _ (front_mem filled)

section Stages

theorem lookAtHead_move (queued : Queued cfg s.toCore) (bound : i < cfg.numLlTx) :
    Move cfg env ok s (lookAtHead i s) := by
  cases filled : (s.queue i).isEmpty with
  | true =>
      simp only [lookAtHead, getTxQueueHead_empty filled]
      exact Move.still rfl
  | false =>
      have atFront := queued.atFront bound filled
      have own := atFront.own.anchorId
      simp only [lookAtHead, getTxQueueHead_filled filled, front_entry]
      split
      · rename_i done
        apply Move.retired i atFront done
        simp [finishData, removeTxQueueHead, front_entry, own, filled]
      · rename_i running
        exact Move.counted i atFront running rfl
      · exact Move.still rfl

theorem txFormatForCrypto_core (atFront : AtFront cfg s i) {fresh : Mem} {truncFresh : UInt8}
    (given : env.txFreshness s.log = some (fresh, truncFresh)) :
    (txFormatForCrypto cfg env i (s.queue i).head s).1.toCore =
      { (((s.setFront i (formatEntry cfg truncFresh (s.front i))).setBuffer i (s.front i).msgIdx
        (formatBuffer cfg i (s.front i).msgIdx fresh (s.msgTxInfo i (s.front i).msgIdx).length
          (s.buffer i (s.front i).msgIdx))).setInfo i (s.front i).msgIdx
        { s.msgTxInfo i (s.front i).msgIdx with
          length := formatLength cfg (s.front i).msgIdx
            (s.msgTxInfo i (s.front i).msgIdx).length }).toCore with
        log := s.log ++ (formatWrites cfg i (s.front i).msgIdx
            (s.msgTxInfo i (s.front i).msgIdx).length ++
          [.formatted (s.front i).ticket (s.msgTxInfo i (s.front i).msgIdx).length]) } := by
  have own := atFront.own.anchorId
  simp only [txFormatForCrypto, given, front_entry, own]
  by_cases secret : (cfg.msgCfg (s.front i).msgIdx).encDecFlag = true
  · by_cases none : paddingLen (s.msgTxInfo i (s.front i).msgIdx).length = 0
    · simp [own, formatEntry, formatBuffer, formatLength, formatWrites, padPayload, padBuffer,
        secret, none,
        State.setFront, State.setEntry, State.setQueue, State.store, State.setBuffer,
        State.setInfo, State.emit]
    · simp [own, formatEntry, formatBuffer, formatLength, formatWrites, padPayload, padBuffer,
        secret, none,
        State.setFront, State.setEntry, State.setQueue, State.store, State.setBuffer,
        State.setInfo, State.emit]
  · simp [own, formatEntry, formatBuffer, formatLength, formatWrites, secret, State.setFront,
      State.setEntry,
      State.setQueue, State.store, State.setBuffer, State.setInfo, State.emit]

theorem txFormatForCrypto_pointer (cfg : Config) (env : Env) (q h : Nat) (s : State) :
    (txFormatForCrypto cfg env q h s).1.txHeadPtr = s.txHeadPtr := by
  have pads : ∀ (i m : Nat) (u : State), (padPayload i m u).txHeadPtr = u.txHeadPtr := by
    intro i m u
    simp only [padPayload]
    split <;> rfl
  cases given : env.txFreshness s.log with
  | none => simp [txFormatForCrypto, given]
  | some fresh =>
      by_cases secret : (cfg.msgCfg (s.entry q h).msgIdx).encDecFlag = true
      · simp [txFormatForCrypto, given, secret, pads]
      · simp [txFormatForCrypto, given, secret]

theorem AtFront.replaced (atFront : AtFront cfg s i) {e : Entry}
    (own : EntryOk cfg s.nextTicket i e) (queue : t.queue = (s.setFront i e).queue)
    (next : t.nextTicket = s.nextTicket) :
    AtFront cfg t i ∧ t.front i = e ∧ (t.queue i).head = (s.queue i).head := by
  have here : t.queue i = (s.queue i).set (s.queue i).head e := by
    simp [queue, State.setFront]
  have front : t.front i = e := by simp [Core.front, here, Ring.front]
  have filled : (t.queue i).isEmpty = false := by simp [here, atFront.filled]
  refine ⟨⟨atFront.bound, filled, ?_⟩, front, by simp [here]⟩
  rw [front, next]
  exact own

theorem txStartEncryption_worked (atFront : AtFront cfg s i)
    (ready : (s.front i).queueState = .encReady) :
    ∃ e' buf' len' events, Worked cfg env s i
      ((txStartEncryption env i (s.queue i).head s).1.setEntry i
        (s.queue i).head (encryptionResult cfg (txStartEncryption env i (s.queue i).head s).2
          ((txStartEncryption env i (s.queue i).head s).1.entry i (s.queue i).head)))
      e' buf' len' events := by
  have own := atFront.own.anchorId
  refine ⟨_, _, _, _, Work.encrypted _ _ _ _ ready rfl rfl rfl rfl, ?_⟩
  simp only [txStartEncryption, State.emit_entry, State.setBuffer_entry, front_entry, own]
  simp [State.setFront, State.setEntry, State.setQueue, State.setBuffer, State.setInfo,
    State.emit]

theorem txPart1_worked (atFront : AtFront cfg s i) (queued : (s.front i).queueState = .queued) :
    (∃ e' buf' len' events, Worked cfg env s i (txPart1 cfg env i (s.queue i).head s)
      e' buf' len' events) ∨
    ∃ u e' buf' len' events, Worked cfg env s i u e' buf' len' events ∧ AtFront cfg u i ∧
      u.txHeadPtr = s.txHeadPtr ∧ ∃ e'' buf'' len'' events', Worked cfg env u i
        (txPart1 cfg env i (s.queue i).head s) e'' buf'' len'' events' := by
  cases given : env.txFreshness s.log with
  | none =>
      refine Or.inl ⟨_, _, _, _, Work.unfresh queued given, ?_⟩
      have same : txPart1 cfg env i (s.queue i).head s = s.setFront i
          { s.front i with errCounter := (s.front i).errCounter + 1 } := by
        simp [txPart1, txFormatForCrypto, given, front_entry, queued, State.setFront]
      rw [same]
      simp [State.setFront, State.setEntry, State.setQueue]
  | some fresh =>
      have core := txFormatForCrypto_core atFront given
      have first : Worked cfg env s i (txFormatForCrypto cfg env i (s.queue i).head s).1 _ _ _ _ :=
        ⟨Work.formatted fresh.1 fresh.2 queued given, core⟩
      have fine : (txFormatForCrypto cfg env i (s.queue i).head s).2 = .ok := by
        simp [txFormatForCrypto, given]
      have pointer := txFormatForCrypto_pointer cfg env i (s.queue i).head s
      have own : EntryOk cfg s.nextTicket i (formatEntry cfg fresh.2 (s.front i)) :=
        ⟨atFront.own.anchorId, atFront.own.msgIdx, atFront.own.channel, atFront.own.ticket,
          atFront.own.broadcast⟩
      have next := atFront.replaced (t := (txFormatForCrypto cfg env i (s.queue i).head s).1)
        own (by rw [core]; rfl) (by rw [core]; rfl)
      simp only [txPart1, front_entry, queued, if_true, fine, ne_eq, not_true_eq_false, if_false]
      generalize (txFormatForCrypto cfg env i (s.queue i).head s).1 = formatted at *
      split
      · rename_i ready
        rw [← next.2.2] at ready ⊢
        exact Or.inr ⟨formatted, _, _, _, _, first, next.1, pointer,
          txStartEncryption_worked next.1 ready⟩
      · exact Or.inl ⟨_, _, _, _, first⟩

theorem txPart1_other (other : (s.front i).queueState ≠ .queued) :
    txPart1 cfg env i (s.queue i).head s = s := by
  simp [txPart1, front_entry, other]

theorem txPart1_path (atFront : AtFront cfg s i) :
    Path cfg env ok s (txPart1 cfg env i (s.queue i).head s) := by
  by_cases queued : (s.front i).queueState = .queued
  · rcases txPart1_worked atFront queued with ⟨_, _, _, _, worked⟩ |
      ⟨u, _, _, _, _, first, middle, _, _, _, _, _, second⟩
    · exact (Move.work i _ _ _ _ atFront worked).path
    · exact (Move.work i _ _ _ _ atFront first).path.tail (Move.work i _ _ _ _ middle second)
  · rw [txPart1_other queued]
    exact (Move.still rfl).path

/-- The string that is authenticated: header, payload and freshness value. -/
def authenticString (s : State) (i : Nat) : List UInt8 :=
  (s.buffer i (s.front i).msgIdx).read 0
    (u16 ((s.msgTxInfo i (s.front i).msgIdx).length + headerLen + freshLen))

theorem txStartCmac_front (atFront : AtFront cfg s i) :
    txStartCmac env i (s.queue i).head s =
      ((s.setFront i { s.front i with
          cmacValue := (env.authenticate s.log (authenticString s i)).2.read 0 cmacLen }).emit
        (.authenticated (s.front i).ticket (authenticString s i)
          ((env.authenticate s.log (authenticString s i)).2.read 0 cmacLen)),
        (env.authenticate s.log (authenticString s i)).1) := by
  simp only [txStartCmac, front_entry, atFront.own.anchorId]
  rfl

theorem txPart2_worked (atFront : AtFront cfg s i) (ready : (s.front i).queueState = .cmacReady) :
    ∃ e' buf' len' events, Worked cfg env s i (txPart2 cfg env i (s.queue i).head s)
      e' buf' len' events := by
  have own := atFront.own.anchorId
  simp only [txPart2, front_entry, ready, if_true]
  rw [txStartCmac_front atFront]
  cases taken : (env.authenticate s.log (authenticString s i)).1 with
  | ok =>
      refine ⟨_, _, _, _, Work.sealed _ _ _ _ _ _ ready rfl rfl rfl taken rfl rfl rfl, ?_⟩
      simp only [appendTrailer, State.setFront, State.emit_entry, State.setEntry_entry]
      simp [own, authenticString, State.setEntry, State.setQueue, State.store,
        State.setBuffer, State.setInfo, State.emit]
  | pending =>
      refine ⟨_, _, _, _, Work.unauthenticated _ _ _ _ ready rfl rfl rfl
        (Or.inl ⟨taken, rfl⟩), ?_⟩
      simp only [State.setFront, State.emit_entry, State.setEntry_entry]
      simp [authenticString, State.setEntry, State.setQueue, State.setBuffer, State.setInfo,
        State.emit]
  | fail =>
      refine ⟨_, _, _, _, Work.unauthenticated _ _ _ _ ready rfl rfl rfl
        (Or.inr (Or.inl ⟨taken, rfl⟩)), ?_⟩
      simp only [State.setFront, State.emit_entry, State.setEntry_entry]
      simp [authenticString, State.setEntry, State.setQueue, State.setBuffer, State.setInfo,
        State.emit]
  | fatalFail =>
      refine ⟨_, _, _, _, Work.unauthenticated _ _ _ _ ready rfl rfl rfl
        (Or.inr (Or.inr ⟨taken, rfl⟩)), ?_⟩
      simp only [State.setFront, State.emit_entry, State.setEntry_entry]
      simp [authenticString, State.setEntry, State.setQueue, State.setBuffer, State.setInfo,
        State.emit]

theorem txPart2_other (other : (s.front i).queueState ≠ .cmacReady) :
    txPart2 cfg env i (s.queue i).head s = s := by
  simp [txPart2, front_entry, other]

theorem txPart2_move (atFront : AtFront cfg s i) :
    Move cfg env ok s (txPart2 cfg env i (s.queue i).head s) := by
  by_cases ready : (s.front i).queueState = .cmacReady
  · obtain ⟨_, _, _, _, worked⟩ := txPart2_worked atFront ready
    exact Move.work i _ _ _ _ atFront worked
  · rw [txPart2_other ready]
    exact Move.still rfl

theorem startRequest_move {todo : List Nat} (atFront : AtFront cfg s i)
    (task : s.task = some ⟨i, .request, todo⟩) (pointer : s.txHeadPtr.isSome = true)
    (allowed : ok s .resume) : Move cfg env ok s (startRequest i (s.queue i).head s) := by
  unfold startRequest
  split
  · rename_i ready
    apply Move.requested i todo atFront task pointer allowed ready
    simp only [front_entry, atFront.own.anchorId]
    rfl
  · exact Move.still rfl

theorem takeAnswer_move (atFront : AtFront cfg s i) (call : inCall s i = true) (peer : Nat)
    (own : peer = i ∨ cfg.masterHasRf = true ∧
      (cfg.msgCfg (s.front i).msgIdx).broadcast = true ∧ peer = i + 1) :
    Move cfg env ok s (takeAnswer cfg env i (s.queue i).head (s.front i).channel peer s) := by
  apply Move.answered i peer _ atFront call own
  simp only [takeAnswer]
  split
  · rfl
  · rfl

theorem startImcRequest_move {todo : List Nat} (atFront : AtFront cfg s i)
    (task : s.task = some ⟨i, .requestImc, todo⟩) (pointer : s.txHeadPtr.isSome = true)
    (allowed : ok s .resume) : Move cfg env ok s (startImcRequest cfg i (s.queue i).head s) := by
  unfold startImcRequest
  split
  · rename_i sends
    simp only [sendsImc, Bool.and_eq_true, front_entry] at sends
    have call : inCall s i = true := by
      simp [inCall, task, pointer, sends.1.1, Stage.inCall]
    apply Move.requestedImc i todo atFront task call allowed sends.1.2 sends.2
    simp only [front_entry, atFront.own.anchorId]
    rfl
  · exact Move.still rfl

theorem requestResult_move (atFront : AtFront cfg s i)
    (call : s.calling = true → inCall s i = true) :
    Move cfg env ok s (requestResult cfg i (s.queue i).head s) := by
  unfold requestResult
  split
  · rename_i calling
    split
    · exact Move.sent i atFront (call calling) rfl
    · exact Move.unsent i 1 atFront (call calling) rfl
    · exact Move.unsent i cfg.maxRetryCount atFront (call calling) rfl
  · exact Move.still rfl

theorem dropHead_move (atFront : AtFront cfg s i) :
    Move cfg env ok s (dropHead cfg i (s.queue i).head s) := by
  simp only [dropHead, front_entry, atFront.own.anchorId]
  split
  · rename_i failed
    apply Move.dropped i atFront failed
    simp [removeTxQueueHead, atFront.filled]
  · exact Move.still rfl

end Stages

theorem atHead_cases {task : Task} (linked : Linked cfg s) (at' : s.task = some task)
    (later : task.stage ≠ .head) (act : Nat → State → State) :
    atHead s act = s ∨ AtFront cfg s task.peer ∧ s.txHeadPtr.isSome = true ∧
      atHead s act = act (s.queue task.peer).head s := by
  have sound := linked.task task at'
  unfold atHead
  split
  · exact Or.inl rfl
  · rename_i h pointer
    have spot := sound.pointer later h pointer
    exact Or.inr ⟨linked.queued.atFront sound.peer spot.1, by simp [pointer], by rw [spot.2]⟩

theorem atHead_move {task : Task} (linked : Linked cfg s) (at' : s.task = some task)
    (later : task.stage ≠ .head) (act : Nat → State → State)
    (acts : AtFront cfg s task.peer → s.txHeadPtr.isSome = true →
      Move cfg env ok s (act (s.queue task.peer).head s)) :
    Move cfg env ok s (atHead s act) := by
  rcases atHead_cases linked at' later act with same | ⟨atFront, pointer, same⟩
  · rw [same]
    exact Move.still rfl
  · rw [same]
    exact acts atFront pointer

theorem execute_move {task : Task} (linked : Linked cfg s) (at' : s.task = some task)
    (allowed : ok s .resume) (single : task.stage ≠ .part1) :
    Move cfg env ok s (execute cfg env task.peer s task.stage) := by
  have sound := linked.task task at'
  have calls : s.txHeadPtr.isSome = true → task.stage.inCall = true → s.calling = true →
      inCall s task.peer = true := by
    intro pointer stage calling
    simp [inCall, at', pointer, calling, stage]
  obtain ⟨peer, stage, todo⟩ := task
  cases stage with
  | head => exact lookAtHead_move linked.queued sound.peer
  | part1 => exact absurd rfl single
  | part2 => exact atHead_move linked at' (by simp) _ fun atFront _ => txPart2_move atFront
  | request =>
      apply atHead_move linked at' (by simp)
      intro atFront pointer
      exact startRequest_move atFront at' pointer allowed
  | answer =>
      apply atHead_move linked at' (by simp)
      intro atFront pointer
      split
      · rename_i calling
        rw [front_entry, atFront.own.anchorId]
        exact takeAnswer_move atFront (calls pointer rfl calling) peer (Or.inl rfl)
      · exact Move.still rfl
  | requestImc =>
      apply atHead_move linked at' (by simp)
      intro atFront pointer
      exact startImcRequest_move atFront at' pointer allowed
  | answerImc =>
      apply atHead_move linked at' (by simp)
      intro atFront pointer
      split
      · rename_i sends
        simp only [sendsImc, Bool.and_eq_true, front_entry] at sends
        rw [front_entry, atFront.own.anchorId]
        exact takeAnswer_move atFront (calls pointer rfl sends.1.1) (peer + 1)
          (Or.inr ⟨sends.1.2, sends.2, rfl⟩)
      · exact Move.still rfl
  | result =>
      apply atHead_move linked at' (by simp)
      intro atFront pointer
      exact requestResult_move atFront (calls pointer rfl)
  | drop => exact atHead_move linked at' (by simp) _ fun atFront _ => dropHead_move atFront

theorem execute_path {task : Task} (linked : Linked cfg s) (at' : s.task = some task)
    (allowed : ok s .resume) : Path cfg env ok s (execute cfg env task.peer s task.stage) := by
  by_cases part1 : task.stage = .part1
  · rw [part1]
    change Path cfg env ok s (atHead s (txPart1 cfg env task.peer))
    rcases atHead_cases linked at' (by simp [part1]) (txPart1 cfg env task.peer) with
      same | ⟨atFront, _, same⟩
    · rw [same]
      exact (Move.still rfl).path
    · rw [same]
      exact txPart1_path atFront
  · exact (execute_move linked at' allowed part1).path

theorem checkTransmit_error {args : TransmitArgs} {event : Event}
    (refused : checkTransmit cfg args = .error event) :
    ∃ id api error, event = .reportError id api error := by
  unfold checkTransmit at refused
  simp only at refused
  split at refused
  · exact ⟨_, _, _, (Except.error.inj refused).symm⟩
  · split at refused
    · exact ⟨_, _, _, (Except.error.inj refused).symm⟩
    · split at refused
      · exact ⟨_, _, _, (Except.error.inj refused).symm⟩
      · split at refused
        · exact ⟨_, _, _, (Except.error.inj refused).symm⟩
        · cases refused

theorem transmit_move (args : TransmitArgs) (allowed : ok s (.transmit args)) :
    Move cfg env ok s (transmit cfg args s).1 := by
  unfold transmit
  cases checked : checkTransmit cfg args with
  | error event =>
      obtain ⟨id, api, error, rfl⟩ := checkTransmit_error checked
      exact Move.report id api error rfl
  | ok m =>
      simp only
      split
      · rename_i usable
        exact Move.stored args m allowed checked usable rfl
      · exact Move.still rfl

def afterCopy (cfg : Config) (s : State) (id c i : Nat) (args : CopyArgs) : State :=
  (s.setCh c i { s.chTxInfo c i with
    txOffset := u16 (copyOffset args (s.chTxInfo c i) + copyCount cfg s.toCore id c i args) }).emit
    (.copied c i (args.retry.map u16) (copiedBytes cfg s.toCore id c i args))

theorem copyBytes_given {id c : Nat} {args : CopyArgs} (h : Option Nat)
    (given : args.hasBuffer = true) :
    (copyBytes cfg id args c i h s).1 =
      if cfg.build = .ncj29d5 ∧
          copyRemaining cfg s.toCore id c i args - copyCount cfg s.toCore id c i args = 0 then
        match h with
        | some h => ((afterCopy cfg s id c i args).setCh c i
            { (afterCopy cfg s id c i args).chTxInfo c i with txInProgress := false }).setEntry i h
            { s.entry i h with queueState := .transDone }
        | none => (afterCopy cfg s id c i args).setCh c i
            { (afterCopy cfg s id c i args).chTxInfo c i with txInProgress := false }
      else afterCopy cfg s id c i args := by
  simp only [copyBytes, given, if_true]
  rfl

theorem copyFinishes_atFront {id c : Nat} {args : CopyArgs}
    (headed : AtFront cfg s i ∨ (s.queue i).isEmpty = true ∧ isImc cfg id = true)
    (finishes : copyFinishes cfg s.toCore id c i args = true) : AtFront cfg s i := by
  rcases headed with atFront | ⟨_, imc⟩
  · exact atFront
  · have build : cfg.build = .ncj29d5 := by
      simp only [copyFinishes, Bool.and_eq_true, beq_iff_eq] at finishes
      exact finishes.1
    simp [isImc, build] at imc

theorem copyBytes_core {id c : Nat} {args : CopyArgs}
    (headed : AtFront cfg s i ∨ (s.queue i).isEmpty = true ∧ isImc cfg id = true)
    (given : args.hasBuffer = true) :
    (copyBytes cfg id args c i (getTxQueueHead s i) s).1.toCore =
      (((if copyFinishes cfg s.toCore id c i args then
          s.setFront i { s.front i with queueState := .transDone } else s).setCh c i
        { s.chTxInfo c i with
          txInProgress := (s.chTxInfo c i).txInProgress && !copyFinishes cfg s.toCore id c i args
          txOffset := u16 (copyOffset args (s.chTxInfo c i) +
            copyCount cfg s.toCore id c i args) }).emit
        (.copied c i (args.retry.map u16) (copiedBytes cfg s.toCore id c i args))).toCore := by
  rw [copyBytes_given _ given]
  by_cases finishes : copyFinishes cfg s.toCore id c i args = true
  · have last : cfg.build = .ncj29d5 ∧
        copyRemaining cfg s.toCore id c i args - copyCount cfg s.toCore id c i args = 0 := by
      simpa [copyFinishes] using finishes
    rw [if_pos last, getTxQueueHead_filled (copyFinishes_atFront headed finishes).filled]
    simp [finishes, afterCopy, State.setFront, State.setEntry, State.setQueue, State.setCh,
      State.emit, front_entry]
  · have more : ¬ (cfg.build = .ncj29d5 ∧
        copyRemaining cfg s.toCore id c i args - copyCount cfg s.toCore id c i args = 0) := by
      simpa [copyFinishes] using finishes
    rw [if_neg more]
    simp [finishes, afterCopy]

theorem copyTxData_move (queued : Queued cfg s.toCore) (id : Nat) (args : Option CopyArgs)
    (allowed : ok s (.copyTxData id args)) : Move cfg env ok s (copyTxData cfg id args s).1 := by
  unfold copyTxData
  cases args with
  | none => exact Move.report id _ _ rfl
  | some args =>
      cases found : findByLLPdu cfg id cfg.lowerTxCbPdu cfg.numLlTx with
      | none => exact Move.report id _ _ rfl
      | some place =>
          obtain ⟨c, i⟩ := place
          have bounds := findByLLPdu_bounds found
          simp only
          split
          · exact Move.report id _ _ rfl
          · rename_i proceeds
            have headed : AtFront cfg s i ∨ (s.queue i).isEmpty = true ∧ isImc cfg id = true := by
              cases filled : (s.queue i).isEmpty with
              | false => exact Or.inl (queued.atFront bounds.2.1 filled)
              | true =>
                  rw [getTxQueueHead_empty filled] at proceeds
                  exact Or.inr ⟨rfl, by simpa using proceeds⟩
            cases given : args.hasBuffer with
            | true =>
                exact Move.copied id c i args allowed bounds.2.1 found headed given
                  (copyBytes_core headed given)
            | false =>
                apply Move.still
                simp [copyBytes, given]

theorem tpTxConfirmation_move (queued : Queued cfg s.toCore) (k id : Nat) (result : StdReturn)
    (allowed : ok s (.tpTxConfirmation k id result)) :
    Move cfg env ok s (tpTxConfirmation cfg k id result s) := by
  unfold tpTxConfirmation
  cases found : findByLLPdu cfg id cfg.lowerTxCbPdu cfg.numLlTx with
  | none => exact Move.report id _ _ rfl
  | some place =>
      obtain ⟨c, i⟩ := place
      have bounds := findByLLPdu_bounds found
      simp only
      cases filled : (s.queue i).isEmpty with
      | true =>
          rw [getTxQueueHead_empty (s := s.emit _) filled]
          simp only
          split
          · split
            · exact Move.confirmedImc k id c i result allowed found filled rfl
            · apply Move.unheeded k id c i result [] allowed found (Or.inl filled)
              · intro e member
                cases member
              · rfl
          · apply Move.unheeded k id c i result [.reportError id .tpTxCopy .null] allowed
              found (Or.inl filled)
            · intro e member
              exact ⟨_, _, _, List.mem_singleton.mp member⟩
            · simp [State.emit]
      | false =>
          rw [getTxQueueHead_filled (s := s.emit _) filled]
          simp only
          split
          · rename_i progress
            apply Move.confirmed k id c i result allowed found (queued.atFront bounds.2.1 filled)
              progress
            by_cases good : result = .ok
            · simp [good, State.setFront, front_entry]
            · simp [good, State.setFront, front_entry]
          · rename_i idle
            apply Move.unheeded k id c i result [] allowed found (Or.inr (by simpa using idle))
            · intro e member
              cases member
            · rfl

theorem step_path (linked : Linked cfg s) (op : Op) (allowed : ok s op) :
    Path cfg env ok s (step cfg env s op) := by
  cases op with
  | transmit args => exact (transmit_move args allowed).path
  | copyTxData id args => exact (copyTxData_move linked.queued id args allowed).path
  | tpTxConfirmation k id result =>
      exact (tpTxConfirmation_move linked.queued k id result allowed).path
  | cyclicTx =>
      simp only [step]
      apply Move.path
      split
      · exact Move.still rfl
      · exact Move.still rfl
  | resume =>
      simp only [step]
      split
      · exact (Move.still rfl).path
      · rename_i task at'
        have path : Path cfg env ok s (execute cfg env task.peer s task.stage) :=
          execute_path linked at' allowed
        exact path.tail (Move.still rfl)

end AnchorNode.AnchorCom.Tx
