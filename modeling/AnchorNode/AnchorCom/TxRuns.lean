import AnchorNode.AnchorCom.TxPaths

/-! Runs of the transmit half: the queues stay well formed, and what every allowed move
preserves holds after every allowed run. -/

namespace AnchorNode.AnchorCom.Tx

open AnchorNode.Lib

variable {cfg : Config} {env : Env} {ok : State → Op → Prop} {s t u : State} {i : Nat}

def Entry.key (e : Entry) : Nat × Nat × Nat × Nat := (e.msgIdx, e.anchorId, e.channel, e.ticket)

def Core.keys (s : Core) (i : Nat) : List (Nat × Nat × Nat × Nat) := (s.entries i).map Entry.key

theorem EntryOk.same {n : Nat} {e f : Entry} (own : EntryOk cfg n i e) (same : f.key = e.key) :
    EntryOk cfg n i f := by
  simp only [Entry.key, Prod.mk.injEq] at same
  obtain ⟨msgIdx, anchorId, channel, ticket⟩ := same
  constructor
  · rw [anchorId, own.anchorId]
  · rw [msgIdx]
    exact own.msgIdx
  · rw [channel, msgIdx, own.channel]
  · rw [ticket]
    exact own.ticket
  · rw [msgIdx]
    exact own.broadcast

theorem Queued.shrink {s t : Core} (queued : Queued cfg s) (next : t.nextTicket = s.nextTicket)
    (keys : ∀ i < cfg.numLlTx, (t.keys i).Sublist (s.keys i)) : Queued cfg t := by
  have origin : ∀ i < cfg.numLlTx, ∀ e ∈ t.entries i, ∃ f ∈ s.entries i, f.key = e.key := by
    intro i bound e member
    have key : e.key ∈ s.keys i := (keys i bound).subset (List.mem_map_of_mem member)
    simpa [Core.keys] using key
  constructor
  · intro i bound e member
    obtain ⟨f, old, same⟩ := origin i bound e member
    rw [next]
    exact (queued.own i bound f old).same same.symm
  · intro i bound
    have ordered : (s.keys i).Pairwise fun k l => k.2.2.2 < l.2.2.2 :=
      List.pairwise_map.mpr (queued.ordered i bound)
    have kept : ((t.entries i).map Entry.key).Pairwise fun k l => k.2.2.2 < l.2.2.2 :=
      ordered.sublist (keys i bound)
    exact (List.pairwise_map (f := Entry.key)).mp kept
  · intro i bound j bound' e member f member' same
    obtain ⟨e', old, key⟩ := origin i bound e member
    obtain ⟨f', old', key'⟩ := origin j bound' f member'
    have ticket : e'.ticket = e.ticket := congrArg (fun k => k.2.2.2) key
    have ticket' : f'.ticket = f.ticket := congrArg (fun k => k.2.2.2) key'
    exact queued.apart i bound j bound' e' old f' old' (by rw [ticket, ticket', same])

section Keys

theorem keys_eq {s t : Core} {i : Nat} (queue : t.queue i = s.queue i) : t.keys i = s.keys i := by
  simp [Core.keys, Core.entries, queue]

theorem entries_setFront {e : Entry} (filled : (s.queue i).isEmpty = false) :
    (s.setFront i e).entries i = e :: (s.entries i).tail := by
  simp [Core.entries, State.setFront, Ring.set_front_toList _ _ filled, Ring.toList_cons _ filled]

theorem entries_front (filled : (s.queue i).isEmpty = false) :
    s.entries i = s.front i :: (s.entries i).tail := by
  simp [Core.entries, Core.front, Ring.toList_cons _ filled]

theorem keys_setFront {e : Entry} (filled : (s.queue i).isEmpty = false)
    (same : e.key = (s.front i).key) (j : Nat) : (s.setFront i e).keys j = s.keys j := by
  by_cases here : j = i
  · subst here
    rw [Core.keys, Core.keys, entries_setFront filled, entries_front filled]
    simp [same]
  · apply keys_eq
    simp [State.setFront, here]

theorem keys_pop (filled : (s.queue i).isEmpty = false) (j : Nat) :
    ((s.setQueue i (s.queue i).pop).keys j).Sublist (s.keys j) := by
  by_cases here : j = i
  · subst here
    simp only [Core.keys, Core.entries, State.setQueue_queue, Function.update_self]
    rw [Ring.toList_cons _ filled]
    exact (List.sublist_cons_self _ _).map _
  · rw [keys_eq (s := s.toCore)]
    simp [here]

theorem entries_replaced {e f : Entry} {j : Nat} (filled : (s.queue i).isEmpty = false)
    (member : f ∈ (s.setFront i e).entries j) :
    j = i ∧ f = e ∨ f ∈ s.entries j ∧ (j = i → f ∈ (s.entries i).tail) := by
  by_cases here : j = i
  · subst here
    rw [entries_setFront filled] at member
    rcases List.mem_cons.mp member with same | tail
    · exact Or.inl ⟨rfl, same⟩
    · exact Or.inr ⟨List.mem_of_mem_tail tail, fun _ => tail⟩
  · have same : (s.setFront i e).entries j = s.entries j := by
      simp [Core.entries, here]
    rw [same] at member
    exact Or.inr ⟨member, fun equal => absurd equal here⟩

theorem entries_popped {f : Entry} {j : Nat} (filled : (s.queue i).isEmpty = false)
    (member : f ∈ (s.setQueue i (s.queue i).pop).entries j) : f ∈ s.entries j := by
  rw [Core.entries] at member ⊢
  by_cases here : j = i
  · subst here
    rw [Ring.toList_cons _ filled]
    exact List.mem_cons_of_mem _ (by simpa using member)
  · simpa [here] using member

theorem tail_apart {e : Entry} (single : (s.keys i).Pairwise fun k l => k.1 ≠ l.1)
    (filled : (s.queue i).isEmpty = false) (tail : e ∈ (s.entries i).tail) :
    e.msgIdx ≠ (s.front i).msgIdx := by
  rw [Core.keys, entries_front filled, List.map_cons] at single
  have other := (List.pairwise_cons.mp single).1 e.key (List.mem_map_of_mem tail)
  exact fun same => other same.symm

theorem Work.key {log : List Event} {e e' : Entry} {buf buf' : Mem} {len len' : Nat}
    {events : List Event} (work : Work cfg env log i e buf len e' buf' len' events) :
    e'.key = e.key := by
  cases work with
  | encrypted payload fresh cipher answer =>
      unfold encryptionResult
      split <;> rfl
  | unauthenticated data cmacValue answer e' ready whole said read failed =>
      rcases failed with ⟨_, rfl⟩ | ⟨_, rfl⟩ | ⟨_, rfl⟩ <;> rfl
  | _ => rfl

end Keys

def newEntry (cfg : Config) (s : Core) (i m : Nat) : Entry :=
  { (s.queue i).slots (s.queue i).tail with
    msgIdx := m
    anchorId := i
    channel := (cfg.msgCfg m).channel
    queueState := .queued
    errCounter := 0
    ticket := s.nextTicket }

theorem storeData_queue (cfg : Config) (args : TransmitArgs) (m : Nat) (s : State) :
    (storeData cfg args m s).queue = s.queue := by
  simp only [storeData]
  split <;> rfl

theorem storeData_nextTicket (cfg : Config) (args : TransmitArgs) (m : Nat) (s : State) :
    (storeData cfg args m s).nextTicket = s.nextTicket := by
  simp only [storeData]
  split <;> rfl

theorem storeData_buffer (cfg : Config) (args : TransmitArgs) (m : Nat) (s : State) :
    (storeData cfg args m s).buffer = Function.update s.buffer
      (otherEndIdxToUse cfg m args.otherEndIdx)
      (Function.update (s.buffer (otherEndIdxToUse cfg m args.otherEndIdx)) m
        ((s.buffer (otherEndIdxToUse cfg m args.otherEndIdx) m).write headerLen args.payload)) := by
  simp only [storeData, TransmitArgs.payload]
  split
  · have joined := write_append (s.buffer (otherEndIdxToUse cfg m args.otherEndIdx) m) headerLen
      ((args.buf.getD fun _ => 0).read 0 args.length)
      ((args.buf2.getD fun _ => 0).read 0 args.length2)
    rw [read_length] at joined
    simp [joined]
  · simp

def requestWrites (cfg : Config) (args : TransmitArgs) (m : Nat) : List Event :=
  .written (otherEndIdxToUse cfg m args.otherEndIdx) m headerLen args.length ::
    if args.length2 > 0 then
      [.written (otherEndIdxToUse cfg m args.otherEndIdx) m (headerLen + args.length) args.length2]
    else []

theorem storeData_log (cfg : Config) (args : TransmitArgs) (m : Nat) (s : State) :
    (storeData cfg args m s).log = s.log ++ requestWrites cfg args m := by
  simp only [storeData, requestWrites]
  split
  · simp
  · simp

theorem requestWrites_all {P : Event → Prop}
    (stores : ∀ q k offset count, P (.written q k offset count)) (cfg : Config)
    (args : TransmitArgs) (m : Nat) : ∀ e ∈ requestWrites cfg args m, P e := by
  intro e member
  unfold requestWrites at member
  split at member
  · simp only [List.mem_cons, List.not_mem_nil, or_false] at member
    rcases member with rfl | rfl
    · exact stores _ _ _ _
    · exact stores _ _ _ _
  · rw [List.mem_singleton.mp member]
    exact stores _ _ _ _

theorem acceptData_full {args : TransmitArgs} {m : Nat}
    (full : (s.queue (otherEndIdxToUse cfg m args.otherEndIdx)).isFull = true) :
    (acceptData cfg args m s).1 = storeData cfg args m s := by
  rw [← storeData_queue cfg args m s] at full
  simp [acceptData, addTxQueue, full]

theorem acceptData_room {args : TransmitArgs} {m : Nat}
    (room : (s.queue (otherEndIdxToUse cfg m args.otherEndIdx)).isFull = false) :
    (acceptData cfg args m s).1.toCore =
      { (((storeData cfg args m s).setQueue (otherEndIdxToUse cfg m args.otherEndIdx)
          ((s.queue (otherEndIdxToUse cfg m args.otherEndIdx)).push
            (newEntry cfg s.toCore (otherEndIdxToUse cfg m args.otherEndIdx) m))).setInfo
          (otherEndIdxToUse cfg m args.otherEndIdx) m
          { (storeData cfg args m s).msgTxInfo (otherEndIdxToUse cfg m args.otherEndIdx) m with
            bufState := .hasData }).toCore with
        nextTicket := s.nextTicket + 1
        log := (storeData cfg args m s).log ++ [.accepted s.nextTicket
          (otherEndIdxToUse cfg m args.otherEndIdx) m args.payload] } := by
  have queue := storeData_queue cfg args m s
  have next := storeData_nextTicket cfg args m s
  simp only [acceptData, addTxQueue, queue, room, next, newEntry]
  rfl

theorem acceptData_log {P : Event → Prop}
    (stores : ∀ q k offset count, P (.written q k offset count))
    (accepts : ∀ n q k payload, P (.accepted n q k payload)) (cfg : Config) (args : TransmitArgs)
    (m : Nat) (s : State) :
    ∃ events, (acceptData cfg args m s).1.log = s.log ++ events ∧ ∀ e ∈ events, P e := by
  have writes := requestWrites_all stores cfg args m
  cases room : (s.queue (otherEndIdxToUse cfg m args.otherEndIdx)).isFull with
  | true =>
      rw [acceptData_full room, storeData_log]
      exact ⟨_, rfl, writes⟩
  | false =>
      rw [acceptData_room room, storeData_log, List.append_assoc]
      refine ⟨_, rfl, fun e member => ?_⟩
      rcases List.mem_append.mp member with store | last
      · exact writes e store
      · rw [List.mem_singleton.mp last]
        exact accepts _ _ _ _

theorem checkTransmit_ok {args : TransmitArgs} {m : Nat}
    (checked : checkTransmit cfg args = .ok m) :
    m < cfg.numMsg ∧ args.otherEndIdx < cfg.numLlTx ∧
      u16 (args.length + args.length2) ≤ (cfg.msgCfg m).length := by
  unfold checkTransmit at checked
  simp only at checked
  split at checked
  · cases checked
  · split at checked
    · cases checked
    · split at checked
      · cases checked
      · split at checked
        · cases checked
        · rename_i known peer short _
          have same := Except.ok.inj checked
          subst same
          omega

theorem Queued.push {s t : Core} (queued : Queued cfg s) {e : Entry} {j : Nat}
    (own : EntryOk cfg (s.nextTicket + 1) j e) (fresh : e.ticket = s.nextTicket)
    (next : t.nextTicket = s.nextTicket + 1) (here : t.entries j = s.entries j ++ [e])
    (elsewhere : ∀ i, i ≠ j → t.entries i = s.entries i) : Queued cfg t := by
  have split : ∀ i < cfg.numLlTx, ∀ f ∈ t.entries i, f ∈ s.entries i ∨ i = j ∧ f = e := by
    intro i _ f member
    by_cases same : i = j
    · subst same
      rw [here, List.mem_append, List.mem_singleton] at member
      exact member.imp_right fun last => ⟨rfl, last⟩
    · rw [elsewhere i same] at member
      exact Or.inl member
  have older : ∀ i < cfg.numLlTx, ∀ f ∈ s.entries i, f.ticket < e.ticket := by
    intro i bound f member
    rw [fresh]
    exact (queued.own i bound f member).ticket
  constructor
  · intro i bound f member
    rw [next]
    rcases split i bound f member with old | ⟨same, last⟩
    · have own := queued.own i bound f old
      exact ⟨own.anchorId, own.msgIdx, own.channel, Nat.lt_succ_of_lt own.ticket, own.broadcast⟩
    · rw [same, last]
      exact own
  · intro i bound
    by_cases same : i = j
    · subst same
      rw [here, List.pairwise_append]
      refine ⟨queued.ordered i bound, List.pairwise_singleton _ _, ?_⟩
      intro f member f' last
      rw [List.mem_singleton.mp last]
      exact older i bound f member
    · rw [elsewhere i same]
      exact queued.ordered i bound
  · intro i bound i' bound' f member f' member' same
    rcases split i bound f member with old | ⟨at', last⟩
    · rcases split i' bound' f' member' with old' | ⟨_, last'⟩
      · exact queued.apart i bound i' bound' f old f' old' same
      · have lower := older i bound f old
        rw [same, last'] at lower
        exact absurd lower (Nat.lt_irrefl _)
    · rcases split i' bound' f' member' with old' | ⟨at'', _⟩
      · have lower := older i' bound' f' old'
        rw [← same, last] at lower
        exact absurd lower (Nat.lt_irrefl _)
      · rw [at', at'']

/-- What a move does to the queues: nothing, a change of a front entry, its removal, or a new
entry at the end of one of them. -/
inductive QueueChange (cfg : Config) (s t : Core) : Prop
  | none (queue : t.queue = s.queue) (next : t.nextTicket = s.nextTicket)
  | replaced (i : Nat) (e : Entry) (bound : i < cfg.numLlTx)
      (filled : (s.queue i).isEmpty = false)
      (queue : t.queue = Function.update s.queue i ((s.queue i).set (s.queue i).head e))
      (next : t.nextTicket = s.nextTicket) (same : e.key = (s.front i).key)
  | popped (i : Nat) (bound : i < cfg.numLlTx) (filled : (s.queue i).isEmpty = false)
      (queue : t.queue = Function.update s.queue i (s.queue i).pop)
      (next : t.nextTicket = s.nextTicket)
  | pushed (i m : Nat) (room : (s.queue i).isFull = false)
      (queue : t.queue = Function.update s.queue i ((s.queue i).push (newEntry cfg s i m)))
      (next : t.nextTicket = s.nextTicket + 1) (known : m < cfg.numMsg)
      (broadcast : (cfg.msgCfg m).broadcast = true → i = cfg.maxNodes)

theorem otherEndIdxToUse_broadcast {m otherEndIdx : Nat}
    (broadcast : (cfg.msgCfg m).broadcast = true) :
    otherEndIdxToUse cfg m otherEndIdx = cfg.maxNodes := by
  simp [otherEndIdxToUse, broadcast]

theorem Move.queueChange (move : Move cfg env ok s t) : QueueChange cfg s.toCore t.toCore := by
  cases move with
  | quiet _ _ becomes =>
      exact .none (congrArg Core.queue becomes :) (congrArg Core.nextTicket becomes :)
  | work i e' _ _ _ atFront worked =>
      exact .replaced i e' atFront.bound atFront.filled (congrArg Core.queue worked.becomes :)
        (congrArg Core.nextTicket worked.becomes :) worked.work.key
  | counted i atFront _ becomes =>
      exact .replaced i _ atFront.bound atFront.filled (congrArg Core.queue becomes :)
        (congrArg Core.nextTicket becomes :) rfl
  | requested i _ atFront _ _ _ _ becomes =>
      exact .replaced i _ atFront.bound atFront.filled (congrArg Core.queue becomes :)
        (congrArg Core.nextTicket becomes :) rfl
  | requestedImc _ _ _ _ _ _ _ _ becomes =>
      exact .none (congrArg Core.queue becomes :) (congrArg Core.nextTicket becomes :)
  | answered _ _ _ _ _ _ becomes =>
      exact .none (congrArg Core.queue becomes :) (congrArg Core.nextTicket becomes :)
  | sent i atFront _ becomes =>
      exact .replaced i _ atFront.bound atFront.filled (congrArg Core.queue becomes :)
        (congrArg Core.nextTicket becomes :) rfl
  | unsent i n atFront _ becomes =>
      exact .replaced i _ atFront.bound atFront.filled (congrArg Core.queue becomes :)
        (congrArg Core.nextTicket becomes :) rfl
  | retired i atFront _ becomes =>
      exact .popped i atFront.bound atFront.filled (congrArg Core.queue becomes :)
        (congrArg Core.nextTicket becomes :)
  | dropped i atFront _ becomes =>
      exact .popped i atFront.bound atFront.filled (congrArg Core.queue becomes :)
        (congrArg Core.nextTicket becomes :)
  | stored args m _ checked _ becomes =>
      cases room : (s.queue (otherEndIdxToUse cfg m args.otherEndIdx)).isFull with
      | true =>
          rw [acceptData_full room] at becomes
          apply QueueChange.none
          · rw [becomes, storeData_queue]
          · rw [becomes, storeData_nextTicket]
      | false =>
          rw [acceptData_room room] at becomes
          apply QueueChange.pushed (otherEndIdxToUse cfg m args.otherEndIdx) m room
          · rw [becomes]
            simp only [State.setInfo_queue, State.setQueue_queue, storeData_queue]
          · rw [becomes]
          · exact (checkTransmit_ok checked).1
          · exact otherEndIdxToUse_broadcast
  | copied id c i args _ bound _ headed _ becomes =>
      cases finishes : copyFinishes cfg s.toCore id c i args with
      | true =>
          rw [finishes] at becomes
          have filled := (copyFinishes_atFront headed finishes).filled
          exact .replaced i _ bound filled (congrArg Core.queue becomes :)
            (congrArg Core.nextTicket becomes :) rfl
      | false =>
          rw [finishes] at becomes
          exact .none (congrArg Core.queue becomes :) (congrArg Core.nextTicket becomes :)
  | unheeded _ _ _ _ _ _ _ _ _ _ becomes =>
      exact .none (congrArg Core.queue becomes :) (congrArg Core.nextTicket becomes :)
  | confirmedImc _ _ _ _ _ _ _ _ becomes =>
      exact .none (congrArg Core.queue becomes :) (congrArg Core.nextTicket becomes :)
  | confirmed k id c i result _ _ atFront _ becomes =>
      apply QueueChange.replaced i _ atFront.bound atFront.filled (congrArg Core.queue becomes :)
        (congrArg Core.nextTicket becomes :)
      split <;> rfl

theorem Move.queued (move : Move cfg env ok s t) (queued : Queued cfg s.toCore) :
    Queued cfg t.toCore := by
  cases move.queueChange with
  | none queue next =>
      apply queued.shrink next
      intro j _
      rw [keys_eq (congrFun queue j)]
  | replaced i e bound filled queue next same =>
      apply queued.shrink next
      intro j _
      rw [keys_eq (s := (s.setFront i e).toCore) (congrFun queue j), keys_setFront filled same j]
  | popped i bound filled queue next =>
      apply queued.shrink next
      intro j _
      rw [keys_eq (s := (s.setQueue i (s.queue i).pop).toCore) (congrFun queue j)]
      exact keys_pop filled j
  | pushed i m room queue next known broadcast =>
      apply queued.push (e := newEntry cfg s.toCore i m) (j := i) _ rfl next
      · simp [Core.entries, queue, Ring.push_toList _ _ room]
      · intro j other
        simp [Core.entries, queue, other]
      · exact ⟨rfl, known, rfl, Nat.lt_succ_self _, broadcast⟩

/-- The cyclic function stays where it is, and filled queues keep their head. -/
structure Steady (s t : State) : Prop where
  task : t.task = s.task
  pointer : t.txHeadPtr = s.txHeadPtr
  head : ∀ j, (s.queue j).isEmpty = false →
    (t.queue j).isEmpty = false ∧ (t.queue j).head = (s.queue j).head

theorem Steady.trans (first : Steady s t) (second : Steady t u) : Steady s u where
  task := second.task.trans first.task
  pointer := second.pointer.trans first.pointer
  head := by
    intro j filled
    have middle := first.head j filled
    have last := second.head j middle.1
    exact ⟨last.1, last.2.trans middle.2⟩

theorem Steady.of_queue (task : t.task = s.task) (pointer : t.txHeadPtr = s.txHeadPtr)
    (queue : t.queue = s.queue) : Steady s t where
  task := task
  pointer := pointer
  head := by
    intro j filled
    rw [queue]
    exact ⟨filled, rfl⟩

theorem Steady.of_setEntry {h : Nat} {e : Entry} (task : t.task = s.task)
    (pointer : t.txHeadPtr = s.txHeadPtr) (queue : t.queue = s.queue) :
    Steady s (t.setEntry i h e) where
  task := task
  pointer := pointer
  head := by
    intro j filled
    by_cases here : j = i
    · subst here
      simpa [queue] using filled
    · simpa [queue, here] using filled

theorem emit_steady (s : State) (event : Event) : Steady s (s.emit event) :=
  Steady.of_queue rfl rfl rfl

theorem Steady.emit (steady : Steady s t) (event : Event) : Steady s (t.emit event) :=
  steady.trans (emit_steady t event)

theorem storeData_steady (cfg : Config) (args : TransmitArgs) (m : Nat) (s : State) :
    Steady s (storeData cfg args m s) := by
  apply Steady.of_queue
  · simp only [storeData]
    split <;> rfl
  · simp only [storeData]
    split <;> rfl
  · exact storeData_queue cfg args m s

theorem acceptData_steady (cfg : Config) (args : TransmitArgs) (m : Nat) (s : State) :
    Steady s (acceptData cfg args m s).1 := by
  have stores := storeData_steady cfg args m s
  simp only [acceptData, addTxQueue]
  split
  · rename_i queued added
    split at added
    · cases added
    · rename_i room
      have same := Option.some.inj added
      subst same
      refine stores.trans ⟨rfl, rfl, ?_⟩
      intro j filled
      by_cases here : j = otherEndIdxToUse cfg m args.otherEndIdx
      · subst here
        simpa [Ring.push] using Ring.push_filled _ _ (by simpa using room)
      · simpa [here] using filled
  · exact stores

theorem transmit_steady (cfg : Config) (args : TransmitArgs) (s : State) :
    Steady s (transmit cfg args s).1 := by
  unfold transmit
  split
  · exact emit_steady s _
  · split
    · exact acceptData_steady cfg args _ s
    · exact Steady.of_queue rfl rfl rfl

theorem copyBytes_steady (cfg : Config) (id : Nat) (args : CopyArgs) (c i : Nat)
    (h : Option Nat) (s : State) : Steady s (copyBytes cfg id args c i h s).1 := by
  cases given : args.hasBuffer with
  | true =>
      rw [copyBytes_given h given]
      split
      · split
        · exact Steady.of_setEntry rfl rfl rfl
        · exact Steady.of_queue rfl rfl rfl
      · exact Steady.of_queue rfl rfl rfl
  | false =>
      have same : (copyBytes cfg id args c i h s).1 = s := by simp [copyBytes, given]
      rw [same]
      exact Steady.of_queue rfl rfl rfl

theorem copyTxData_steady (cfg : Config) (id : Nat) (args : Option CopyArgs) (s : State) :
    Steady s (copyTxData cfg id args s).1 := by
  unfold copyTxData
  split
  · exact emit_steady s _
  · split
    · exact emit_steady s _
    · simp only
      split
      · exact emit_steady s _
      · exact copyBytes_steady cfg id _ _ _ _ s

theorem tpTxConfirmation_steady (cfg : Config) (k id : Nat) (result : StdReturn) (s : State) :
    Steady s (tpTxConfirmation cfg k id result s) := by
  unfold tpTxConfirmation
  split
  · exact emit_steady s _
  · simp only
    split
    · split
      · split
        · exact Steady.of_queue rfl rfl rfl
        · exact emit_steady s _
      · exact Steady.of_queue rfl rfl rfl
    · split
      · split
        · exact Steady.of_setEntry rfl rfl rfl
        · exact Steady.of_setEntry rfl rfl rfl
      · exact emit_steady s _

theorem padPayload_same (i m : Nat) (s : State) : (padPayload i m s).task = s.task ∧
    (padPayload i m s).txHeadPtr = s.txHeadPtr ∧ (padPayload i m s).queue = s.queue := by
  simp only [padPayload]
  split
  · exact ⟨rfl, rfl, rfl⟩
  · exact ⟨rfl, rfl, rfl⟩

theorem txFormatForCrypto_steady (cfg : Config) (env : Env) (q h : Nat) (s : State) :
    Steady s (txFormatForCrypto cfg env q h s).1 := by
  cases given : env.txFreshness s.log with
  | none =>
      simp only [txFormatForCrypto, given]
      exact Steady.of_queue rfl rfl rfl
  | some fresh =>
      by_cases secret : (cfg.msgCfg (s.entry q h).msgIdx).encDecFlag = true
      · simp only [txFormatForCrypto, given, secret, if_true]
        apply Steady.emit
        have same := padPayload_same (s.entry q h).anchorId (s.entry q h).msgIdx
        exact Steady.of_setEntry (same _).1 (same _).2.1 (same _).2.2
      · simp only [txFormatForCrypto, given, secret, Bool.false_eq_true, if_false]
        apply Steady.emit
        exact Steady.of_setEntry rfl rfl rfl

theorem txPart1_steady (cfg : Config) (env : Env) (q h : Nat) (s : State) :
    Steady s (txPart1 cfg env q h s) := by
  have formats := txFormatForCrypto_steady cfg env q h s
  have counts : ∀ u : State, Steady u (if (txFormatForCrypto cfg env q h s).2 ≠ .ok then
      u.setEntry q h { u.entry q h with errCounter := (u.entry q h).errCounter + 1 } else u) := by
    intro u
    split
    · exact Steady.of_setEntry rfl rfl rfl
    · exact Steady.of_queue rfl rfl rfl
  have encrypts : ∀ u : State, Steady u (if (u.entry q h).queueState = .encReady then
      (txStartEncryption env q h u).1.setEntry q h (encryptionResult cfg
        (txStartEncryption env q h u).2 ((txStartEncryption env q h u).1.entry q h)) else u) := by
    intro u
    split
    · exact Steady.of_setEntry rfl rfl rfl
    · exact Steady.of_queue rfl rfl rfl
  unfold txPart1
  split
  · exact (formats.trans (counts _)).trans (encrypts _)
  · exact Steady.of_queue rfl rfl rfl

theorem txPart2_steady (cfg : Config) (env : Env) (q h : Nat) (s : State) :
    Steady s (txPart2 cfg env q h s) := by
  have starts : Steady s (txStartCmac env q h s).1 :=
    (Steady.of_setEntry rfl rfl rfl).emit _
  unfold txPart2
  split
  · simp only
    split
    · apply starts.trans
      simp only [appendTrailer]
      apply Steady.emit
      exact Steady.of_setEntry rfl rfl rfl
    · exact starts.trans (Steady.of_setEntry rfl rfl rfl)
    · exact starts.trans (Steady.of_setEntry rfl rfl rfl)
    · exact starts.trans (Steady.of_setEntry rfl rfl rfl)
  · exact Steady.of_queue rfl rfl rfl

theorem startRequest_steady (q h : Nat) (s : State) : Steady s (startRequest q h s) := by
  unfold startRequest
  split
  · exact (Steady.of_setEntry (s := s) (t := s) rfl rfl rfl).trans (Steady.of_queue rfl rfl rfl)
  · exact Steady.of_queue rfl rfl rfl

theorem takeAnswer_steady (cfg : Config) (env : Env) (q h c i : Nat) (s : State) :
    Steady s (takeAnswer cfg env q h c i s) := by
  simp only [takeAnswer]
  split
  · exact Steady.of_queue rfl rfl rfl
  · exact Steady.of_queue rfl rfl rfl

theorem startImcRequest_steady (cfg : Config) (q h : Nat) (s : State) :
    Steady s (startImcRequest cfg q h s) := by
  unfold startImcRequest
  split
  · exact Steady.of_queue rfl rfl rfl
  · exact Steady.of_queue rfl rfl rfl

theorem requestResult_steady (cfg : Config) (q h : Nat) (s : State) :
    Steady s (requestResult cfg q h s) := by
  simp only [requestResult]
  split
  · split
    · exact Steady.of_setEntry rfl rfl rfl
    · exact Steady.of_setEntry rfl rfl rfl
    · exact Steady.of_setEntry rfl rfl rfl
  · exact Steady.of_queue rfl rfl rfl

/-- Between its first and its last stage for a peer, the cyclic function takes nothing out
of the queues. -/
theorem execute_steady (cfg : Config) (env : Env) (q : Nat) (s : State) {stage : Stage}
    (first : stage ≠ .head) (last : stage ≠ .drop) : Steady s (execute cfg env q s stage) := by
  have head : ∀ act : Nat → State → State, (∀ h, Steady s (act h s)) → Steady s (atHead s act) := by
    intro act acts
    unfold atHead
    split
    · exact Steady.of_queue rfl rfl rfl
    · exact acts _
  cases stage with
  | head => exact absurd rfl first
  | part1 => exact head _ fun h => txPart1_steady cfg env q h s
  | part2 => exact head _ fun h => txPart2_steady cfg env q h s
  | request => exact head _ fun h => startRequest_steady q h s
  | answer =>
      apply head
      intro h
      split
      · exact takeAnswer_steady cfg env q h _ _ s
      · exact Steady.of_queue rfl rfl rfl
  | requestImc => exact head _ fun h => startImcRequest_steady cfg q h s
  | answerImc =>
      apply head
      intro h
      split
      · exact takeAnswer_steady cfg env q h _ _ s
      · exact Steady.of_queue rfl rfl rfl
  | result => exact head _ fun h => requestResult_steady cfg q h s
  | drop => exact absurd rfl last

theorem TaskOk.steady {task : Task} (sound : TaskOk cfg s task) (steady : Steady s t) :
    TaskOk cfg t task where
  peer := sound.peer
  todo := sound.todo
  pointer := by
    intro later h pointer
    rw [steady.pointer] at pointer
    have spot := sound.pointer later h pointer
    have kept := steady.head task.peer spot.1
    exact ⟨kept.1, spot.2.trans kept.2.symm⟩

theorem TaskOk.begin {todo : List Nat} (bounds : ∀ i ∈ todo, i < cfg.numLlTx) (s : State)
    {task : Task} (begins : Task.begin todo = some task) : TaskOk cfg s task := by
  cases todo with
  | nil => cases begins
  | cons peer rest =>
      have same := Option.some.inj begins
      subst same
      constructor
      · exact bounds peer (by simp)
      · intro i member
        exact bounds i (by simp [member])
      · intro later
        exact absurd rfl later

theorem lookAtHead_pointer (q : Nat) (s : State) :
    (lookAtHead q s).txHeadPtr = getTxQueueHead (lookAtHead q s) q := by
  unfold lookAtHead
  split
  · rename_i empty
    exact empty.symm
  · rename_i h head
    simp only
    split
    · rfl
    · rw [← head]
      simp [getTxQueueHead]
    · exact head.symm

theorem execute_task (cfg : Config) (env : Env) (s : State) {task next : Task}
    (sound : TaskOk cfg s task) (advances : task.advance = some next) :
    TaskOk cfg { execute cfg env task.peer s task.stage with task := some next } next := by
  obtain ⟨peer, stage, todo⟩ := task
  by_cases first : stage = .head
  · subst first
    have same : next = ⟨peer, .part1, todo⟩ := (Option.some.inj advances).symm
    subst same
    refine ⟨sound.peer, sound.todo, ?_⟩
    intro _ h pointer
    have head : getTxQueueHead (lookAtHead peer s) peer = some h :=
      (lookAtHead_pointer peer s).symm.trans pointer
    unfold getTxQueueHead at head
    split at head
    · cases head
    · rename_i filled
      exact ⟨Bool.not_eq_true _ ▸ filled, (Option.some.inj head).symm⟩
  · by_cases last : stage = .drop
    · subst last
      exact TaskOk.begin sound.todo _ advances
    · have steady := execute_steady cfg env peer s first last
      have kept : TaskOk cfg (execute cfg env peer s stage) ⟨peer, stage, todo⟩ :=
        sound.steady steady
      have same : next.peer = peer ∧ next.todo = todo := by
        cases stage with
        | drop => exact absurd rfl last
        | _ =>
            have equal := Option.some.inj advances
            subst equal
            exact ⟨rfl, rfl⟩
      refine ⟨same.1 ▸ kept.peer, same.2 ▸ kept.todo, ?_⟩
      intro _ h pointer
      rw [same.1]
      exact kept.pointer first h pointer

theorem servedPeers_bound {q : Nat} (member : q ∈ servedPeers cfg env s) : q < cfg.numLlTx := by
  simp only [servedPeers] at member
  split at member
  · cases member
  · exact List.mem_range.mp (List.mem_filter.mp member).1

theorem step_linked (linked : Linked cfg s) (op : Op) : Linked cfg (step cfg env s op) := by
  have path : Path cfg env (fun _ _ => True) s (step cfg env s op) := step_path linked op trivial
  have queued : Queued cfg (step cfg env s op).toCore :=
    path.invariant (Queued cfg) (fun _ _ move queued => move.queued queued) linked.queued
  have steady : ∀ t, Steady s t → ∀ task, t.task = some task → TaskOk cfg t task := by
    intro t steady task at'
    exact (linked.task task (steady.task ▸ at')).steady steady
  refine ⟨queued, ?_⟩
  cases op with
  | transmit args => exact steady _ (transmit_steady cfg args s)
  | copyTxData id args => exact steady _ (copyTxData_steady cfg id args s)
  | tpTxConfirmation k id result => exact steady _ (tpTxConfirmation_steady cfg k id result s)
  | cyclicTx =>
      intro task at'
      simp only [step] at at' ⊢
      split at at'
      · exact TaskOk.begin (fun i member => servedPeers_bound member) _ at'
      · rename_i busy
        rw [if_neg busy]
        exact linked.task task at'
  | resume =>
      intro next at'
      simp only [step] at at' ⊢
      split at at'
      · rename_i none
        simp [none] at at'
      · rename_i task now
        have sound := execute_task cfg env s (linked.task task now) at'
        rw [show task.advance = some next from at']
        exact sound

theorem start_linked (s : State) : Linked cfg (start cfg s) := by
  have empty : ∀ i < cfg.numLlTx, (start cfg s).entries i = [] := by
    intro i bound
    simp [Core.entries, start, init, bound]
  constructor
  · constructor
    · intro i bound e member
      rw [empty i bound] at member
      cases member
    · intro i bound
      rw [empty i bound]
      exact List.Pairwise.nil
    · intro i bound j _ e member
      rw [empty i bound] at member
      cases member
  · intro task at'
    cases at'

theorem run_linked (linked : Linked cfg s) (ops : List Op) :
    Linked cfg (run (step cfg env) s ops) := by
  have preserved : ∀ u op, Linked cfg u → Linked cfg (step cfg env u op) :=
    fun u op linked => step_linked linked op
  exact run_invariant preserved ops linked

theorem run_moves (Inv : Core → Prop)
    (moves : ∀ s t, Move cfg env ok s t → Queued cfg s.toCore → Inv s.toCore → Inv t.toCore)
    {ops : List Op} (linked : Linked cfg s) (initial : Inv s.toCore)
    (allowed : Guarded (step cfg env) ok s ops) :
    Inv (run (step cfg env) s ops).toCore := by
  induction ops generalizing s with
  | nil => exact initial
  | cons op ops ih =>
      have path : Path cfg env ok s (step cfg env s op) := step_path linked op allowed.1
      have both : Queued cfg (step cfg env s op).toCore ∧ Inv (step cfg env s op).toCore := by
        apply path.invariant (fun c => Queued cfg c ∧ Inv c) _ ⟨linked.queued, initial⟩
        intro u v move held
        exact ⟨move.queued held.1, moves u v move held.1 held.2⟩
      exact ih (step_linked linked op) both.2 allowed.2

end AnchorNode.AnchorCom.Tx
