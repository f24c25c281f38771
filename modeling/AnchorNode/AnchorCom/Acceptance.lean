import AnchorNode.AnchorCom.Delivery
import AnchorNode.AnchorCom.Handover

/-! A message that has arrived: what the receive half does with it when its neighbours accept
and decipher it, whatever it does for the other peers in the same call. -/

namespace AnchorNode.AnchorCom.Rx

open AnchorNode.Lib

variable {cfg : Config} {env : Env} {r s t : State} {c i : Nat}

def Event.indication (i : Nat) : Event → Option (UInt8 × List UInt8)
  | .delivered _ peer pduId payload => if peer = i then some (pduId, payload) else none
  | _ => none

def Event.verification (i : Nat) : Event → Option (List UInt8)
  | .verified _ peer data _ _ => if peer = i then some data else none
  | _ => none

def indications (i : Nat) (log : List Event) : List (UInt8 × List UInt8) :=
  log.filterMap (Event.indication i)

def verifications (i : Nat) (log : List Event) : List (List UInt8) :=
  log.filterMap (Event.verification i)

section Process
variable {j : Job} {m : Secured} {truncFresh : UInt8} {cmac fresh plain : List UInt8}

/-- The string the receiver makes of a message with this freshness value. -/
def received (cfg : Config) (m : Secured) (peer : Nat) (fresh : List UInt8) : List UInt8 :=
  m.authentic (getRxChanId cfg (findIdx cfg m.pduId) peer) fresh

def paddingOf (cfg : Config) (m : Secured) : Nat :=
  if (cfg.msgCfg (findIdx cfg m.pduId)).encDecFlag then (m.flags &&& 0x0F).toNat else 0

structure Job.Verified (cfg : Config) (j : Job) (m : Secured) (peer : Nat) (fresh : List UInt8) :
    Prop where
  msgIdx : j.entry.msgIdx = findIdx cfg m.pduId
  anchorId : j.entry.anchorId = peer
  dataLen : j.entry.dataLen = headerLen + m.text.length
  holds : j.buffer.read 0 (headerLen + m.text.length + freshLen) = received cfg m peer fresh

theorem rxPart1_received (size : cmac.length = cmacLen)
    (arrived : j.Received (m.wire truncFresh cmac)) (known : findIdx cfg m.pduId < cfg.numMsg)
    {mem : Mem} (given : env.rxFreshness j.log truncFresh = some mem)
    (same : mem.read 0 freshLen = fresh) (short : m.text.length + 11 < 65536)
    (accepts : env.verify j.log (received cfg m j.entry.anchorId fresh) cmac = .ok) :
    (rxPart1 cfg env j).Verified cfg m j.entry.anchorId fresh ∧
      (rxPart1 cfg env j).entry.queueState =
        (if (cfg.msgCfg (findIdx cfg m.pduId)).encDecFlag then .decReady else .processReady) ∧
      (rxPart1 cfg env j).log = j.log ++ [.verified j.entry.ticket j.entry.anchorId
        (received cfg m j.entry.anchorId fresh) cmac .ok] := by
  obtain ⟨buffer, formatted, holds⟩ := rxFormatForCmac_received size arrived known given short
  rw [same] at holds
  have prepared : rxPrepare cfg env j =
      { j with
        entry := { j.entry with
          msgIdx := findIdx cfg m.pduId
          truncFresh
          cmacValue := cmac
          dataLen := headerLen + m.text.length + freshLen
          queueState := .cmacReady }
        buffer } := by
    simp only [rxPrepare, arrived.state, if_true, formatted, ne_eq, not_true_eq_false, if_false]
  have trimmed : sub16 (headerLen + m.text.length + freshLen) freshLen =
      headerLen + m.text.length := by
    rw [sub16_of_le (Nat.le_add_left _ _) (by simp only [headerLen, freshLen]; omega)]
    omega
  change _ = received cfg m j.entry.anchorId fresh at holds
  have part1 : rxPart1 cfg env j =
      { entry := { j.entry with
          msgIdx := findIdx cfg m.pduId
          truncFresh
          cmacValue := cmac
          dataLen := headerLen + m.text.length
          queueState := if (cfg.msgCfg (findIdx cfg m.pduId)).encDecFlag then .decReady
            else .processReady }
        buffer
        log := j.log ++ [.verified j.entry.ticket j.entry.anchorId
          (received cfg m j.entry.anchorId fresh) cmac .ok] } := by
    simp only [rxPart1, prepared, if_true, rxStartCmac, holds, accepts, Job.emit, Job.setEntry,
      trimmed]
  rw [part1]
  exact ⟨⟨rfl, rfl, rfl, holds⟩, rfl, rfl⟩

structure Job.Plain (j : Job) (m peer : Nat) (content : List UInt8) : Prop where
  state : j.entry.queueState = .processReady
  msgIdx : j.entry.msgIdx = m
  anchorId : j.entry.anchorId = peer
  dataLen : j.entry.dataLen = headerLen + content.length
  holds : j.buffer.read headerLen content.length = content

/-- The receiver gets the plain text of a message: an encrypted one is decrypted. -/
def Deciphers (cfg : Config) (env : Env) (log : List Event) (m : Secured)
    (fresh plain : List UInt8) : Prop :=
  if (cfg.msgCfg (findIdx cfg m.pduId)).encDecFlag then
    (env.decrypt log m.text fresh).1 = .ok ∧
      plain = (env.decrypt log m.text fresh).2.read 0 m.text.length
  else plain = m.text

theorem read_first {mem : Mem} {offset : Nat} {bytes : List UInt8}
    (holds : mem.read offset bytes.length = bytes) (n : Nat) :
    mem.read offset (bytes.take n).length = bytes.take n := by
  have few : (bytes.take n).length ≤ bytes.length := List.length_take_le' _ _
  have slice := read_slice holds 0 (bytes.take n).length (by omega)
  rw [Nat.add_zero, List.drop_zero] at slice
  rw [slice, List.take_eq_take_iff, List.length_take]
  omega

theorem rxPart2_received {peer : Nat} (verified : j.Verified cfg m peer fresh)
    (count : fresh.length = freshLen)
    (state : j.entry.queueState =
      if (cfg.msgCfg (findIdx cfg m.pduId)).encDecFlag then .decReady else .processReady)
    (deciphers : Deciphers cfg env j.log m fresh plain)
    (padded : paddingOf cfg m ≤ m.text.length) (short : m.text.length + 11 < 65536) :
    (rxPart2 cfg env j).Plain (findIdx cfg m.pduId) peer
        (plain.take (m.text.length - paddingOf cfg m)) ∧
      ∃ events, (rxPart2 cfg env j).log = j.log ++ events ∧
        ∀ i, indications i events = [] ∧ verifications i events = [] := by
  have parts := m.holds_authentic_iff j.buffer
    (getRxChanId cfg (findIdx cfg m.pduId) peer) fresh
  rw [count] at parts
  obtain ⟨_, _, flags, text, trailer⟩ := parts.mp verified.holds
  by_cases secret : (cfg.msgCfg (findIdx cfg m.pduId)).encDecFlag = true
  · rw [if_pos secret] at state
    rw [Deciphers, if_pos secret] at deciphers
    obtain ⟨done, plainText⟩ := deciphers
    have length : plain.length = m.text.length := by rw [plainText, read_length]
    rw [paddingOf, if_pos secret] at padded ⊢
    have payloadLen : sub16 j.entry.dataLen headerLen = m.text.length := by
      rw [verified.dataLen, sub16_of_le (by omega) (by simp only [headerLen]; omega)]
      omega
    have byte : j.buffer.write headerLen plain 2 = m.flags := by
      rw [write_outside _ _ _ _ (Or.inl (by decide)), flags]
    have part2 : rxPart2 cfg env j =
        { entry := { j.entry with
            dataLen := sub16 j.entry.dataLen (m.flags &&& 0x0F).toNat
            queueState := .processReady }
          buffer := j.buffer.write headerLen plain
          log := j.log ++
            [.decrypted j.entry.ticket j.entry.anchorId m.text fresh plain .ok] } := by
      simp only [rxPart2, state, if_true, rxStartDecryption, payloadLen, text, trailer, done,
        ← plainText, Job.emit, Job.setEntry, byte]
    have few : (plain.take (m.text.length - (m.flags &&& 0x0F).toNat)).length =
        m.text.length - (m.flags &&& 0x0F).toNat := by
      rw [List.length_take, length]
      omega
    rw [part2]
    refine ⟨⟨rfl, verified.msgIdx, verified.anchorId, ?_, ?_⟩, _, rfl, fun i => ⟨rfl, rfl⟩⟩
    · simp only [verified.dataLen, few]
      rw [sub16_of_le (by omega) (by simp only [headerLen]; omega)]
      omega
    · exact read_first (read_write_same _ _ _) _
  · rw [if_neg secret] at state
    rw [Deciphers, if_neg secret] at deciphers
    have part2 : rxPart2 cfg env j = j := by
      simp only [rxPart2, state, reduceCtorEq, if_false]
    have whole : plain.take (m.text.length - paddingOf cfg m) = plain := by
      rw [paddingOf, if_neg secret, deciphers]
      exact List.take_length
    rw [part2, whole, deciphers]
    exact ⟨⟨state, verified.msgIdx, verified.anchorId, verified.dataLen, text⟩, [],
      (List.append_nil _).symm, fun i => ⟨rfl, rfl⟩⟩

theorem rxPart3_received {k peer : Nat} {content : List UInt8} (ready : j.Plain k peer content)
    (listens : (cfg.msgCfg k).rxIndication = true) (short : content.length + 11 < 65536) :
    (rxPart3 cfg j).entry.queueState = .processDone ∧
      (rxPart3 cfg j).log = j.log ++
        [.delivered j.entry.ticket peer (cfg.msgCfg k).pduId content] := by
  have payloadLen : sub16 j.entry.dataLen headerLen = content.length := by
    rw [ready.dataLen, sub16_of_le (by omega) (by simp only [headerLen]; omega)]
    omega
  simp [rxPart3, ready.state, rxDistributeMsg, ready.msgIdx, listens, payloadLen, ready.holds,
    ready.anchorId, Job.emit, Job.setEntry]

@[simp] theorem indications_append (i : Nat) (front back : List Event) :
    indications i (front ++ back) = indications i front ++ indications i back :=
  List.filterMap_append

@[simp] theorem verifications_append (i : Nat) (front back : List Event) :
    verifications i (front ++ back) = verifications i front ++ verifications i back :=
  List.filterMap_append

theorem process_received (size : cmac.length = cmacLen)
    (arrived : j.Received (m.wire truncFresh cmac)) (known : findIdx cfg m.pduId < cfg.numMsg)
    (listens : (cfg.msgCfg (findIdx cfg m.pduId)).rxIndication = true)
    {mem : Mem} (given : env.rxFreshness j.log truncFresh = some mem)
    (same : mem.read 0 freshLen = fresh) (short : m.text.length + 11 < 65536)
    (accepts : env.verify j.log (received cfg m j.entry.anchorId fresh) cmac = .ok)
    (deciphers : ∀ events, Deciphers cfg env (j.log ++ events) m fresh plain)
    (padded : paddingOf cfg m ≤ m.text.length) :
    (process cfg env j).entry.queueState = .processDone ∧
      verifications j.entry.anchorId (process cfg env j).log =
        verifications j.entry.anchorId j.log ++ [received cfg m j.entry.anchorId fresh] ∧
      indications j.entry.anchorId (process cfg env j).log =
        indications j.entry.anchorId j.log ++
          [(m.pduId, plain.take (m.text.length - paddingOf cfg m))] := by
  obtain ⟨verified, state, log1⟩ := rxPart1_received size arrived known given same short accepts
  have opened := deciphers [.verified j.entry.ticket j.entry.anchorId
    (received cfg m j.entry.anchorId fresh) cmac .ok]
  rw [← log1] at opened
  obtain ⟨ready, events, log2, silent⟩ := rxPart2_received verified
    (by rw [← same]; exact read_length _ _ _) state opened padded short
  have few : (plain.take (m.text.length - paddingOf cfg m)).length ≤ m.text.length := by
    rw [List.length_take]
    omega
  obtain ⟨done, log3⟩ := rxPart3_received ready listens (by omega)
  have pdu := findIdx_pduId known
  obtain ⟨unheard, unverified⟩ := silent j.entry.anchorId
  refine ⟨done, ?_, ?_⟩
  · rw [process, log3, log2, log1]
    simp only [verifications_append, unverified]
    simp [verifications, Event.verification]
  · rw [process, log3, log2, log1]
    simp only [indications_append, unheard]
    simp [indications, Event.indication, pdu]

end Process

section Serve

structure Apart (p : Nat) (s t : State) : Prop where
  queue : t.queue p = s.queue p
  data : ∀ temp c, t.chRxData temp c p = s.chRxData temp c p
  log : ∃ events, t.log = s.log ++ events
  indications : indications p t.log = indications p s.log
  verifications : verifications p t.log = verifications p s.log

theorem Apart.refl (p : Nat) (s : State) : Apart p s s :=
  ⟨rfl, fun _ _ => rfl, ⟨[], (List.append_nil _).symm⟩, rfl, rfl⟩

theorem Apart.trans {p : Nat} {u : State} (first : Apart p s t) (second : Apart p t u) :
    Apart p s u := by
  obtain ⟨events, log⟩ := first.log
  obtain ⟨events', log'⟩ := second.log
  refine ⟨second.queue.trans first.queue,
    fun temp c => (second.data temp c).trans (first.data temp c),
    ⟨events ++ events', by rw [log', log, List.append_assoc]⟩,
    second.indications.trans first.indications, second.verifications.trans first.verifications⟩

theorem work_silent {events : List Event} {ticket q p : Nat}
    (work : ∀ e ∈ events, e.isWork ticket q = true) (other : q ≠ p) :
    indications p events = [] ∧ verifications p events = [] := by
  constructor
  · apply List.filterMap_eq_nil_iff.mpr
    intro e member
    have this := work e member
    cases e with
    | delivered k peer =>
        have here : peer = q := by
          simp only [Event.isWork, Bool.and_eq_true, beq_iff_eq] at this
          exact this.2
        simp [Event.indication, here, other]
    | _ => rfl
  · apply List.filterMap_eq_nil_iff.mpr
    intro e member
    have this := work e member
    cases e with
    | verified k peer =>
        have here : peer = q := by
          simp only [Event.isWork, Bool.and_eq_true, beq_iff_eq] at this
          exact this.2
        simp [Event.verification, here, other]
    | _ => rfl

theorem servePeer_apart (owned : Owned cfg s) {q p : Nat} (peer : q < cfg.numLlRx) (other : q ≠ p) :
    Apart p s (servePeer cfg env s q) := by
  unfold servePeer getRxQueueHead
  cases filled : (s.queue q).isEmpty with
  | true => exact Apart.refl p s
  | false =>
      have own : (s.front q).anchorId = q := (owned q peer _ (front_mem filled)).1
      obtain ⟨events, log, work⟩ := headJob_log cfg env s q
      rw [own] at work
      obtain ⟨unheard, unverified⟩ := work_silent work other
      simp only [Bool.false_eq_true, if_false]
      have apart : ¬ p = q := fun same => other same.symm
      cases leaves : Rx.finished cfg (headJob cfg env s q).entry with
      | false =>
          rw [finish_stays own leaves, workHead_eq own]
          refine ⟨by simp [apart], fun temp c => by simp [apart], ⟨events, log⟩, ?_, ?_⟩
          · simp [log, unheard]
          · simp [log, unverified]
      | true =>
          rw [finish_leaves filled own leaves]
          refine ⟨by simp [apart], fun temp c => by simp [apart],
            ⟨events ++ [.removed (s.front q).ticket (headJob cfg env s q).entry.errCounter], ?_⟩,
            ?_, ?_⟩
          · simp [log]
          · simp only [log, indications_append, unheard, List.append_nil]
            exact List.append_nil _
          · simp only [log, verifications_append, unverified, List.append_nil]
            exact List.append_nil _

theorem servePeers_apart (owned : Owned cfg s) {p : Nat} {peers : List Nat}
    (bounds : ∀ q ∈ peers, q < cfg.numLlRx) (others : p ∉ peers) :
    Apart p s (peers.foldl (servePeer cfg env) s) := by
  induction peers generalizing s with
  | nil => exact Apart.refl p s
  | cons q peers ih =>
      have first := servePeer_path env owned (bounds q (by simp))
      have held := (first.invariant (fun _ => True) (fun _ _ _ _ _ => trivial) owned trivial).1
      have here : q ≠ p := fun same => others (by simp [same])
      exact (servePeer_apart owned (bounds q (by simp)) here).trans
        (ih held (fun k member => bounds k (by simp [member])) fun member =>
          others (by simp [member]))

/-- What the neighbours of the receiver answer for a message of peer `p` after a log: the freshness
value of its sender and that the CMAC is right, as long as no other message of the peer has been
verified, and the plain text. -/
structure Accepts (cfg : Config) (env : Env) (log : List Event) (p : Nat) (m : Secured)
    (truncFresh : UInt8) (cmac fresh plain : List UInt8) : Prop where
  freshness : ∀ events, verifications p events = [] →
    ∃ mem, env.rxFreshness (log ++ events) truncFresh = some mem ∧ mem.read 0 freshLen = fresh
  verifies : ∀ events, verifications p events = [] →
    env.verify (log ++ events) (received cfg m p fresh) cmac = .ok
  deciphers : ∀ events, Deciphers cfg env (log ++ events) m fresh plain

theorem Accepts.later {log : List Event} {p : Nat} {m : Secured} {truncFresh : UInt8}
    {cmac fresh plain : List UInt8} (accepts : Accepts cfg env log p m truncFresh cmac fresh plain)
    {events : List Event} (none : verifications p events = []) :
    Accepts cfg env (log ++ events) p m truncFresh cmac fresh plain := by
  constructor
  · intro more unverified
    rw [List.append_assoc]
    exact accepts.freshness _ (by rw [verifications_append, none, unverified, List.append_nil])
  · intro more unverified
    rw [List.append_assoc]
    exact accepts.verifies _ (by rw [verifications_append, none, unverified, List.append_nil])
  · intro more
    rw [List.append_assoc]
    exact accepts.deciphers _

structure Arrived (s : State) (p : Nat) (wire : List UInt8) : Prop where
  filled : (s.queue p).isEmpty = false
  anchorId : (s.front p).anchorId = p
  received : Job.Received ⟨s.front p, (s.dataOf (s.front p)).rxBuffer, s.log⟩ wire

theorem Arrived.apart {p : Nat} {wire : List UInt8} (arrived : Arrived s p wire)
    (apart : Apart p s t) : Arrived t p wire := by
  have front : t.front p = s.front p := by rw [State.front, State.front, apart.queue]
  have data : t.dataOf (t.front p) = s.dataOf (s.front p) := by
    rw [front, State.dataOf, State.dataOf, arrived.anchorId]
    exact apart.data _ _
  have received := arrived.received
  refine ⟨by rw [apart.queue]; exact arrived.filled, by rw [front]; exact arrived.anchorId, ?_⟩
  rw [front] at data ⊢
  rw [data]
  exact ⟨received.state, received.dataLen, received.bytes⟩

theorem BuffersOwned.free {p : Nat} (owned : BuffersOwned cfg s) (peer : p < cfg.numLlRx)
    (channel : c < cfg.tpChMax) (empty : (s.queue p).isEmpty = true) (temp : Bool) :
    (s.chRxData temp c p).needVerify = false := by
  have none := owned p peer c channel temp
  rw [references, State.entries, (Ring.isEmpty_iff _).mp empty, List.countP_nil] at none
  cases flag : (s.chRxData temp c p).needVerify with
  | false => rfl
  | true =>
      rw [flag, if_pos rfl] at none
      cases none

theorem tpRxIndication_arrived {id p : Nat} {wire : List UInt8}
    (found : findByLLPdu cfg id cfg.lowerRxPdu cfg.numLlRx = some (c, p))
    (owned : BuffersOwned cfg r) (receiving : Receiving r s c p wire)
    (empty : (r.queue p).isEmpty = true) (long : cfg.minRxDataLen ≤ chanIdLen + wire.length) :
    Arrived (tpRxIndication cfg id .ok s) p wire ∧
      ∃ bytes, (tpRxIndication cfg id .ok s).log = r.log ++ [.arrived r.nextTicket c p bytes] := by
  obtain ⟨channel, peer, _⟩ := findByLLPdu_bounds found
  have free : (s.chRxData false c p).needVerify = false := by
    rw [receiving.data]
    exact owned.free peer channel empty false
  have emptied : (s.queue p).isEmpty = true := by rw [receiving.queue]; exact empty
  have room : (s.queue p).isFull = false := (s.queue p).isFull_of_empty (by decide) emptied
  have complete : (s.chRxInfo c p).rxOffset ≥ cfg.minRxDataLen := by
    rw [receiving.offset]
    exact long
  have becomes : tpRxIndication cfg id .ok s =
      { (s.setData false c p (s.filledData id c p false true)).setQueue p
          ((s.queue p).push (newEntry s c p false s.nextTicket (s.chRxInfo c p).rxOffset)) with
        nextTicket := s.nextTicket + 1
        log := s.log ++ [.arrived s.nextTicket c p (s.message c p)] } := by
    simp [tpRxIndication, found, complete, freeBuffer, free, takeMessage, addRxQueue, room,
      State.emit, State.setData, State.setQueue, State.filledData, State.message, newEntry]
  let e := newEntry s c p false s.nextTicket (s.chRxInfo c p).rxOffset
  have queue : (tpRxIndication cfg id .ok s).queue p = (s.queue p).push e := by
    rw [becomes]
    simp [e]
  have front : (tpRxIndication cfg id .ok s).front p = e := by
    rw [State.front, queue]
    exact (s.queue p).push_empty_front e room emptied
  have data : ((tpRxIndication cfg id .ok s).dataOf e).rxBuffer =
      (s.filledData id c p false true).rxBuffer := by
    rw [becomes]
    simp [State.dataOf, e, newEntry]
  have length : (s.message c p).length = chanIdLen + wire.length := by
    rw [State.message, read_length, receiving.offset]
  refine ⟨⟨?_, ?_, ?_⟩, s.message c p, ?_⟩
  · rw [queue]
    exact (s.queue p).push_filled e room
  · rw [front]
    rfl
  · rw [front, data]
    refine ⟨rfl, receiving.offset, ?_⟩
    have copied := read_write_same (s.chRxData false c p).rxBuffer 0 (s.message c p)
    have slice := read_slice copied chanIdLen wire.length (by omega)
    have message : (s.chRxInfo c p).rxBuffer.read 0 (s.message c p).length = s.message c p := by
      rw [length, State.message, receiving.offset]
    have whole := read_slice message chanIdLen wire.length (by omega)
    rw [Nat.zero_add] at slice whole
    simp only [State.filledData]
    rw [slice, ← whole]
    exact receiving.holds
  · rw [becomes, receiving.next, receiving.log]

section Deliver
variable {p : Nat} {m : Secured} {truncFresh : UInt8} {cmac fresh plain : List UInt8}

theorem servePeer_delivers (arrived : Arrived s p (m.wire truncFresh cmac))
    (size : cmac.length = cmacLen) (known : findIdx cfg m.pduId < cfg.numMsg)
    (listens : (cfg.msgCfg (findIdx cfg m.pduId)).rxIndication = true)
    (short : m.text.length + 11 < 65536)
    (accepts : Accepts cfg env s.log p m truncFresh cmac fresh plain)
    (padded : paddingOf cfg m ≤ m.text.length) :
    verifications p (servePeer cfg env s p).log =
        verifications p s.log ++ [received cfg m p fresh] ∧
      indications p (servePeer cfg env s p).log = indications p s.log ++
        [(m.pduId, plain.take (m.text.length - paddingOf cfg m))] := by
  obtain ⟨mem, given, same⟩ := accepts.freshness [] rfl
  have verifies := accepts.verifies [] rfl
  rw [List.append_nil] at given verifies
  have anchor := arrived.anchorId
  rw [← anchor] at verifies
  obtain ⟨done, verified, heard⟩ := process_received size arrived.received known listens given same
    short verifies accepts.deciphers padded
  have leaves : Rx.finished cfg (headJob cfg env s p).entry = true := by
    simp only [Rx.finished, headJob, done]
    simp
  have filled := arrived.filled
  simp only [servePeer, getRxQueueHead, filled, Bool.false_eq_true, if_false,
    finish_leaves filled anchor leaves]
  simp only [anchor] at verified heard
  constructor
  · rw [verifications_append, headJob, verified]
    exact List.append_nil _
  · rw [indications_append, headJob, heard]
    exact List.append_nil _

theorem cyclicRx_delivers (owned : Owned cfg s) (peer : p < cfg.numLlRx)
    (free : cfg.build = .ncj29d5 → env.isCryptoFree s.log = true)
    (arrived : Arrived s p (m.wire truncFresh cmac)) (size : cmac.length = cmacLen)
    (known : findIdx cfg m.pduId < cfg.numMsg)
    (listens : (cfg.msgCfg (findIdx cfg m.pduId)).rxIndication = true)
    (short : m.text.length + 11 < 65536)
    (accepts : Accepts cfg env s.log p m truncFresh cmac fresh plain)
    (padded : paddingOf cfg m ≤ m.text.length) :
    verifications p (cyclicRx cfg env s).log = verifications p s.log ++ [received cfg m p fresh] ∧
      indications p (cyclicRx cfg env s).log = indications p s.log ++
        [(m.pduId, plain.take (m.text.length - paddingOf cfg m))] := by
  have runs : ¬ (cfg.build = .ncj29d5 ∧ env.isCryptoFree s.log = false) := by
    rintro ⟨build, busy⟩
    rw [free build] at busy
    cases busy
  obtain ⟨before, after, split⟩ := List.append_of_mem (List.mem_range.mpr peer)
  have once : (before ++ p :: after).Nodup := split ▸ List.nodup_range
  have bounds : ∀ q ∈ before ++ p :: after, q < cfg.numLlRx := by
    rw [← split]
    exact fun q => List.mem_range.mp
  obtain ⟨notBefore, notAfter⟩ : p ∉ before ∧ p ∉ after := by
    have apart := List.nodup_append.mp once
    exact ⟨fun member => apart.2.2 p member p (by simp) rfl, (List.nodup_cons.mp apart.2.1).1⟩
  rw [cyclicRx, if_neg runs, split, List.foldl_append, List.foldl_cons]
  have first : Apart p s (before.foldl (servePeer cfg env) s) :=
    servePeers_apart owned (fun q member => bounds q (by simp [member])) notBefore
  have path : Path cfg env s (before.foldl (servePeer cfg env) s) :=
    servePeers_path owned fun q member => bounds q (by simp [member])
  have held := (path.invariant (fun _ => True) (fun _ _ _ _ _ => trivial) owned trivial).1
  generalize before.foldl (servePeer cfg env) s = t at first held
  obtain ⟨events, log⟩ := first.log
  have unverified : verifications p events = [] := by
    have none := first.verifications
    rw [log, verifications_append] at none
    exact List.append_cancel_left (none.trans (List.append_nil _).symm)
  have served := servePeer_delivers (arrived.apart first) size known listens short
    (log ▸ accepts.later unverified) padded
  have held' := ((servePeer_path env held peer).invariant (fun _ => True)
    (fun _ _ _ _ _ => trivial) held trivial).1
  have last : Apart p (servePeer cfg env t p) (after.foldl (servePeer cfg env) _) :=
    servePeers_apart held' (fun q member => bounds q (by simp [member])) notAfter
  rw [last.verifications, last.indications, served.1, served.2, first.verifications,
    first.indications]
  exact ⟨rfl, rfl⟩

end Deliver

end Serve

end AnchorNode.AnchorCom.Rx
