import AnchorNode.AnchorCom.Acceptance
import AnchorNode.AnchorCom.Broadcast

/-! A secured unicast on its way from the queue of its sender to the application of its
receiver. -/

namespace AnchorNode.AnchorCom

open AnchorNode.Lib

/-- Two nodes of which one is the master and the other the anchor with that index. A master
tells the anchors of its channel for the CC26xx from the others. -/
inductive Peers (sender receiver : Config) (m k i p : Nat) : Prop
  | toAnchor (master : sender.build = .masterMcu)
      (channel : (receiver.build = .cc26xx ∧ (sender.msgCfg m).channel = sender.bleChannel) ∨
        (receiver.build = .ncj29d5 ∧ (sender.msgCfg m).channel ≠ sender.bleChannel))
      (index : receiver.canIdx.toNat % 16 = (i + 1) % 16)
  | toMaster (master : receiver.build = .masterMcu)
      (channel : (sender.build = .cc26xx ∧ (receiver.msgCfg k).channel = receiver.bleChannel) ∨
        (sender.build = .ncj29d5 ∧ (receiver.msgCfg k).channel ≠ receiver.bleChannel))
      (index : sender.canIdx.toNat % 16 = (p + 1) % 16)

/-- Message `m` of the sender is a unicast to its peer `i`, and is configured alike at the
receiver, whose peer `p` is the sender. -/
structure Unicast (sender receiver : Config) (m i p txId rxId : Nat) : Prop where
  unicast : (sender.msgCfg m).broadcast = false
  known : findIdx receiver (sender.msgCfg m).pduId < receiver.numMsg
  same : (receiver.msgCfg (findIdx receiver (sender.msgCfg m).pduId)).broadcast = false ∧
    (receiver.msgCfg (findIdx receiver (sender.msgCfg m).pduId)).encDecFlag =
      (sender.msgCfg m).encDecFlag ∧
    (receiver.msgCfg (findIdx receiver (sender.msgCfg m).pduId)).rxIndication = true
  peers : Peers sender receiver m (findIdx receiver (sender.msgCfg m).pduId) i p
  sends : findByLLPdu sender txId sender.lowerTxCbPdu sender.numLlTx =
    some ((sender.msgCfg m).channel, i)
  own : Tx.isImc sender txId = false
  receives : ∃ d, findByLLPdu receiver rxId receiver.lowerRxPdu receiver.numLlRx = some (d, p)
  room : ∀ n ≤ (sender.msgCfg m).length,
    headerLen + Tx.formatLength sender m n + appendLen ≤ receiver.maxRxBufferLen
  shortest : receiver.minRxDataLen ≤ headerLen + 1 + appendLen

theorem Unicast.chanId {sender receiver : Config} {m i p txId rxId : Nat}
    (unicast : Unicast sender receiver m i p txId rxId) :
    getRxChanId receiver (findIdx receiver (sender.msgCfg m).pduId) p = getTxChanId sender m i := by
  have single := unicast.unicast
  obtain ⟨single', _, _⟩ := unicast.same
  have ofNat : ∀ n : Nat, (UInt8.ofNat n).toNat % 16 = n % 16 := by
    intro n
    rw [UInt8.toNat_ofNat']
    omega
  unfold getRxChanId getTxChanId
  cases unicast.peers with
  | toAnchor master channel index =>
      rcases channel with ⟨build, ble⟩ | ⟨build, uwb⟩
      · simp only [master, build, single, single', ble, beq_self_eq_true, Bool.false_eq_true,
          if_false]
        rw [getChanId_eq_iff, ofNat]
        exact index
      · have other : ((sender.msgCfg m).channel == sender.bleChannel) = false := by simp [uwb]
        simp only [master, build, single, single', other, Bool.false_eq_true, if_false]
        rw [getChanId_eq_iff, ofNat]
        exact index
  | toMaster master channel index =>
      rcases channel with ⟨build, ble⟩ | ⟨build, uwb⟩
      · simp only [master, build, single, single', ble, beq_self_eq_true]
        rw [getChanId_eq_iff, ofNat]
        exact index.symm
      · have other : ((receiver.msgCfg (findIdx receiver (sender.msgCfg m).pduId)).channel ==
            receiver.bleChannel) = false := by simp [uwb]
        simp only [master, build, single, single', other]
        rw [getChanId_eq_iff, ofNat]
        exact index.symm

/-- What the crypto modules and the freshness values of the two ends have to do with each other.
Until it verifies a message of peer `p`, the receiver finds the freshness value of the sender and
accepts what the sender has authenticated; and it decrypts what the sender has encrypted. -/
structure Matching (tx : Tx.Env) (rx : Rx.Env) (p : Nat) (txLog : List Tx.Event)
    (rxLog : List Rx.Event) : Prop where
  freshness : ∀ fresh truncFresh, tx.txFreshness txLog = some (fresh, truncFresh) →
    ∀ events, Rx.verifications p events = [] →
      ∃ mem, rx.rxFreshness (rxLog ++ events) truncFresh = some mem ∧
        mem.read 0 freshLen = fresh.read 0 freshLen
  verifies : ∀ log data, (tx.authenticate log data).1 = .ok →
    ∀ events, Rx.verifications p events = [] →
      rx.verify (rxLog ++ events) data ((tx.authenticate log data).2.read 0 cmacLen) = .ok
  decrypts : ∀ log plain fresh, (tx.encrypt log plain fresh).1 = .ok →
    plain.length % aesKeyLen = 0 → ∀ events,
      (rx.decrypt (rxLog ++ events) ((tx.encrypt log plain fresh).2.read 0 plain.length) fresh).1 =
        .ok ∧
      (rx.decrypt (rxLog ++ events) ((tx.encrypt log plain fresh).2.read 0 plain.length)
        fresh).2.read 0 plain.length = plain

section Padding
variable (cfg : Config) {m : Nat}

theorem formatFlags_padding (secret : (cfg.msgCfg m).encDecFlag = true) (len : Nat) (old : UInt8) :
    (Tx.formatFlags cfg m len old &&& 0x0F).toNat = Tx.paddingLen len := by
  have few : Tx.paddingLen len < 16 := by
    unfold Tx.paddingLen aesKeyLen
    split <;> omega
  have kept : ∀ n : Fin 16, ((0x80 ||| (UInt8.ofNat n &&& 0x0F)) &&& 0x0F : UInt8).toNat = n := by
    decide
  rw [Tx.formatFlags, if_pos secret]
  by_cases none : Tx.paddingLen len = 0
  · simp [none]
  · rw [if_pos none]
    exact kept ⟨Tx.paddingLen len, few⟩

theorem padded_blocks (secret : (cfg.msgCfg m).encDecFlag = true) (payload : List UInt8) :
    (Tx.formatText cfg m payload).length % aesKeyLen = 0 := by
  rw [Tx.formatText, if_pos secret, List.length_append, List.length_replicate]
  unfold Tx.paddingLen aesKeyLen
  split <;> omega

theorem formatText_unpadded (payload : List UInt8) :
    (Tx.formatText cfg m payload).take ((Tx.formatText cfg m payload).length -
      if (cfg.msgCfg m).encDecFlag then Tx.paddingLen payload.length else 0) = payload := by
  by_cases secret : (cfg.msgCfg m).encDecFlag = true
  · simp only [Tx.formatText, secret, if_true, List.length_append, List.length_replicate,
      Nat.add_sub_cancel, List.take_left]
  · simp only [Tx.formatText, secret, Bool.false_eq_true, if_false, Nat.sub_zero, List.take_length]

end Padding

/-- The sender asks for the transmission of what it has prepared for its peer `i`, the lower layers
copy it in these slices, and the receiver is told that it is complete. -/
def exchange (sender receiver : Config) (tx : Tx.Env) (rx : Rx.Env) (i txId rxId : Nat)
    (slices : List Nat) (s : Tx.State) (r : Rx.State) : Rx.State :=
  let sent := Tx.startRequest i (s.queue i).head (Tx.prepare sender tx i s)
  let length := (sent.msgTxInfo i (sent.front i).msgIdx).length
  let ends := slices.foldl (copySlice sender receiver txId rxId)
    (sent, (Rx.startOfReception receiver rxId length r).1)
  Rx.cyclicRx receiver rx (Rx.tpRxIndication receiver rxId .ok ends.2)

section Exchange
variable {sender receiver : Config} {tx : Tx.Env} {rx : Rx.Env} {s : Tx.State} {r : Rx.State}
  {i p txId rxId : Nat} {payload : List UInt8}

theorem prepared_accepted {msg : Secured} {fresh : Mem} {truncFresh : UInt8} {cmac : List UInt8}
    (unicast : Unicast sender receiver (s.front i).msgIdx i p txId rxId)
    (waiting : Tx.Waiting sender s i payload) (matching : Matching tx rx p s.log r.log)
    (prepared : Tx.Prepared sender tx i s msg fresh truncFresh cmac) :
    Rx.received receiver msg p (fresh.read 0 freshLen) =
        Tx.authenticString (Tx.txPart1 sender tx i (s.queue i).head s) i ∧
      Rx.Accepts receiver rx r.log p msg truncFresh cmac (fresh.read 0 freshLen)
        (Tx.formatText sender (s.front i).msgIdx payload) := by
  have same : Rx.received receiver msg p (fresh.read 0 freshLen) =
      msg.authentic (getTxChanId sender (s.front i).msgIdx i) (fresh.read 0 freshLen) := by
    rw [Rx.received, prepared.pduId, unicast.chanId]
  obtain ⟨log, done, tag⟩ := prepared.tags
  refine ⟨same.trans prepared.asked.symm, ?_, ?_, ?_⟩
  · exact matching.freshness _ _ prepared.given
  · intro events unverified
    rw [same, tag]
    exact matching.verifies log _ done events unverified
  · intro events
    have text := prepared.text
    rw [waiting.length, waiting.holds] at text
    rw [Rx.Deciphers, prepared.pduId, unicast.same.2.1]
    by_cases secret : (sender.msgCfg (s.front i).msgIdx).encDecFlag = true
    · rw [Tx.Enciphers, if_pos secret] at text
      obtain ⟨log, done, cipher⟩ := text
      obtain ⟨opened, plain⟩ := matching.decrypts log _ _ done
        (padded_blocks sender secret payload) events
      rw [if_pos secret, cipher, read_length]
      exact ⟨opened, plain.symm⟩
    · rw [Tx.Enciphers, if_neg secret] at text
      rw [if_neg secret]
      exact text.symm

theorem exchange_received {msg : Secured} {fresh : Mem} {truncFresh : UInt8} {cmac : List UInt8}
    {d : Nat} (unicast : Unicast sender receiver (s.front i).msgIdx i p txId rxId)
    (receives : findByLLPdu receiver rxId receiver.lowerRxPdu receiver.numLlRx = some (d, p))
    (waiting : Tx.Waiting sender s i payload)
    (short : payload.length ≤ (sender.msgCfg (s.front i).msgIdx).length)
    (ready : ((Tx.prepare sender tx i s).front i).queueState = .transReady)
    (prepared : Tx.Prepared sender tx i s msg fresh truncFresh cmac) (slices : List Nat)
    (all : (msg.wire truncFresh cmac).length ≤ (slices.map u16).sum) :
    let sent := Tx.startRequest i (s.queue i).head (Tx.prepare sender tx i s)
    let length := (sent.msgTxInfo i (sent.front i).msgIdx).length
    Rx.Receiving r (slices.foldl (copySlice sender receiver txId rxId)
      (sent, (Rx.startOfReception receiver rxId length r).1)).2 d p (msg.wire truncFresh cmac) := by
  intro sent length
  have bound := sender.length_lt _ waiting.atFront.own.msgIdx
  have limit : maxMsgTx = 4096 := rfl
  have few := Tx.formatLength_bound sender (s.front i).msgIdx payload.length
  have text := prepared.length
  rw [waiting.length] at text
  have whole := msg.wire_length truncFresh cmac
  have sizes : headerLen = 3 ∧ appendLen = 4 ∧ chanIdLen = 1 ∧ cmacLen = 3 ∧ prefixLen = 2 :=
    ⟨rfl, rfl, rfl, rfl, rfl⟩
  have tag := prepared.tag
  have room := unicast.room payload.length short
  obtain ⟨front, head, index⟩ := Tx.prepare_front waiting (by omega) ready
  have stored := prepared.stored
  have wire := prepared.wire
  rw [stored] at wire
  rw [← index] at stored wire
  obtain ⟨sending, index'⟩ := Tx.startRequest_sending front ready stored wire (by omega)
  rw [head] at sending index'
  rw [index] at sending index'
  have announced : length = (msg.wire truncFresh cmac).length := by
    simp only [length, sent, index', sending.length]
  rw [announced]
  have opened : Rx.Receiving r (Rx.startOfReception receiver rxId
      (msg.wire truncFresh cmac).length r).1 d p [] :=
    Rx.startOfReception_receiving receives (by omega)
  have received := @slices_received _ _ _ _ _ _ _ _ _ _ _ unicast.sends unicast.own receives
    (by omega) (by omega) slices (sent, _) _ sending opened
  rwa [Nat.zero_add, List.take_of_length_le all] at received

/-- A unicast whose freshness, encryption and authentication are answered is, for every way in
which the lower layers slice it, verified at the receiver over the string that the sender has
authenticated, and given to the application once, with its PDU and its payload. -/
theorem unicast_survives (sender receiver : Config) (tx : Tx.Env) (rx : Rx.Env) (s : Tx.State)
    (r₀ : Rx.State) (ops : List Rx.Op) (i p txId rxId : Nat) (payload : List UInt8)
    (slices : List Nat)
    (unicast : Unicast sender receiver (s.front i).msgIdx i p txId rxId)
    (waiting : Tx.Waiting sender s i payload) (filled : 1 ≤ payload.length)
    (short : payload.length ≤ (sender.msgCfg (s.front i).msgIdx).length)
    (answered : Tx.Answered sender tx s i)
    (all : ((Tx.prepare sender tx i s).msgTxInfo i (s.front i).msgIdx).length ≤
      (slices.map u16).sum) :
    let r := run (Rx.step receiver rx) (Rx.start receiver r₀) ops
    (r.queue p).isEmpty = true → Matching tx rx p s.log r.log →
    (receiver.build = .ncj29d5 → ∀ event, rx.isCryptoFree (r.log ++ [event]) = true) →
    let t := exchange sender receiver tx rx i txId rxId slices s r
    let data := Tx.authenticString (Tx.txPart1 sender tx i (s.queue i).head s) i
    (∃ cmac, Tx.Event.authenticated (s.front i).ticket data cmac ∈ (Tx.prepare sender tx i s).log) ∧
    Rx.verifications p t.log = Rx.verifications p r.log ++ [data] ∧
    Rx.indications p t.log =
      Rx.indications p r.log ++ [((sender.msgCfg (s.front i).msgIdx).pduId, payload)] := by
  intro r empty matching free t data
  have bound := sender.length_lt _ waiting.atFront.own.msgIdx
  have limit : maxMsgTx = 4096 := rfl
  have few := Tx.formatLength_bound sender (s.front i).msgIdx payload.length
  have stored := waiting.length
  have ready := Tx.prepare_ready waiting.atFront waiting.queued (by omega) answered
  obtain ⟨msg, fresh, truncFresh, cmac, prepared⟩ :=
    Tx.prepare_seals waiting.atFront waiting.queued (by omega) ready
  obtain ⟨same, accepts⟩ := prepared_accepted unicast waiting matching prepared
  obtain ⟨d, receives⟩ := unicast.receives
  rw [prepared.stored] at all
  have received := exchange_received (r := r) unicast receives waiting short ready prepared
    slices all
  have text := prepared.length
  rw [waiting.length] at text
  have plainText : (Tx.formatText sender (s.front i).msgIdx payload).length = msg.text.length := by
    have length : (Tx.formatText sender (s.front i).msgIdx ((s.buffer i (s.front i).msgIdx).read
        headerLen payload.length)).length = _ := Tx.formatText_length sender _ (by omega)
    rw [waiting.holds] at length
    exact length.trans text.symm
  have grown : payload.length ≤ msg.text.length := by
    rw [← plainText, Tx.formatText]
    split
    · simp
    · exact Nat.le_refl _
  have whole := msg.wire_length truncFresh cmac
  have tag := prepared.tag
  have sizes : headerLen = 3 ∧ appendLen = 4 ∧ chanIdLen = 1 ∧ cmacLen = 3 ∧ prefixLen = 2 :=
    ⟨rfl, rfl, rfl, rfl, rfl⟩
  have shortest := unicast.shortest
  obtain ⟨own, buffers⟩ : Rx.Owned receiver r ∧ Rx.BuffersOwned receiver r := by
    apply Rx.run_moves (fun s => Rx.Owned receiver s ∧ Rx.BuffersOwned receiver s)
    · intro u v move _ held
      exact ⟨move.owned held.1, move.buffersOwned held.2⟩
    · exact ⟨Rx.start_owned r₀, Rx.start_buffersOwned r₀⟩
  obtain ⟨arrived, bytes, log⟩ :=
    Rx.tpRxIndication_arrived receives buffers received empty (by omega)
  have heard : t = Rx.cyclicRx receiver rx (Rx.tpRxIndication receiver rxId .ok _) := rfl
  have own' : Rx.Owned receiver (Rx.tpRxIndication receiver rxId .ok _) :=
    Rx.Move.owned (show Rx.Move receiver rx _ _ from Rx.tpRxIndication_move rxId .ok)
      (received.owned own)
  rw [heard]
  generalize Rx.tpRxIndication receiver rxId .ok _ = u at arrived log own' ⊢
  have padding : Rx.paddingOf receiver msg = if (sender.msgCfg (s.front i).msgIdx).encDecFlag
      then Tx.paddingLen payload.length else 0 := by
    rw [Rx.paddingOf, prepared.pduId, unicast.same.2.1]
    split
    · rename_i secret
      rw [prepared.flags, formatFlags_padding sender secret, waiting.length]
    · rfl
  have padded : Rx.paddingOf receiver msg ≤ msg.text.length := by
    rw [padding, ← plainText, Tx.formatText]
    split
    · simp
    · exact Nat.zero_le _
  obtain ⟨verified, delivered⟩ := Rx.cyclicRx_delivers own' (findByLLPdu_bounds receives).2.1
    (fun build => by rw [log]; exact free build _) arrived tag
    (by rw [prepared.pduId]; exact unicast.known)
    (by rw [prepared.pduId]; exact unicast.same.2.2) (by omega)
    (by rw [log]; exact accepts.later rfl) padded
  have content : (Tx.formatText sender (s.front i).msgIdx payload).take
      (msg.text.length - Rx.paddingOf receiver msg) = payload := by
    rw [padding, ← plainText]
    exact formatText_unpadded sender payload
  refine ⟨⟨cmac, ?_⟩, ?_, ?_⟩
  · have authenticated := prepared.authenticated
    rwa [← prepared.asked] at authenticated
  · rw [verified, log, Rx.verifications_append, same]
    simp [Rx.verifications, Rx.Event.verification, data]
  · rw [delivered, log, Rx.indications_append, content, prepared.pduId]
    simp [Rx.indications, Rx.Event.indication]

end Exchange

section Sample

def unicastState : Tx.State :=
  (Tx.transmit (sampleConfig .masterMcu) (Tx.sampleRequest 0 0x10 5)
    (Tx.start (sampleConfig .masterMcu) Tx.blank)).1

theorem sample_unicast :
    Unicast (sampleConfig .masterMcu) (anchorConfig .cc26xx 1) 0 0 0 0 0 where
  unicast := rfl
  known := (by decide : 1 < 2)
  same := ⟨rfl, rfl, rfl⟩
  peers := .toAnchor rfl (Or.inl ⟨rfl, rfl⟩) (by decide)
  sends := by decide
  own := rfl
  receives := ⟨0, by decide⟩
  room := by decide
  shortest := by decide

theorem sample_matching (p : Nat) (txLog : List Tx.Event) (rxLog : List Rx.Event) :
    Matching Tx.promptEnv anchorEnv p txLog rxLog where
  freshness := by
    intro fresh truncFresh given events _
    cases given
    exact ⟨_, rfl, rfl⟩
  verifies := fun _ _ _ _ _ => rfl
  decrypts := by
    intro log plain fresh _ _ events
    have back (x : UInt8) : 255 - (255 - x) = x := by grind
    refine ⟨rfl, ?_⟩
    apply List.ext_getElem
    · simp
    · intro n _ inside
      simp [anchorEnv, Tx.promptEnv, Mem.read, inside, back]

theorem sample_answered (cfg : Config) (i : Nat) (s : Tx.State) :
    Tx.Answered cfg Tx.promptEnv s i where
  fresh := rfl
  encrypts := fun _ _ _ _ => rfl
  authenticates := fun _ _ => rfl

theorem unicast_survives_encrypted :
    Rx.indications 0 (exchange (sampleConfig .masterMcu) (anchorConfig .cc26xx 1) Tx.promptEnv
      anchorEnv 0 0 0 [3, 0, 20] unicastState
      (Rx.start (anchorConfig .cc26xx 1) Rx.emptyState)).log = [(0x10, [5, 5, 5, 5, 5])] := by
  have waiting : Tx.Waiting (sampleConfig .masterMcu) unicastState 0
        (Tx.sampleRequest 0 0x10 5).payload ∧ _ :=
    Tx.transmit_waiting (m := 0) (by rfl) rfl (by decide) (by decide) (by decide)
  have survives := unicast_survives (sampleConfig .masterMcu) (anchorConfig .cc26xx 1) Tx.promptEnv
    anchorEnv unicastState Rx.emptyState [] 0 0 0 0 _ [3, 0, 20] sample_unicast waiting.1
    (by decide) (by decide) (sample_answered _ _ _) (by decide) (by decide)
    (sample_matching _ _ _)
    (fun _ _ => rfl)
  exact survives.2.2

end Sample

end AnchorNode.AnchorCom
