import AnchorNode.AnchorCom.Secured

/-! The channel id a master authenticates with and the one an anchor puts in its place. The
three builds derive it separately, from the queue entry, from NvM and from the UWB
information. -/

namespace AnchorNode.AnchorCom

open AnchorNode.Lib

section ChannelId

theorem low_or {chanId flag : UInt8} (upper : flag &&& 0x0F = 0) :
    (chanId ||| flag) &&& 0x0F = chanId &&& 0x0F := by
  have none := congrArg UInt8.toNat upper
  rw [UInt8.toNat_and] at none
  apply UInt8.toNat_inj.mp
  rw [UInt8.toNat_and, UInt8.toNat_and, UInt8.toNat_or, Nat.and_or_distrib_right, none]
  exact Nat.or_zero _

theorem getChanId_low (canIdx : UInt8) (isBroadcast isBleChannel fromMaster : Bool) :
    getChanId canIdx isBroadcast isBleChannel fromMaster &&& 0x0F = canIdx &&& 0x0F := by
  have broadcast : (0x80 : UInt8) &&& 0x0F = 0 := rfl
  have ble : (0x40 : UInt8) &&& 0x0F = 0 := rfl
  have uwb : (0x10 : UInt8) &&& 0x0F = 0 := rfl
  have master : (0x20 : UInt8) &&& 0x0F = 0 := rfl
  have start : canIdx &&& 0x0F &&& 0x0F = canIdx &&& 0x0F := by
    rw [UInt8.and_assoc, UInt8.and_self]
  unfold getChanId
  dsimp only
  split_ifs <;>
    simp only [low_or broadcast, low_or ble, low_or uwb, low_or master, start]

theorem low_toNat (canIdx : UInt8) : (canIdx &&& 0x0F).toNat = canIdx.toNat % 16 := by
  rw [UInt8.toNat_and]
  exact Nat.and_two_pow_sub_one_eq_mod canIdx.toNat 4

theorem getChanId_eq_iff (canIdx canIdx' : UInt8) (isBroadcast isBleChannel fromMaster : Bool) :
    getChanId canIdx isBroadcast isBleChannel fromMaster =
      getChanId canIdx' isBroadcast isBleChannel fromMaster ↔
    canIdx.toNat % 16 = canIdx'.toNat % 16 := by
  rw [← low_toNat, ← low_toNat, UInt8.toNat_inj]
  constructor
  · intro same
    rw [← getChanId_low canIdx isBroadcast isBleChannel fromMaster, same, getChanId_low]
  · intro same
    rw [getChanId, getChanId, same]

end ChannelId

/-- The anchor is of the build that has the channel of the master's message `m`, and knows
the message under the same PDU as one of the same kind. -/
structure Addressed (master anchor : Config) (m : Nat) : Prop where
  sender : master.build = .masterMcu
  channel : (anchor.build = .cc26xx ∧ (master.msgCfg m).channel = master.bleChannel) ∨
    (anchor.build = .ncj29d5 ∧ (master.msgCfg m).channel ≠ master.bleChannel)
  known : findIdx anchor (master.msgCfg m).pduId < anchor.numMsg
  broadcast : (anchor.msgCfg (findIdx anchor (master.msgCfg m).pduId)).broadcast =
    (master.msgCfg m).broadcast

def receivingIndex (anchor : Config) (isBroadcast : Bool) : Nat :=
  if isBroadcast ∧ anchor.build = .ncj29d5 then 0 else anchor.canIdx.toNat % 16

def sendingIndex (isBroadcast : Bool) (anchorId : Nat) : Nat :=
  if isBroadcast then 0 else (anchorId + 1) % 16

theorem chanId_eq_iff {master anchor : Config} {m : Nat} (addressed : Addressed master anchor m)
    (anchorId i : Nat) :
    getRxChanId anchor (findIdx anchor (master.msgCfg m).pduId) i = getTxChanId master m anchorId ↔
      receivingIndex anchor (master.msgCfg m).broadcast =
        sendingIndex (master.msgCfg m).broadcast anchorId := by
  unfold getRxChanId getTxChanId receivingIndex sendingIndex
  simp only [addressed.sender, addressed.broadcast]
  rcases addressed.channel with ⟨build, ble⟩ | ⟨build, uwb⟩
  · have same : ((master.msgCfg m).channel == master.bleChannel) = true := by simp [ble]
    simp only [build, same]
    rw [getChanId_eq_iff]
    cases (master.msgCfg m).broadcast with
    | true => simp
    | false => simp
  · have other : ((master.msgCfg m).channel == master.bleChannel) = false := by simp [uwb]
    simp only [build, other]
    rw [getChanId_eq_iff]
    cases (master.msgCfg m).broadcast with
    | true => simp
    | false => simp

/-- The string the anchor passes to the verification for a message it has received. -/
def verifiedString (anchor : Config) (env : Rx.Env) (j : Rx.Job) : List UInt8 :=
  let formatted := Rx.rxFormatForCmac anchor env j
  formatted.1.buffer.read 0 formatted.1.entry.dataLen

/-- The string the lower layer takes for the front entry of peer `i`. -/
def wireString (s : Tx.State) (i m : Nat) : List UInt8 :=
  (s.buffer i m).read chanIdLen (s.msgTxInfo i m).length

/-- The master has got the queued front entry of peer `i` ready to be sent, and the anchor has
received it and has the same freshness value. -/
structure Transfer (master anchor : Config) (tx : Tx.Env) (rx : Rx.Env) (s : Tx.State) (i : Nat)
    (j : Rx.Job) : Prop where
  atFront : Tx.AtFront master s i
  queued : (s.front i).queueState = .queued
  fits : (s.msgTxInfo i (s.front i).msgIdx).length ≤ (master.msgCfg (s.front i).msgIdx).length
  ready : ((Tx.prepare master tx i s).front i).queueState = .transReady
  addressed : Addressed master anchor (s.front i).msgIdx
  received : j.Received (wireString (Tx.prepare master tx i s) i (s.front i).msgIdx)
  fresh : ∀ fresh truncFresh, tx.txFreshness s.log = some (fresh, truncFresh) →
    ∃ fresh', rx.rxFreshness j.log truncFresh = some fresh' ∧
      fresh'.read 0 freshLen = fresh.read 0 freshLen

/-- Master and anchor agree on the string exactly if they agree on the index in the channel
id. -/
theorem strings_eq_iff {master anchor : Config} {tx : Tx.Env} {rx : Rx.Env} {s : Tx.State}
    {i : Nat} {j : Rx.Job} (transfer : Transfer master anchor tx rx s i j) :
    verifiedString anchor rx j =
      Tx.authenticString (Tx.txPart1 master tx i (s.queue i).head s) i ↔
    receivingIndex anchor (master.msgCfg (s.front i).msgIdx).broadcast =
      sendingIndex (master.msgCfg (s.front i).msgIdx).broadcast i := by
  have bound := master.length_lt _ transfer.atFront.own.msgIdx
  have fits := transfer.fits
  have limit : maxMsgTx = 4096 := rfl
  obtain ⟨msg, fresh, truncFresh, cmac, prepared⟩ :=
    Tx.prepare_seals transfer.atFront transfer.queued (by omega) transfer.ready
  obtain ⟨fresh', given, same⟩ := transfer.fresh fresh truncFresh prepared.given
  have few := Tx.formatLength_bound master (s.front i).msgIdx
    (s.msgTxInfo i (s.front i).msgIdx).length
  have short : msg.text.length + 11 < 65536 := by
    have length := prepared.length
    omega
  have received := transfer.received
  rw [wireString, prepared.wire] at received
  have known : findIdx anchor msg.pduId < anchor.numMsg := by
    rw [prepared.pduId]
    exact transfer.addressed.known
  obtain ⟨buffer, formatted, holds⟩ :=
    Rx.rxFormatForCmac_received prepared.tag received known given short
  have verified : verifiedString anchor rx j = msg.authentic
      (getRxChanId anchor (findIdx anchor msg.pduId) j.entry.anchorId)
      (fresh.read 0 freshLen) := by
    rw [verifiedString, formatted, ← same, ← holds]
  rw [verified, prepared.asked, msg.authentic_eq_iff, prepared.pduId]
  exact chanId_eq_iff transfer.addressed i j.entry.anchorId

/-- A broadcast of the master is verified over the string the master has authenticated, and a
message to one anchor only at the anchor it is addressed to, except for broadcasts at a
CC26xx anchor whose CAN index is not a multiple of 16: that build puts its own index into the
channel id of a broadcast. At the addressed anchor the strings of a unicast do agree. -/
theorem broadcasts_authenticate_iff (master anchor : Config) (tx : Tx.Env) (rx : Rx.Env)
    (s : Tx.State) (i : Nat) (j : Rx.Job) (transfer : Transfer master anchor tx rx s i j) :
    let isBroadcast := (master.msgCfg (s.front i).msgIdx).broadcast = true
    let agree := verifiedString anchor rx j =
      Tx.authenticString (Tx.txPart1 master tx i (s.queue i).head s) i
    ((isBroadcast → agree) ∧ (¬ isBroadcast → agree → anchor.canIdx.toNat % 16 = (i + 1) % 16) ↔
      ¬ (isBroadcast ∧ anchor.build = .cc26xx ∧ anchor.canIdx.toNat % 16 ≠ 0)) ∧
    (¬ isBroadcast → anchor.canIdx.toNat % 16 = (i + 1) % 16 → agree) := by
  intro isBroadcast agree
  have decides : agree ↔ _ := strings_eq_iff transfer
  have builds := transfer.addressed.channel
  rw [decides]
  unfold receivingIndex sendingIndex
  by_cases broadcast : (master.msgCfg (s.front i).msgIdx).broadcast = true
  · rcases builds with ⟨build, _⟩ | ⟨build, _⟩
    · simp [isBroadcast, broadcast, build]
    · simp [isBroadcast, broadcast, build]
  · simp [isBroadcast, broadcast]

section Sample

def anchorMsg : Nat → MsgCfg
  | 0 => ⟨0x12, 0, true, false, 8, false, true⟩
  | _ => ⟨0x10, 0, true, false, 8, true, false⟩

theorem anchorMsg_count_le : 2 ≤ 256 := by decide

def anchorConfig (build : BuildKind) (canIdx : UInt8) : Config where
  build := build
  masterHasRf := false
  numLlTx := 1
  numLlRx := 1
  maxNodes := 1
  tpChMax := 1
  bleChannel := 0
  maxRetryCount := 3
  reservedLen := 26
  maxRxBufferLen := 64
  minRxDataLen := 8
  canIdx := canIdx
  numMsg := 2
  msgCfg := anchorMsg
  lowerTxCallPdu := fun _ i => i
  lowerTxCbPdu := fun _ i => i
  lowerRxPdu := fun _ i => i
  imcBroadcastPdu := 100
  numMsg_le := anchorMsg_count_le
  length_lt := by decide
  channel_lt := by decide
  pduId_distinct := by decide

def masterState : Tx.State :=
  (Tx.transmit (sampleConfig .masterMcu) (Tx.sampleRequest 2 0x12 4)
    (Tx.start (sampleConfig .masterMcu) Tx.blank)).1

def anchorEnv : Rx.Env where
  isCryptoFree := fun _ => true
  rxFreshness := fun _ truncFresh => some fun _ => truncFresh
  verify := fun _ _ _ => .ok
  decrypt := fun _ payload _ => (.ok, fun n => 255 - payload.getD n 0)

def anchorJob : Rx.Job :=
  let bytes := wireString (Tx.prepare (sampleConfig .masterMcu) Tx.promptEnv 2 masterState) 2 2
  { entry := ⟨0, 0, false, .queued, 0, chanIdLen + bytes.length, 0, 0, [], 0⟩
    buffer := Mem.write (fun _ => 0) chanIdLen bytes
    log := [] }

theorem anchor_transfer (canIdx : UInt8) : Transfer (sampleConfig .masterMcu)
    (anchorConfig .cc26xx canIdx) Tx.promptEnv anchorEnv masterState 2 anchorJob where
  atFront := ⟨by decide, by decide, ⟨by decide, by decide, by decide, by decide, by decide⟩⟩
  queued := by decide
  fits := by decide
  ready := by decide
  addressed := ⟨rfl, Or.inl ⟨rfl, by decide⟩, (by decide : (0 : Nat) < 2), rfl⟩
  received := ⟨rfl, rfl, by decide⟩
  fresh := by
    intro fresh truncFresh given
    cases given
    exact ⟨_, rfl, rfl⟩

theorem broadcasts_authenticate_zero :
    verifiedString (anchorConfig .cc26xx 16) anchorEnv anchorJob =
      Tx.authenticString (Tx.txPart1 (sampleConfig .masterMcu) Tx.promptEnv 2
        (masterState.queue 2).head masterState) 2 := by
  have general := broadcasts_authenticate_iff _ _ _ _ _ _ _ (anchor_transfer 16)
  exact (general.1.mpr (by decide)).1 (by decide)

theorem broadcast_fails_at_anchor :
    Transfer (sampleConfig .masterMcu) (anchorConfig .cc26xx 1) Tx.promptEnv anchorEnv
      masterState 2 anchorJob ∧
    ((sampleConfig .masterMcu).msgCfg (masterState.front 2).msgIdx).broadcast = true ∧
    verifiedString (anchorConfig .cc26xx 1) anchorEnv anchorJob ≠
      Tx.authenticString (Tx.txPart1 (sampleConfig .masterMcu) Tx.promptEnv 2
        (masterState.queue 2).head masterState) 2 :=
  ⟨anchor_transfer 1, by decide, by decide⟩

end Sample

end AnchorNode.AnchorCom
