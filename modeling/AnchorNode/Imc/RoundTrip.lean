import AnchorNode.Imc.Tp

/-! A message that is cut into frames by one MCU and put together by the other. The frames
are described by `packets`; one half shows that the sender queues them, the other what the
receiver makes of them. -/

namespace AnchorNode.Imc

open AnchorNode.Lib

section Frames
variable (cfg : Config)

def packet (sequence : UInt8) (rest : List UInt8) : List UInt8 :=
  (packetHeader sequence rest.length ++
    rest.take (bytesThisPacket cfg sequence rest.length)).take
      (u16 ((packetHeader sequence rest.length).length +
        bytesThisPacket cfg sequence rest.length))

def packets : Nat → UInt8 → List UInt8 → List (List UInt8)
  | 0, _, _ => []
  | n + 1, sequence, rest =>
    if rest = [] then []
    else packet cfg sequence rest ::
      packets n (sequence + 1) (rest.drop (bytesThisPacket cfg sequence rest.length))

end Frames

theorem packets_nil (cfg : Config) (fuel : Nat) (number : UInt8) :
    packets cfg fuel number [] = [] := by
  cases fuel <;> simp [packets]

variable {cfg : Config} {env : Env} {s t : State} {ch : Nat} {payload rest : List UInt8}
  {sequence : UInt8}

section Sender

def given (ch : Nat) (log : List Event) : Nat :=
  log.foldl (fun n e => match e with
    | .transmit c _ => if c = ch then 0 else n
    | .copyTxData c _ bytes result => if c = ch ∧ result = .ok then n + bytes.length else n
    | _ => n) 0

def queuedFrames (ch : Nat) (log : List Event) : List (List UInt8) :=
  log.filterMap fun e => match e with
    | .queueAdd c _ frame => if c = ch then some frame else none
    | _ => none

/-- The link has buffers, and the upper layer gives the bytes of `payload` in order. -/
structure Supplies (env : Env) (ch : Nat) (payload : List UInt8) : Prop where
  buffer : ∀ log, env.getBuffer log ch = true
  data : ∀ log n, env.copyTxData log ch n = (.ok, fun k => payload.getD (given ch log + k) 0)

structure Sending (s : State) (ch : Nat) (payload : List UInt8) (sequence : UInt8)
    (rest : List UInt8) : Prop where
  remains : rest = payload.drop (given ch s.log)
  bytesRemaining : (s.txInfo ch).bytesRemaining = rest.length
  sequence : (s.txInfo ch).sequence = sequence
  small : rest.length ≤ 65535

theorem read_payload (payload : List UInt8) (offset count : Nat)
    (inside : count ≤ (payload.drop offset).length) :
    Mem.read (fun k => payload.getD (offset + k) 0) 0 count = (payload.drop offset).take count := by
  rw [List.length_drop] at inside
  apply List.ext_getElem
  · simp
    omega
  · intro k short _
    rw [read_length] at short
    have bound : offset + k < payload.length := by omega
    simp [Mem.read, List.getD_eq_getElem?_getD, List.getElem?_eq_getElem bound]

theorem bytesThisPacket_le (cfg : Config) (sequence : UInt8) (n : Nat) :
    bytesThisPacket cfg sequence n ≤ n := Nat.min_le_right _ _

theorem cyclicChannel_sends (cfg : Config) (supplies : Supplies env ch payload)
    (sending : Sending s ch payload sequence rest) (more : rest ≠ []) :
    Sending (cyclicChannel cfg env s ch) ch payload (sequence + 1)
        (rest.drop (bytesThisPacket cfg sequence rest.length)) ∧
      queuedFrames ch (cyclicChannel cfg env s ch).log =
        queuedFrames ch s.log ++ [packet cfg sequence rest] := by
  have positive : 0 < rest.length := List.length_pos_iff.mpr more
  have inside := bytesThisPacket_le cfg sequence rest.length
  have small := sending.small
  have exact16 : u16 (bytesThisPacket cfg sequence rest.length) =
      bytesThisPacket cfg sequence rest.length := Nat.mod_eq_of_lt (by omega)
  have data : Mem.read (fun k => payload.getD (given ch s.log + k) 0) 0
      (bytesThisPacket cfg sequence rest.length) =
        rest.take (bytesThisPacket cfg sequence rest.length) := by
    rw [read_payload payload _ _ (by rw [← sending.remains]; exact inside), ← sending.remains]
  have acts : cyclicChannel cfg env s ch =
      (((s.emit (.copyTxData ch (cfg.msgCfg ch).upperTxToPduR
          (rest.take (bytesThisPacket cfg sequence rest.length)) .ok)).setTx ch
        { s.txInfo ch with
          sequence := sequence + 1
          bytesRemaining := rest.length - bytesThisPacket cfg sequence rest.length
          numPktsPending := (s.txInfo ch).numPktsPending + 1 }).emit
        (.queueAdd ch (cfg.msgCfg ch).imcPduId (packet cfg sequence rest))) := by
    unfold cyclicChannel packet
    simp only [sending.bytesRemaining, sending.sequence, supplies.buffer, supplies.data, exact16,
      data]
    rw [if_pos ⟨positive, trivial⟩, if_pos trivial]
  rw [acts]
  constructor
  · constructor
    · have total : given ch s.log + bytesThisPacket cfg sequence rest.length =
          given ch (s.log ++ [.copyTxData ch (cfg.msgCfg ch).upperTxToPduR
              (rest.take (bytesThisPacket cfg sequence rest.length)) .ok] ++
            [.queueAdd ch (cfg.msgCfg ch).imcPduId (packet cfg sequence rest)]) := by
        simp [given, inside]
      simp only [State.emit_log, State.setTx_log, ← total]
      rw [← List.drop_drop, ← sending.remains]
    · simp
    · simp
    · rw [List.length_drop]
      omega
  · simp [queuedFrames]

theorem cyclicChannel_done (sending : Sending s ch payload sequence []) :
    cyclicChannel cfg env s ch = s := by
  have nothing : (s.txInfo ch).bytesRemaining = 0 := sending.bytesRemaining
  simp [cyclicChannel, nothing]

theorem cyclicChannel_other (cfg : Config) (env : Env) {c : Nat} (other : c ≠ ch)
    (sending : Sending s ch payload sequence rest) :
    Sending (cyclicChannel cfg env s c) ch payload sequence rest ∧
      queuedFrames ch (cyclicChannel cfg env s c).log = queuedFrames ch s.log := by
  have unseen : ∀ t : State, t.txInfo ch = s.txInfo ch → given ch t.log = given ch s.log →
      queuedFrames ch t.log = queuedFrames ch s.log →
      Sending t ch payload sequence rest ∧ queuedFrames ch t.log = queuedFrames ch s.log := by
    intro t info same frames
    refine ⟨⟨?_, ?_, ?_, sending.small⟩, frames⟩
    · rw [same]
      exact sending.remains
    · rw [info]
      exact sending.bytesRemaining
    · rw [info]
      exact sending.sequence
  unfold cyclicChannel
  simp only
  split
  · split
    · apply unseen
      · simp [Function.update_of_ne (Ne.symm other)]
      · simp [given, other]
      · simp [queuedFrames, other]
    · apply unseen
      · rfl
      · simp [given, other]
      · simp [queuedFrames]
  · exact unseen s rfl rfl rfl

theorem channels_other (cfg : Config) (env : Env) {channels : List Nat} (elsewhere : ch ∉ channels)
    (sending : Sending s ch payload sequence rest) :
    Sending (channels.foldl (cyclicChannel cfg env) s) ch payload sequence rest ∧
      queuedFrames ch (channels.foldl (cyclicChannel cfg env) s).log = queuedFrames ch s.log := by
  induction channels generalizing s with
  | nil => exact ⟨sending, rfl⟩
  | cons c channels ih =>
      simp only [List.mem_cons, not_or] at elsewhere
      have first := cyclicChannel_other cfg env (Ne.symm elsewhere.1) sending
      have later := ih elsewhere.2 first.1
      exact ⟨later.1, later.2.trans first.2⟩

theorem tpCyclic_sends (bound : ch < cfg.numMsg) (supplies : Supplies env ch payload)
    (sending : Sending s ch payload sequence rest) :
    ∃ sequence', Sending (tpCyclic cfg env s) ch payload sequence'
        (rest.drop (bytesThisPacket cfg sequence rest.length)) ∧
      (rest ≠ [] → sequence' = sequence + 1) ∧
      queuedFrames ch (tpCyclic cfg env s).log = queuedFrames ch s.log ++
        if rest = [] then [] else [packet cfg sequence rest] := by
  obtain ⟨before, after, order⟩ := List.append_of_mem (List.mem_range.mpr bound)
  have distinct : (before ++ ch :: after).Nodup := order ▸ List.nodup_range
  have early : ch ∉ before := fun member =>
    (List.nodup_append.mp distinct).2.2 ch member ch (by simp) rfl
  have late : ch ∉ after := (List.nodup_cons.mp (List.nodup_append.mp distinct).2.1).1
  have first := channels_other cfg env early sending
  unfold tpCyclic
  rw [order, List.foldl_append, List.foldl_cons]
  by_cases done : rest = []
  · subst done
    rw [cyclicChannel_done first.1]
    have last := channels_other cfg env late first.1
    refine ⟨sequence, by simpa using last.1, by simp, ?_⟩
    rw [if_pos rfl, List.append_nil, last.2, first.2]
  · have here := cyclicChannel_sends cfg supplies first.1 done
    have last := channels_other cfg env late here.1
    refine ⟨sequence + 1, last.1, fun _ => rfl, ?_⟩
    rw [if_neg done, last.2, here.2, first.2]

theorem cycles_send (bound : ch < cfg.numMsg) (supplies : Supplies env ch payload) (calls : Nat)
    (sending : Sending s ch payload sequence rest) :
    queuedFrames ch ((tpCyclic cfg env)^[calls] s).log =
      queuedFrames ch s.log ++ packets cfg calls sequence rest := by
  induction calls generalizing s sequence rest with
  | zero => simp [packets]
  | succ calls ih =>
      obtain ⟨sequence', next, number, queued⟩ := tpCyclic_sends bound supplies sending
      rw [Function.iterate_succ_apply, ih next, queued, List.append_assoc]
      by_cases done : rest = []
      · subst done
        cases calls <;> simp [packets]
      · rw [number done]
        simp [packets, done]

theorem transmit_sending {txPduId : Nat} (found : tpFindByPdurTxId cfg txPduId = some ch)
    (small : payload.length ≤ 65535) :
    Sending (transmit cfg txPduId (some payload.length) s).1 ch payload 0 payload := by
  simp only [transmit, found]
  constructor
  · simp [given]
  · simpa [u16] using Nat.lt_succ_of_le small
  · simp
  · exact small

end Sender

section Receiver

def starts (ch : Nat) (log : List Event) : List Nat :=
  log.filterMap fun e => match e with
    | .startOfReception c _ length _ => if c = ch then some length else none
    | _ => none

def copied (ch : Nat) (log : List Event) : List UInt8 :=
  log.flatMap fun e => match e with
    | .copyRxData c _ bytes _ => if c = ch then bytes else []
    | _ => []

def indications (ch : Nat) (log : List Event) : List StdReturn :=
  log.filterMap fun e => match e with
    | .rxIndication c _ result => if c = ch then some result else none
    | _ => none

/-- The upper layer takes everything. -/
structure Accepts (env : Env) (ch : Nat) : Prop where
  start : ∀ log length, env.startOfReception log ch length = .ok
  copy : ∀ log bytes, env.copyRxData log ch bytes = .ok

def receive (cfg : Config) (env : Env) (msgId : Nat) (frames : List (List UInt8)) (s : State) :
    State :=
  frames.foldl (fun s frame => tpRxIndication cfg env msgId (some frame) s) s

/-- One reception of the payload has been started, copied and ended well. -/
def Reassembled (ch : Nat) (payload : List UInt8) (before after : List Event) : Prop :=
  starts ch after = starts ch before ++ [payload.length] ∧
    copied ch after = copied ch before ++ payload ∧
    indications ch after = indications ch before ++ [.ok]

structure Took (ch : Nat) (s t : State) (number : UInt8) (bytes rest : List UInt8) : Prop where
  copied : copied ch t.log = copied ch s.log ++ bytes
  last : rest = [] → indications ch t.log = indications ch s.log ++ [.ok]
  more : rest ≠ [] → indications ch t.log = indications ch s.log ∧
    t.rxInfo ch = ⟨rest.length, true, number⟩

theorem consecutive_header (sequence : UInt8) :
    ((sequence &&& 0x0F) ||| 0x20) &&& 0x0F = sequence &&& 0x0F ∧
      (sequence &&& 0x0F) ||| 0x20 ≠ 0 := by
  have all : ∀ n < 256, ((UInt8.ofNat n &&& 0x0F) ||| 0x20) &&& 0x0F = UInt8.ofNat n &&& 0x0F ∧
      (UInt8.ofNat n &&& 0x0F) ||| 0x20 ≠ 0 := by decide +kernel
  have this := all sequence.toNat sequence.toNat_lt
  rwa [UInt8.ofNat_toNat] at this

theorem packet_consecutive (cfg : Config) (later : sequence ≠ 0) (small : rest.length < 65535) :
    packet cfg sequence rest = ((sequence &&& 0x0F) ||| 0x20) ::
      rest.take (bytesThisPacket cfg sequence rest.length) := by
  have inside := bytesThisPacket_le cfg sequence rest.length
  have fits : u16 (1 + bytesThisPacket cfg sequence rest.length) =
      bytesThisPacket cfg sequence rest.length + 1 := by
    unfold u16
    omega
  simp [packet, packetHeader, later, fits]

theorem packet_first (cfg : Config) (fits : 3 + bytesThisPacket cfg 0 rest.length < 65536) :
    packet cfg 0 rest = 0 :: UInt8.ofNat (rest.length / 256) :: UInt8.ofNat (rest.length % 256) ::
      rest.take (bytesThisPacket cfg 0 rest.length) := by
  have whole : u16 (3 + bytesThisPacket cfg 0 rest.length) =
      bytesThisPacket cfg 0 rest.length + 3 := by
    unfold u16
    omega
  simp [packet, packetHeader, whole]

theorem endTransfer_took {u : State} {number : UInt8} {bytes : List UInt8} {begun : List Nat}
    (cfg : Config) (info : u.rxInfo ch = ⟨rest.length, true, number⟩)
    (brought : copied ch u.log = copied ch s.log ++ bytes)
    (quiet : indications ch u.log = indications ch s.log) (started : starts ch u.log = begun) :
    Took ch s (endTransfer cfg ch u) number bytes rest ∧
      starts ch (endTransfer cfg ch u).log = begun := by
  by_cases done : rest = []
  · have ends : endTransfer cfg ch u = (u.setRx ch { u.rxInfo ch with
        active := false, sequence := 0 }).emit
          (.rxIndication ch (cfg.msgCfg ch).upperRxPduId .ok) := by
      simp [endTransfer, info, done]
    rw [ends]
    constructor
    · constructor
      · simpa [copied] using brought
      · intro _
        rw [← quiet]
        simp [indications]
      · exact fun more => absurd done more
    · rw [← started]
      simp [starts]
  · have stays : endTransfer cfg ch u = u := by simp [endTransfer, info, done]
    rw [stays]
    exact ⟨⟨brought, fun none => absurd none done, fun _ => ⟨quiet, info⟩⟩, started⟩

theorem consecutive_took {msgId : Nat} (cfg' : Config)
    (found : tpFindByImcId cfg msgId = some ch)
    (accepts : Accepts env ch) (later : sequence ≠ 0) (small : rest.length < 65535)
    (expected : s.rxInfo ch = ⟨rest.length, true, sequence⟩) :
    Took ch s (tpRxIndication cfg env msgId (some (packet cfg' sequence rest)) s) (sequence + 1)
        (rest.take (bytesThisPacket cfg' sequence rest.length))
        (rest.drop (bytesThisPacket cfg' sequence rest.length)) ∧
      starts ch (tpRxIndication cfg env msgId (some (packet cfg' sequence rest)) s).log =
        starts ch s.log := by
  have inside := bytesThisPacket_le cfg' sequence rest.length
  have count : u16 (bytesThisPacket cfg' sequence rest.length) =
      bytesThisPacket cfg' sequence rest.length := Nat.mod_eq_of_lt (by omega)
  have header := consecutive_header sequence
  have acts : tpRxIndication cfg env msgId (some (packet cfg' sequence rest)) s =
      endTransfer cfg ch ((s.emit (.copyRxData ch (cfg.msgCfg ch).upperRxPduId
        (rest.take (bytesThisPacket cfg' sequence rest.length)) .ok)).setRx ch
          ⟨(rest.drop (bytesThisPacket cfg' sequence rest.length)).length, true,
            sequence + 1⟩) := by
    rw [packet_consecutive cfg' later small]
    simp [tpRxIndication, found, tooShort, processFrame, tpRxConsecutiveFrame, header, expected,
      Nat.min_eq_left inside, count, Nat.not_lt.mpr inside, accepts.copy, List.take_take]
  rw [acts]
  apply endTransfer_took cfg
  · simp
  · simp [copied]
  · simp [indications]
  · simp [starts]

theorem first_took {msgId : Nat} (cfg' : Config) (found : tpFindByImcId cfg msgId = some ch)
    (accepts : Accepts env ch) (small : rest.length < 65536)
    (fits : 3 + bytesThisPacket cfg' 0 rest.length < 65536) :
    Took ch s (tpRxIndication cfg env msgId (some (packet cfg' 0 rest)) s) 1
        (rest.take (bytesThisPacket cfg' 0 rest.length))
        (rest.drop (bytesThisPacket cfg' 0 rest.length)) ∧
      starts ch (tpRxIndication cfg env msgId (some (packet cfg' 0 rest)) s).log =
        starts ch s.log ++ [rest.length] := by
  have inside := bytesThisPacket_le cfg' 0 rest.length
  have count : u16 (bytesThisPacket cfg' 0 rest.length) =
      bytesThisPacket cfg' 0 rest.length := Nat.mod_eq_of_lt (by omega)
  have total : totalMsgLen (packet cfg' 0 rest) = rest.length := by
    rw [packet_first cfg' fits]
    simp [totalMsgLen]
    omega
  have acts : tpRxIndication cfg env msgId (some (packet cfg' 0 rest)) s =
      endTransfer cfg ch (((s.emit (.startOfReception ch (cfg.msgCfg ch).upperRxPduId
        rest.length .ok)).emit (.copyRxData ch (cfg.msgCfg ch).upperRxPduId
        (rest.take (bytesThisPacket cfg' 0 rest.length)) .ok)).setRx ch
          ⟨(rest.drop (bytesThisPacket cfg' 0 rest.length)).length, true, 1⟩) := by
    rw [packet_first cfg' fits] at total ⊢
    simp [tpRxIndication, found, tooShort, processFrame, tpRxFirstFrame, total,
      Nat.min_eq_left inside, count, Nat.not_lt.mpr inside, accepts.start, accepts.copy,
      List.take_take]
  rw [acts]
  apply endTransfer_took cfg
  · simp
  · simp [copied]
  · simp [indications]
  · simp [starts]

theorem tpReportRxError_starts (cfg : Config) (ch c id : Nat) (error : ErrorId) (s : State) :
    starts ch (tpReportRxError cfg c id error s).log = starts ch s.log := by
  unfold tpReportRxError
  simp only
  split <;> simp [starts]

theorem endTransfer_starts (cfg : Config) (ch c : Nat) (s : State) :
    starts ch (endTransfer cfg c s).log = starts ch s.log := by
  unfold endTransfer
  split <;> simp [starts]

theorem consecutiveFrame_starts (cfg : Config) (env : Env) (ch c : Nat) (frame : List UInt8)
    (s : State) : starts ch (tpRxConsecutiveFrame cfg env c frame s).log = starts ch s.log := by
  unfold tpRxConsecutiveFrame
  simp only
  split
  · exact tpReportRxError_starts cfg ch c _ _ s
  · split
    · exact tpReportRxError_starts cfg ch c _ _ s
    · split
      · simp [starts]
      · rw [tpReportRxError_starts]
        simp [starts]

theorem emit_starts (ch : Nat) (s : State) (e : Event) :
    starts ch s.log <+: starts ch (s.emit e).log := by
  rw [State.emit_log, starts, starts, List.filterMap_append]
  exact List.prefix_append _ _

theorem firstFrame_starts (cfg : Config) (env : Env) (ch c : Nat) (frame : List UInt8)
    (s : State) : starts ch s.log <+: starts ch (tpRxFirstFrame cfg env c frame s).log := by
  unfold tpRxFirstFrame
  simp only
  split
  · rw [tpReportRxError_starts]
  · split
    · split
      · exact (emit_starts ch s _).trans (emit_starts ch _ _)
      · exact (emit_starts ch s _).trans (emit_starts ch _ _)
    · exact emit_starts ch s _

theorem frame_starts {frame : List UInt8} (cfg : Config) (env : Env) (msgId ch : Nat) (s : State)
    (other : tooShort frame = true ∨ frame.getD 0 0 ≠ 0) :
    starts ch (tpRxIndication cfg env msgId (some frame) s).log = starts ch s.log := by
  unfold tpRxIndication
  split
  · simp [starts]
  · simp [starts]
  · rename_i c _ _ same
    have same := Option.some.inj same
    subst same
    split
    · exact tpReportRxError_starts cfg ch c _ _ s
    · rename_i long
      have later := other.resolve_left long
      rw [processFrame, endTransfer_starts, if_neg later]
      exact consecutiveFrame_starts cfg env ch c frame s

theorem receive_starts (cfg : Config) (env : Env) (msgId ch : Nat) (frames : List (List UInt8))
    (s : State) : starts ch s.log <+: starts ch (receive cfg env msgId frames s).log := by
  induction frames generalizing s with
  | nil => exact List.prefix_refl _
  | cons frame frames ih =>
      have one : starts ch s.log <+:
          starts ch (tpRxIndication cfg env msgId (some frame) s).log := by
        unfold tpRxIndication
        split
        · simp [starts]
        · simp [starts]
        · rename_i c given _ _
          split
          · rw [tpReportRxError_starts]
          · rw [processFrame, endTransfer_starts]
            split
            · exact firstFrame_starts cfg env ch c _ s
            · rw [consecutiveFrame_starts]
      exact one.trans (ih _)

end Receiver

section Agreement
variable {msgId : Nat}

theorem bytesThisPacket_later (cfg : Config) (later : sequence ≠ 0) (n : Nat) :
    bytesThisPacket cfg sequence n = min (cfg.msgMaxLen - 1) n := by
  simp [bytesThisPacket, packetHeader, later]

theorem bytesThisPacket_first (cfg : Config) (n : Nat) :
    bytesThisPacket cfg 0 n = min (cfg.msgMaxLen - 3) n := by
  simp [bytesThisPacket, packetHeader]

theorem sequence_succ (below : sequence.toNat + 1 < 256) :
    (sequence + 1).toNat = sequence.toNat + 1 ∧ sequence + 1 ≠ 0 := by
  have value : (sequence + 1).toNat = sequence.toNat + 1 := by
    rw [UInt8.toNat_add]
    exact Nat.mod_eq_of_lt below
  refine ⟨value, ?_⟩
  intro zero
  rw [zero] at value
  simp at value

/-- As long as the sequence number does not run out, the rest of the message arrives and the
reception is ended. -/
theorem rest_arrives (cfg' : Config) (large : 2 ≤ cfg'.msgMaxLen)
    (found : tpFindByImcId cfg msgId = some ch) (accepts : Accepts env ch) (fuel : Nat)
    (later : sequence ≠ 0) (more : rest ≠ []) (small : rest.length < 65535)
    (enough : rest.length ≤ fuel)
    (numbers : rest.length ≤ (256 - sequence.toNat) * (cfg'.msgMaxLen - 1))
    (expected : s.rxInfo ch = ⟨rest.length, true, sequence⟩) :
    starts ch (receive cfg env msgId (packets cfg' fuel sequence rest) s).log = starts ch s.log ∧
      copied ch (receive cfg env msgId (packets cfg' fuel sequence rest) s).log =
        copied ch s.log ++ rest ∧
      indications ch (receive cfg env msgId (packets cfg' fuel sequence rest) s).log =
        indications ch s.log ++ [.ok] := by
  induction fuel generalizing s sequence rest with
  | zero => exact absurd (List.length_eq_zero_iff.mp (Nat.le_zero.mp enough)) more
  | succ fuel ih =>
      obtain ⟨took, none⟩ := consecutive_took cfg' found accepts later small expected
      have count := bytesThisPacket_later cfg' later rest.length
      have positive : 0 < rest.length := List.length_pos_iff.mpr more
      have unfolded : packets cfg' (fuel + 1) sequence rest = packet cfg' sequence rest ::
          packets cfg' fuel (sequence + 1)
            (rest.drop (bytesThisPacket cfg' sequence rest.length)) := by
        simp [packets, more]
      rw [unfolded, receive, List.foldl_cons]
      by_cases done : rest.drop (bytesThisPacket cfg' sequence rest.length) = []
      · rw [done, packets_nil, List.foldl_nil]
        have whole : rest.take (bytesThisPacket cfg' sequence rest.length) = rest := by
          rw [List.drop_eq_nil_iff] at done
          exact List.take_of_length_le done
        refine ⟨none, ?_, took.last done⟩
        rw [took.copied, whole]
      · obtain ⟨quiet, next⟩ := took.more done
        have left : 0 < (rest.drop (bytesThisPacket cfg' sequence rest.length)).length :=
          List.length_pos_iff.mpr done
        rw [List.length_drop] at left
        have full : bytesThisPacket cfg' sequence rest.length = cfg'.msgMaxLen - 1 := by omega
        -- what is still to come needs another number, so this one is not the last
        have room : sequence.toNat + 1 < 256 := by
          by_contra last
          have one : 256 - sequence.toNat ≤ 1 := by omega
          have few := Nat.mul_le_mul_right (cfg'.msgMaxLen - 1) one
          omega
        obtain ⟨value, nonzero⟩ := sequence_succ room
        have shorter : (rest.drop (bytesThisPacket cfg' sequence rest.length)).length ≤
            (256 - (sequence + 1).toNat) * (cfg'.msgMaxLen - 1) := by
          rw [List.length_drop, full, value]
          have split : 256 - sequence.toNat = (256 - (sequence.toNat + 1)) + 1 := by omega
          rw [split, Nat.succ_mul] at numbers
          omega
        have rest' := ih nonzero done (by rw [List.length_drop]; omega)
          (by rw [List.length_drop]; omega) shorter next
        refine ⟨rest'.1.trans none, ?_, ?_⟩
        · refine rest'.2.1.trans ?_
          rw [took.copied, List.append_assoc, List.take_append_drop]
        · refine rest'.2.2.trans ?_
          rw [quiet]

/-- When the sequence number runs out, the sender makes a first frame in the middle of the
message, and the receiver starts again. -/
theorem rest_restarts (cfg' : Config) (large : 4 ≤ cfg'.msgMaxLen)
    (found : tpFindByImcId cfg msgId = some ch) (accepts : Accepts env ch) (fuel : Nat)
    (later : sequence ≠ 0) (small : rest.length < 65535) (enough : rest.length ≤ fuel)
    (numbers : (256 - sequence.toNat) * (cfg'.msgMaxLen - 1) < rest.length)
    (expected : s.rxInfo ch = ⟨rest.length, true, sequence⟩) :
    ∃ n, starts ch s.log ++ [n] <+:
      starts ch (receive cfg env msgId (packets cfg' fuel sequence rest) s).log := by
  have unfolded : ∀ (fuel : Nat) (number : UInt8) (left : List UInt8), left ≠ [] →
      packets cfg' (fuel + 1) number left = packet cfg' number left ::
        packets cfg' fuel (number + 1) (left.drop (bytesThisPacket cfg' number left.length)) := by
    intro fuel number left more
    simp [packets, more]
  induction fuel generalizing s sequence rest with
  | zero => omega
  | succ fuel ih =>
      have more : rest ≠ [] := List.length_pos_iff.mp (by omega)
      obtain ⟨took, none⟩ := consecutive_took cfg' found accepts later (by omega) expected
      have range : 1 ≤ 256 - sequence.toNat := by
        have := sequence.toNat_lt
        omega
      have some' := Nat.mul_le_mul_right (cfg'.msgMaxLen - 1) range
      have count : bytesThisPacket cfg' sequence rest.length = cfg'.msgMaxLen - 1 := by
        rw [bytesThisPacket_later cfg' later]
        omega
      have left : (rest.drop (bytesThisPacket cfg' sequence rest.length)).length =
          rest.length - (cfg'.msgMaxLen - 1) := by rw [List.length_drop, count]
      have undone : rest.drop (bytesThisPacket cfg' sequence rest.length) ≠ [] :=
        List.length_pos_iff.mp (by omega)
      rw [unfolded fuel sequence rest more, receive, List.foldl_cons, ← none]
      by_cases last : sequence.toNat + 1 < 256
      · obtain ⟨value, nonzero⟩ := sequence_succ last
        apply ih nonzero (by omega) (by omega) _ (took.more undone).2
        rw [left, value]
        have split : 256 - sequence.toNat = (256 - (sequence.toNat + 1)) + 1 := by omega
        rw [split, Nat.succ_mul] at numbers
        omega
      · -- the number after 255 is that of a first frame
        have wraps : sequence + 1 = 0 := by
          apply UInt8.toNat_inj.mp
          rw [UInt8.toNat_add]
          have := sequence.toNat_lt
          simp
          omega
        cases fuel with
        | zero => omega
        | succ fuel =>
            rw [wraps, unfolded fuel 0 _ undone, List.foldl_cons]
            have short : 3 + bytesThisPacket cfg' 0
                (rest.drop (bytesThisPacket cfg' sequence rest.length)).length < 65536 := by
              rw [bytesThisPacket_first]
              omega
            have again := (first_took (s := tpRxIndication cfg env msgId
              (some (packet cfg' sequence rest)) s) cfg' found accepts (by omega) short).2
            refine ⟨(rest.drop (bytesThisPacket cfg' sequence rest.length)).length, ?_⟩
            rw [← again]
            exact receive_starts cfg env msgId ch _ _

theorem message_arrives (cfg' : Config) (large : 4 ≤ cfg'.msgMaxLen)
    (found : tpFindByImcId cfg msgId = some ch) (accepts : Accepts env ch) {calls : Nat}
    (some' : 1 ≤ payload.length) (small : payload.length ≤ 65535)
    (enough : payload.length ≤ calls)
    (numbers : payload.length ≤ (cfg'.msgMaxLen - 3) + 255 * (cfg'.msgMaxLen - 1))
    (fits : 3 + min payload.length (cfg'.msgMaxLen - 3) < 65536) (s : State) :
    Reassembled ch payload s.log
      (receive cfg env msgId (packets cfg' calls 0 payload) s).log := by
  have more : payload ≠ [] := List.length_pos_iff.mp some'
  have count := bytesThisPacket_first cfg' payload.length
  obtain ⟨took, started⟩ := first_took (s := s) cfg' found accepts (by omega)
    (by rw [count]; omega : 3 + bytesThisPacket cfg' 0 payload.length < 65536)
  cases calls with
  | zero => omega
  | succ calls =>
      have unfolded : packets cfg' (calls + 1) 0 payload = packet cfg' 0 payload ::
          packets cfg' calls 1 (payload.drop (bytesThisPacket cfg' 0 payload.length)) := by
        simp [packets, more]
      rw [unfolded, receive, List.foldl_cons]
      by_cases done : payload.drop (bytesThisPacket cfg' 0 payload.length) = []
      · have whole : payload.take (bytesThisPacket cfg' 0 payload.length) = payload := by
          rw [List.drop_eq_nil_iff] at done
          exact List.take_of_length_le done
        rw [done, packets_nil, List.foldl_nil]
        exact ⟨started, by rw [took.copied, whole], took.last done⟩
      · obtain ⟨quiet, next⟩ := took.more done
        have left := List.length_drop (i := bytesThisPacket cfg' 0 payload.length) (l := payload)
        obtain ⟨same, bytes, ended⟩ := rest_arrives cfg' (by omega) found accepts calls
          (by decide) done (by omega) (by omega)
          (by rw [left, show (1 : UInt8).toNat = 1 from rfl]; omega) next
        refine ⟨same.trans started, ?_, ended.trans (by rw [quiet])⟩
        refine bytes.trans ?_
        rw [took.copied, List.append_assoc, List.take_append_drop]

theorem long_message_restarts (cfg' : Config) (large : 4 ≤ cfg'.msgMaxLen)
    (found : tpFindByImcId cfg msgId = some ch) (accepts : Accepts env ch) {calls : Nat}
    (small : payload.length ≤ 65535) (enough : payload.length ≤ calls)
    (long : (cfg'.msgMaxLen - 3) + 255 * (cfg'.msgMaxLen - 1) < payload.length) (s : State) :
    ¬ Reassembled ch payload s.log
      (receive cfg env msgId (packets cfg' calls 0 payload) s).log := by
  intro reassembled
  have more : payload ≠ [] := List.length_pos_iff.mp (by omega)
  have count : bytesThisPacket cfg' 0 payload.length = cfg'.msgMaxLen - 3 := by
    rw [bytesThisPacket_first]
    omega
  obtain ⟨took, started⟩ := first_took (s := s) cfg' found accepts (by omega)
    (by omega : 3 + bytesThisPacket cfg' 0 payload.length < 65536)
  have left := List.length_drop (i := bytesThisPacket cfg' 0 payload.length) (l := payload)
  cases calls with
  | zero => omega
  | succ calls =>
      have unfolded : packets cfg' (calls + 1) 0 payload = packet cfg' 0 payload ::
          packets cfg' calls 1 (payload.drop (bytesThisPacket cfg' 0 payload.length)) := by
        simp [packets, more]
      have undone : payload.drop (bytesThisPacket cfg' 0 payload.length) ≠ [] :=
        List.length_pos_iff.mp (by omega)
      obtain ⟨n, again⟩ := rest_restarts cfg' large found accepts calls (by decide)
        (by omega) (by omega) (by rw [left, show (1 : UInt8).toNat = 1 from rfl]; omega)
        (took.more undone).2
      have one := reassembled.1
      rw [unfolded, receive, List.foldl_cons] at one
      have lengths := again.length_le
      rw [started] at lengths
      have total := congrArg List.length one
      simp only [receive, List.length_append, List.length_singleton] at lengths total
      omega

theorem last_frame_starts (cfg cfg' : Config) (env : Env) (msgId ch fuel : Nat)
    (later : sequence ≠ 0) (small : rest.length < 65535)
    (last : rest.length ≤ cfg'.msgMaxLen - 1) (s : State) :
    starts ch (receive cfg env msgId (packets cfg' fuel sequence rest) s).log =
      starts ch s.log := by
  cases fuel with
  | zero => rfl
  | succ fuel =>
      by_cases done : rest = []
      · rw [done, packets_nil]
        rfl
      · have whole : rest.drop (bytesThisPacket cfg' sequence rest.length) = [] := by
          rw [bytesThisPacket_later cfg' later, List.drop_eq_nil_iff]
          omega
        have one : packets cfg' (fuel + 1) sequence rest = [packet cfg' sequence rest] := by
          simp [packets, done, whole, packets_nil]
        rw [one, receive, List.foldl_cons, List.foldl_nil]
        apply frame_starts
        right
        rw [packet_consecutive cfg' later small]
        exact (consecutive_header sequence).2

/-- A first frame whose length does not fit into sixteen bits arrives with less than its
header. -/
theorem overlong_packet_short (cfg : Config) (small : payload.length ≤ 65535)
    (long : 65536 ≤ 3 + bytesThisPacket cfg 0 payload.length) :
    tooShort (packet cfg 0 payload) = true := by
  have inside := bytesThisPacket_le cfg 0 payload.length
  have header : (packetHeader 0 payload.length).length = 3 := by simp [packetHeader]
  have few : u16 ((packetHeader 0 payload.length).length +
      bytesThisPacket cfg 0 payload.length) < 3 := by
    rw [header, u16]
    omega
  have length : (packet cfg 0 payload).length < 3 := by
    rw [packet, List.length_take]
    omega
  have zero : (packet cfg 0 payload).getD 0 0 = 0 := by
    rw [packet, packetHeader, if_pos rfl, List.getD_eq_getElem?_getD, List.getElem?_take]
    split <;> rfl
  simp only [tooShort, zero, length, beq_self_eq_true, decide_true, Bool.and_self, Bool.or_true]

theorem overlong_frame_lost (cfg cfg' : Config) (env : Env) (msgId ch calls : Nat)
    (small : payload.length ≤ 65535)
    (long : 65536 ≤ 3 + min payload.length (cfg'.msgMaxLen - 3)) (s : State) :
    ¬ Reassembled ch payload s.log
      (receive cfg env msgId (packets cfg' calls 0 payload) s).log := by
  intro reassembled
  have count := bytesThisPacket_first cfg' payload.length
  have more : payload ≠ [] := List.length_pos_iff.mp (by omega)
  have none : starts ch (receive cfg env msgId (packets cfg' calls 0 payload) s).log =
      starts ch s.log := by
    cases calls with
    | zero => rfl
    | succ calls =>
        have unfolded : packets cfg' (calls + 1) 0 payload = packet cfg' 0 payload ::
            packets cfg' calls 1 (payload.drop (bytesThisPacket cfg' 0 payload.length)) := by
          simp [packets, more]
        have left := List.length_drop (i := bytesThisPacket cfg' 0 payload.length) (l := payload)
        have lost := overlong_packet_short cfg' small (by omega)
        rw [unfolded]
        calc
          _ = starts ch (tpRxIndication cfg env msgId (some (packet cfg' 0 payload)) s).log :=
            last_frame_starts cfg cfg' env msgId ch calls (by decide) (by omega) (by omega) _
          _ = starts ch s.log := frame_starts cfg env msgId ch s (Or.inl lost)
  have one := congrArg List.length (none.symm.trans reassembled.1)
  simp at one

end Agreement

def sentFrames (cfg : Config) (env : Env) (txPduId length ch calls : Nat) (s : State) :
    List (List UInt8) :=
  let s := (transmit cfg txPduId (some length) s).1
  (queuedFrames ch ((tpCyclic cfg env)^[calls] s).log).drop (queuedFrames ch s.log).length

theorem sentFrames_packets {txPduId : Nat} (sender : tpFindByPdurTxId cfg txPduId = some ch)
    (supplies : Supplies env ch payload) (small : payload.length ≤ 65535) (calls : Nat)
    (s : State) :
    sentFrames cfg env txPduId payload.length ch calls s = packets cfg calls 0 payload := by
  have bound : ch < cfg.numMsg := List.mem_range.mp (List.mem_of_find?_eq_some sender)
  have sent := cycles_send bound supplies calls (transmit_sending (s := s) sender small)
  simp only [sentFrames, sent, List.drop_left]

/-- The frames queued for a message by enough cycles are put together to the message by the
peer exactly if there are no more than 256 of them, so that the sequence number does not
start again, and the length of the first fits into sixteen bits. -/
theorem framing_inverse_iff (cfg cfg' : Config) (env env' : Env) (s r : State)
    (txPduId ch ch' calls : Nat) (payload : List UInt8) (large : 4 ≤ cfg.msgMaxLen)
    (some' : 1 ≤ payload.length) (small : payload.length ≤ 65535)
    (sender : tpFindByPdurTxId cfg txPduId = some ch)
    (receiver : tpFindByImcId cfg' (cfg.msgCfg ch).imcPduId = some ch')
    (supplies : Supplies env ch payload) (accepts : Accepts env' ch')
    (enough : payload.length ≤ calls) :
    Reassembled ch' payload r.log (receive cfg' env' (cfg.msgCfg ch).imcPduId
        (sentFrames cfg env txPduId payload.length ch calls s) r).log ↔
      payload.length ≤ (cfg.msgMaxLen - 3) + 255 * (cfg.msgMaxLen - 1) ∧
        3 + min payload.length (cfg.msgMaxLen - 3) < 65536 := by
  rw [sentFrames_packets sender supplies small]
  constructor
  · intro reassembled
    constructor
    · by_contra long
      exact long_message_restarts cfg large receiver accepts small enough (Nat.lt_of_not_le long)
        r reassembled
    · by_contra long
      exact overlong_frame_lost cfg' cfg env' _ ch' calls small (Nat.le_of_not_lt long) r
        reassembled
  · intro condition
    exact message_arrives cfg large receiver accepts some' small enough condition.1 condition.2 r

def payloadEnv (payload : List UInt8) : Env where
  getBuffer := fun _ _ => true
  copyTxData := fun log ch _ => (.ok, fun k => payload.getD (given ch log + k) 0)
  startOfReception := fun _ _ _ => .ok
  copyRxData := fun _ _ _ => .ok

theorem payloadEnv_supplies (payload : List UInt8) (ch : Nat) :
    Supplies (payloadEnv payload) ch payload := ⟨fun _ => rfl, fun _ _ => rfl⟩

theorem payloadEnv_accepts (payload : List UInt8) (ch : Nat) : Accepts (payloadEnv payload) ch :=
  ⟨fun _ _ => rfl, fun _ _ => rfl⟩

theorem framing_inverse_short :
    Reassembled 0 [1, 2, 3, 4, 5, 6, 7, 8, 9, 10] initial.log
      (receive (sampleConfig 8) (payloadEnv []) 14
        (sentFrames (sampleConfig 8) (payloadEnv [1, 2, 3, 4, 5, 6, 7, 8, 9, 10]) 11 10 0 12
          initial) initial).log :=
  (framing_inverse_iff (sampleConfig 8) (sampleConfig 8)
    (payloadEnv [1, 2, 3, 4, 5, 6, 7, 8, 9, 10]) (payloadEnv []) initial initial 11 0 0 12
    [1, 2, 3, 4, 5, 6, 7, 8, 9, 10] (by decide) (by decide) (by decide) rfl rfl
    (payloadEnv_supplies _ 0) (payloadEnv_accepts _ 0) (by decide)).mpr (by decide)

theorem sequence_restarts_message :
    ¬ Reassembled 0 (List.replicate 767 5) initial.log
      (receive (sampleConfig 4) (payloadEnv []) 14
        (sentFrames (sampleConfig 4) (payloadEnv (List.replicate 767 5)) 11 767 0 767 initial)
        initial).log := by
  have length : (List.replicate 767 (5 : UInt8)).length = 767 := List.length_replicate
  have sender : tpFindByPdurTxId (sampleConfig 4) 11 = some 0 := rfl
  have receiver : tpFindByImcId (sampleConfig 4) 14 = some 0 := rfl
  have queued := sentFrames_packets sender (payloadEnv_supplies (List.replicate 767 5) 0)
    (by omega) 767 initial
  rw [length] at queued
  rw [queued]
  apply long_message_restarts (sampleConfig 4) (by decide) receiver (payloadEnv_accepts [] 0)
  · omega
  · omega
  · rw [length]
    decide

end AnchorNode.Imc
