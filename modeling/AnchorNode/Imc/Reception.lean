import AnchorNode.Imc.Session
import AnchorNode.Lib.Chronicle

/-! What a good reception consists of: every call of the module is read with the frame it was made
for, and a tally over the calls counts what has been handed on since the start. -/

namespace AnchorNode.Imc

open AnchorNode.Lib

variable {cfg : Config} {env : Env} {s t : State} {ch : Nat}

/-- The header of a frame: the low nibble of its first byte, and the two bytes behind it as a
length. -/
structure Header where
  nibble : Nat
  length : Nat
  deriving DecidableEq, Repr

def headerOf (frame : List UInt8) : Header :=
  ⟨(frame.getD 0 0).toNat % 16, 256 * (frame.getD 1 0).toNat + (frame.getD 2 0).toNat⟩

def Op.header : Op → Header
  | .rxIndication _ (some frame) => headerOf frame
  | _ => ⟨0, 0⟩

def reception (cfg : Config) (env : Env) : System State Op Event (Header × Event) where
  step := step cfg env
  log := State.log
  told := fun _ _ => []
  note := fun op e => (op.header, e)

/-- What has been announced and copied on a channel since the last start. -/
structure Tally where
  announced : Nat
  copied : Nat
  nibbles : List Nat
  deriving DecidableEq, Repr

def count (ch : Nat) (tally : Tally) : Header × Event → Tally
  | (header, .startOfReception c _ _ _) => if c = ch then ⟨header.length, 0, []⟩ else tally
  | (header, .copyRxData c _ bytes .ok) =>
    if c = ch then
      ⟨tally.announced, tally.copied + bytes.length, tally.nibbles ++ [header.nibble]⟩
    else tally
  | _ => tally

/-- The message has its announced length, and its frames came in the order of their numbers. -/
def Tally.Complete (tally : Tally) : Prop :=
  tally.copied = tally.announced ∧
    tally.nibbles = (List.range tally.nibbles.length).map (· % 16)

/-- A message is started with the length in its first frame, and indicated as good only if it is
complete. -/
def Sound (ch : Nat) (tally : Tally) : Header × Event → Prop
  | (header, .startOfReception c _ length _) => c = ch → length = header.length
  | (_, .rxIndication c _ .ok) => c = ch → tally.Complete
  | _ => True

abbrev Counts (ch : Nat) (header : Header) (before after : Tally) (s t : State)
    (new : List Event) : Prop :=
  Extends (count ch) (Sound ch) (Prod.mk header) before after s.log t.log new

def accepted (ch : Nat) (events : List Event) : Nat :=
  (events.map fun e => match e with
    | .copyRxData c _ bytes .ok => if c = ch then bytes.length else 0
    | _ => 0).sum

/-- No byte is subtracted that was not still to come: the bytes that remain and the accepted
ones make up those that remained before, or those a start has announced. -/
def Conserved (ch : Nat) (s t : State) (new : List Event) : Prop :=
  (t.rxInfo ch).bytesRemaining + accepted ch new = (s.rxInfo ch).bytesRemaining ∨
    ∃ pdu length result, .startOfReception ch pdu length result ∈ new ∧
      (t.rxInfo ch).bytesRemaining + accepted ch new = length

def Expects (ch : Nat) (s : State) (tally : Tally) : Prop :=
  (s.rxInfo ch).active = true →
    tally.copied + (s.rxInfo ch).bytesRemaining = tally.announced ∧
      tally.nibbles = (List.range tally.nibbles.length).map (· % 16) ∧
      (s.rxInfo ch).sequence.toNat % 16 = tally.nibbles.length % 16

def Receives (ch : Nat) (header : Header) (tally : Tally) (s t : State) : Prop :=
  ∃ new after, Counts ch header tally after s t new ∧ Expects ch t after ∧ Conserved ch s t new

abbrev Quiet (ch : Nat) (s t : State) : Prop :=
  Undisturbed State.log (Event.isNeutral ch) (fun s => s.rxInfo ch) s t

theorem neutral_count {e : Event} (neutral : e.isNeutral ch = true) (header : Header)
    (tally : Tally) : count ch tally (header, e) = tally ∧ Sound ch tally (header, e) := by
  cases e with
  | startOfReception c pdu length result =>
      have other : c ≠ ch := by simpa [Event.isNeutral] using neutral
      exact ⟨if_neg other, fun here => absurd here other⟩
  | copyRxData c pdu bytes result =>
      have other : c ≠ ch := by simpa [Event.isNeutral] using neutral
      cases result <;> first | exact ⟨rfl, trivial⟩ | exact ⟨if_neg other, trivial⟩
  | rxIndication c pdu result =>
      have other : c ≠ ch := by simpa [Event.isNeutral] using neutral
      cases result with
      | ok => exact ⟨rfl, fun here => absurd here other⟩
      | notOk => exact ⟨rfl, trivial⟩
  | transmit _ _ | copyTxData _ _ _ _ | queueAdd _ _ _ | txConfirmation _ _ _ | reportError _ _ _
  | reportRuntimeError _ _ _ => exact ⟨rfl, trivial⟩

theorem neutral_accepted {events : List Event} (neutral : ∀ e ∈ events, e.isNeutral ch = true) :
    accepted ch events = 0 := by
  apply List.sum_eq_zero
  intro n member
  obtain ⟨e, inside, rfl⟩ := List.mem_map.mp member
  have elsewhere := neutral e inside
  cases e with
  | copyRxData c pdu bytes result =>
      have other : c ≠ ch := by simpa [Event.isNeutral] using elsewhere
      cases result <;> simp [other]
  | _ => rfl

theorem Quiet.receives {header : Header} {tally : Tally} (quiet : Quiet ch s t)
    (expects : Expects ch s tally) : Receives ch header tally s t := by
  obtain ⟨new, log, neutral⟩ := quiet.log
  have kept : t.rxInfo ch = s.rxInfo ch := quiet.view
  refine ⟨new, tally, .ignored log fun e member => neutral_count (neutral e member) header tally,
    ?_, ?_⟩
  · rw [Expects, kept]
    exact expects
  · rw [Conserved, kept, neutral_accepted neutral]
    exact Or.inl rfl

theorem cyclicChannel_quiet (cfg : Config) (env : Env) (s : State) (c : Nat) :
    Quiet ch s (cyclicChannel cfg env s c) := by
  unfold cyclicChannel
  simp only
  split
  · have copied : Quiet ch s (s.emit (.copyTxData c (cfg.msgCfg c).upperTxToPduR
        ((env.copyTxData s.log c (u16 (bytesThisPacket cfg (s.txInfo c).sequence
          (s.txInfo c).bytesRemaining))).2.read 0 (bytesThisPacket cfg (s.txInfo c).sequence
          (s.txInfo c).bytesRemaining))
        (env.copyTxData s.log c (u16 (bytesThisPacket cfg (s.txInfo c).sequence
          (s.txInfo c).bytesRemaining))).1)) := .event rfl rfl rfl
    split
    · exact copied.trans (.event (e := Event.queueAdd c _ _) rfl rfl rfl)
    · exact copied
  · exact .refl s

theorem tpCyclic_quiet (cfg : Config) (env : Env) (s : State) :
    Quiet ch s (tpCyclic cfg env s) := by
  unfold tpCyclic
  generalize List.range cfg.numMsg = channels
  induction channels generalizing s with
  | nil => exact .refl s
  | cons c channels ih => exact (cyclicChannel_quiet cfg env s c).trans (ih _)

theorem tpReportRxError_quiet {c : Nat} (cfg : Config) (id : Nat) (error : ErrorId) (other : c ≠ ch)
    (s : State) : Quiet ch s (tpReportRxError cfg c id error s) := by
  have reported : Quiet ch s (s.emit (.reportRuntimeError id .tpRx error)) := .event rfl rfl rfl
  unfold tpReportRxError
  simp only
  split
  · apply reported.trans
    apply Undisturbed.event (e := Event.rxIndication c _ .notOk)
    · simpa [Event.isNeutral] using other
    · rfl
    · simp [Function.update_of_ne (Ne.symm other)]
  · exact reported

theorem Quiet.stored {c : Nat} (other : c ≠ ch) (s : State) (rx : RxInfo) :
    Quiet ch s (s.setRx c rx) := by
  have kept : (s.setRx c rx).rxInfo ch = s.rxInfo ch := by
    simp [Function.update_of_ne (Ne.symm other)]
  exact .same rfl kept

theorem Quiet.started {c : Nat} (other : c ≠ ch) (s : State) (pdu length : Nat) (result : BufReq) :
    Quiet ch s (s.emit (.startOfReception c pdu length result)) := by
  have neutral : (Event.startOfReception c pdu length result).isNeutral ch = true := by
    simpa [Event.isNeutral] using other
  exact .event neutral rfl rfl

theorem Quiet.copied {c : Nat} (other : c ≠ ch) (s : State) (pdu : Nat) (data : List UInt8)
    (result : BufReq) : Quiet ch s (s.emit (.copyRxData c pdu data result)) := by
  have neutral : (Event.copyRxData c pdu data result).isNeutral ch = true := by
    simpa [Event.isNeutral] using other
  exact .event neutral rfl rfl

theorem firstFrame_quiet {c : Nat} (cfg : Config) (env : Env) (frame : List UInt8)
    (other : c ≠ ch) (s : State) : Quiet ch s (tpRxFirstFrame cfg env c frame s) := by
  unfold tpRxFirstFrame
  simp only
  split
  · exact tpReportRxError_quiet cfg _ _ other s
  · split
    · split
      · exact ((Quiet.started other _ _ _ _).trans (Quiet.copied other _ _ _ _)).trans
          (Quiet.stored other _ _)
      · exact ((Quiet.started other _ _ _ _).trans (Quiet.copied other _ _ _ _)).trans
          (Quiet.stored other _ _)
    · exact (Quiet.started other _ _ _ _).trans (Quiet.stored other _ _)

theorem consecutiveFrame_quiet {c : Nat} (cfg : Config) (env : Env) (frame : List UInt8)
    (other : c ≠ ch) (s : State) : Quiet ch s (tpRxConsecutiveFrame cfg env c frame s) := by
  unfold tpRxConsecutiveFrame
  simp only
  split
  · exact tpReportRxError_quiet cfg _ _ other s
  · split
    · exact tpReportRxError_quiet cfg _ _ other s
    · split
      · exact (Quiet.copied other _ _ _ _).trans (Quiet.stored other _ _)
      · exact (Quiet.copied other _ _ _ _).trans (tpReportRxError_quiet cfg _ _ other _)

theorem endTransfer_quiet {c : Nat} (cfg : Config) (other : c ≠ ch) (s : State) :
    Quiet ch s (endTransfer cfg c s) := by
  unfold endTransfer
  split
  · apply Undisturbed.event (e := Event.rxIndication c _ .ok)
    · simpa [Event.isNeutral] using other
    · rfl
    · simp [Function.update_of_ne (Ne.symm other)]
  · exact .refl s

theorem Receives.followed {header : Header} {tally : Tally} {u : State}
    (first : Receives ch header tally s t)
    (second : ∀ after, Expects ch t after → ∃ more final, Counts ch header after final t u more ∧
      Expects ch u final ∧ accepted ch more = 0 ∧
      (u.rxInfo ch).bytesRemaining = (t.rxInfo ch).bytesRemaining) :
    Receives ch header tally s u := by
  obtain ⟨new, after, extends', expects, conserved⟩ := first
  obtain ⟨more, final, extends'', expects', none, same⟩ := second after expects
  have total : accepted ch (new ++ more) = accepted ch new := by
    have split : accepted ch (new ++ more) = accepted ch new + accepted ch more := by
      simp [accepted]
    rw [split, none, Nat.add_zero]
  refine ⟨new ++ more, final, extends'.trans extends'', expects', ?_⟩
  rw [Conserved, same, total]
  rcases conserved with kept | ⟨pdu, length, result, started, rest⟩
  · exact Or.inl kept
  · exact Or.inr ⟨pdu, length, result, List.mem_append_left more started, rest⟩

theorem tpReportRxError_ends {header : Header} {after : Tally} (cfg : Config) (id : Nat)
    (error : ErrorId) (t : State) :
    ∃ more, Counts ch header after after t (tpReportRxError cfg ch id error t) more ∧
      Expects ch (tpReportRxError cfg ch id error t) after ∧ accepted ch more = 0 ∧
      ((tpReportRxError cfg ch id error t).rxInfo ch).bytesRemaining =
        (t.rxInfo ch).bytesRemaining := by
  have reported : Counts ch header after after t (t.emit (.reportRuntimeError id .tpRx error))
      [.reportRuntimeError id .tpRx error] :=
    .event (e := Event.reportRuntimeError id .tpRx error) rfl trivial
  unfold tpReportRxError
  simp only
  split
  · refine ⟨_, reported.trans (.event (e := Event.rxIndication ch _ .notOk) rfl trivial), ?_,
      rfl, ?_⟩
    · intro active
      simp at active
    · simp
  · rename_i idle
    refine ⟨_, reported, ?_, rfl, rfl⟩
    intro active
    exact absurd active idle

theorem tpReportRxError_receives {header : Header} {tally : Tally} (cfg : Config) (id : Nat)
    (error : ErrorId) (expects : Expects ch s tally) :
    Receives ch header tally s (tpReportRxError cfg ch id error s) := by
  have same : Quiet ch s s := .refl s
  apply (same.receives expects).followed
  intro after _
  obtain ⟨more, ends⟩ := tpReportRxError_ends cfg id error s
  exact ⟨more, after, ends⟩

theorem endTransfer_complete {header : Header} {after : Tally} (cfg : Config) (t : State)
    (expects : Expects ch t after) :
    ∃ more final, Counts ch header after final t (endTransfer cfg ch t) more ∧
      Expects ch (endTransfer cfg ch t) final ∧ accepted ch more = 0 ∧
      ((endTransfer cfg ch t).rxInfo ch).bytesRemaining = (t.rxInfo ch).bytesRemaining := by
  unfold endTransfer
  split
  · rename_i last
    obtain ⟨bytes, nibbles, _⟩ := expects last.2
    have complete : after.Complete := by
      rw [last.1, Nat.add_zero] at bytes
      exact ⟨bytes, nibbles⟩
    refine ⟨_, _, .event (e := Event.rxIndication ch _ .ok) rfl (fun _ => complete), ?_, rfl, ?_⟩
    · intro active
      simp at active
    · simp
  · exact ⟨[], after, .refl after t.log, expects, rfl, rfl⟩

theorem low_nibble (b : UInt8) : (b &&& 0x0F).toNat = b.toNat % 16 := by
  rw [UInt8.toNat_and]
  exact Nat.and_two_pow_sub_one_eq_mod b.toNat 4

theorem data_length (frame : List UInt8) (header : Nat) :
    ((frame.drop header).take (u16 (frame.length - header))).length =
      u16 (frame.length - header) := by
  rw [List.length_take, List.length_drop]
  exact Nat.min_eq_left (Nat.mod_le _ _)

theorem firstFrame_receives {tally : Tally} (cfg : Config) (env : Env) {frame : List UInt8}
    (first : frame.getD 0 0 = 0) (expects : Expects ch s tally) :
    Receives ch (headerOf frame) tally s (tpRxFirstFrame cfg env ch frame s) := by
  have nibble : (headerOf frame).nibble = 0 := by
    rw [headerOf, first]
    rfl
  have announced : totalMsgLen frame = (headerOf frame).length :=
    congrArg (· + (frame.getD 2 0).toNat) (Nat.mul_comm _ 256)
  unfold tpRxFirstFrame
  simp only
  split
  · exact tpReportRxError_receives cfg _ _ expects
  · rename_i fits
    have size := data_length frame 3
    generalize started : env.startOfReception s.log ch (totalMsgLen frame) = welcome
    by_cases ok : welcome = .ok
    · rw [if_pos ok]
      generalize (frame.drop 3).take (u16 (frame.length - 3)) = data at size ⊢
      generalize env.copyRxData _ ch data = taken
      generalize u16 (frame.length - 3) = bytes at size fits ⊢
      by_cases copied : taken = .ok
      · subst copied
        rw [if_pos rfl]
        refine ⟨[.startOfReception ch (cfg.msgCfg ch).upperRxPduId (totalMsgLen frame) welcome,
          .copyRxData ch (cfg.msgCfg ch).upperRxPduId data .ok],
          ⟨totalMsgLen frame, bytes, [0]⟩, ⟨?_, ?_, ?_⟩, ?_,
          Or.inr ⟨(cfg.msgCfg ch).upperRxPduId, totalMsgLen frame, welcome, by simp, ?_⟩⟩
        · simp
        · simp [Traces, Sound, announced]
        · simp [count, size, announced, nibble]
        · intro _
          refine ⟨?_, rfl, ?_⟩
          · simp
            omega
          · simp
        · simp [accepted, size]
          omega
      · rw [if_neg copied]
        refine ⟨[.startOfReception ch (cfg.msgCfg ch).upperRxPduId (totalMsgLen frame) welcome,
          .copyRxData ch (cfg.msgCfg ch).upperRxPduId data taken],
          ⟨totalMsgLen frame, 0, []⟩, ⟨?_, ?_, ?_⟩, ?_, Or.inl ?_⟩
        · simp
        · cases taken <;> simp [Traces, Sound, announced]
        · cases taken <;> first | exact absurd rfl copied | simp [count, announced]
        · intro active
          simp at active
        · cases taken <;> first | exact absurd rfl copied | simp [accepted]
    · rw [if_neg ok]
      refine ⟨[.startOfReception ch (cfg.msgCfg ch).upperRxPduId (totalMsgLen frame) welcome],
        ⟨totalMsgLen frame, 0, []⟩, ⟨?_, ?_, ?_⟩, ?_, Or.inl ?_⟩
      · simp
      · simp [Traces, Sound, announced]
      · simp [count, announced]
      · intro active
        simp at active
      · simp [accepted]

theorem consecutiveFrame_receives {tally : Tally} (cfg : Config) (env : Env) (frame : List UInt8)
    (expects : Expects ch s tally) :
    Receives ch (headerOf frame) tally s
      (tpRxConsecutiveFrame cfg env ch frame s) := by
  unfold tpRxConsecutiveFrame
  simp only
  split
  · exact tpReportRxError_receives cfg _ _ expects
  · rename_i number
    split
    · exact tpReportRxError_receives cfg _ _ expects
    · rename_i fits
      have size := data_length frame 1
      generalize (frame.drop 1).take (u16 (frame.length - 1)) = data at size ⊢
      generalize u16 (frame.length - 1) = bytes at size fits ⊢
      generalize env.copyRxData s.log ch data = taken
      by_cases copied : taken = .ok
      · subst copied
        rw [if_pos rfl]
        have sameNibble := congrArg UInt8.toNat (not_not.mp number)
        rw [low_nibble, low_nibble] at sameNibble
        refine ⟨[.copyRxData ch (cfg.msgCfg ch).upperRxPduId data .ok],
          ⟨tally.announced, tally.copied + bytes, tally.nibbles ++ [(frame.getD 0 0).toNat % 16]⟩,
          ⟨?_, ?_, ?_⟩, ?_, Or.inl ?_⟩
        · simp
        · simp [Traces, Sound]
        · simp [count, size, headerOf]
        · intro active
          have active : (s.rxInfo ch).active = true := by simpa using active
          obtain ⟨total, nibbles, next⟩ := expects active
          refine ⟨?_, ?_, ?_⟩
          · simp
            omega
          · rw [List.length_append, List.length_singleton, List.range_succ, List.map_append,
              ← nibbles,
              sameNibble, next]
            rfl
          · simp [UInt8.toNat_add]
            omega
        · simp [accepted, size]
          omega
      · rw [if_neg copied]
        have refused : Receives ch (headerOf frame) tally s
            (s.emit (.copyRxData ch (cfg.msgCfg ch).upperRxPduId data taken)) := by
          refine ⟨[.copyRxData ch (cfg.msgCfg ch).upperRxPduId data taken], tally,
            ⟨rfl, ?_, ?_⟩, expects, Or.inl ?_⟩
          · cases taken <;> simp [Traces, Sound]
          · cases taken <;> first | exact absurd rfl copied | rfl
          · cases taken <;> first | exact absurd rfl copied | simp [accepted]
        apply refused.followed
        intro after _
        obtain ⟨more, ends⟩ := tpReportRxError_ends cfg (bytes % 256) .result
          (s.emit (.copyRxData ch (cfg.msgCfg ch).upperRxPduId data taken))
        exact ⟨more, after, ends⟩

theorem processFrame_receives {tally : Tally} (cfg : Config) (env : Env) (frame : List UInt8)
    (expects : Expects ch s tally) :
    Receives ch (headerOf frame) tally s (processFrame cfg env ch frame s) := by
  have moved : Receives ch (headerOf frame) tally s
      (if frame.getD 0 0 = 0 then tpRxFirstFrame cfg env ch frame s
        else tpRxConsecutiveFrame cfg env ch frame s) := by
    split
    · rename_i first
      exact firstFrame_receives cfg env first expects
    · exact consecutiveFrame_receives cfg env frame expects
  exact moved.followed fun after expects => endTransfer_complete cfg _ expects

theorem processFrame_quiet {c : Nat} (cfg : Config) (env : Env) (frame : List UInt8)
    (other : c ≠ ch) (s : State) : Quiet ch s (processFrame cfg env c frame s) := by
  unfold processFrame
  split
  · exact (firstFrame_quiet cfg env frame other s).trans (endTransfer_quiet cfg other _)
  · exact (consecutiveFrame_quiet cfg env frame other s).trans (endTransfer_quiet cfg other _)

theorem rxIndication_receives {tally : Tally} (cfg : Config) (env : Env) (msgId : Nat)
    (msg : Option (List UInt8)) (expects : Expects ch s tally) :
    Receives ch (Op.rxIndication msgId msg).header tally s
      (tpRxIndication cfg env msgId msg s) := by
  have reported : ∀ id error, Receives ch (Op.rxIndication msgId msg).header tally s
      (s.emit (.reportError id .tpRx error)) := by
    intro id error
    have quiet : Quiet ch s (s.emit (.reportError id .tpRx error)) := .event rfl rfl rfl
    exact quiet.receives expects
  unfold tpRxIndication
  split
  · exact reported _ _
  · exact reported _ _
  · rename_i c frame _
    by_cases here : c = ch
    · subst here
      split
      · exact tpReportRxError_receives cfg (msgId % 256) .length expects
      · exact processFrame_receives cfg env frame expects
    · split
      · exact (tpReportRxError_quiet cfg _ _ here s).receives expects
      · exact (processFrame_quiet cfg env frame here s).receives expects

theorem step_receives {tally : Tally} (cfg : Config) (env : Env) (op : Op)
    (expects : Expects ch s tally) : Receives ch op.header tally s (step cfg env s op) := by
  cases op with
  | transmit txPduId sduLength =>
      apply Quiet.receives _ expects
      simp only [step, transmit]
      split
      · exact .event (e := Event.reportError ..) rfl rfl rfl
      · exact .event (e := Event.reportError ..) rfl rfl rfl
      · exact .event (e := Event.transmit ..) rfl rfl rfl
  | cancelTransmit txPduId =>
      apply Quiet.receives _ expects
      simp only [step, cancelTransmit]
      split
      · exact .event (e := Event.reportError ..) rfl rfl rfl
      · split
        · exact .refl s
        · exact .same rfl rfl
  | cyclic => exact (tpCyclic_quiet cfg env s).receives expects
  | txConfirmation msgId =>
      apply Quiet.receives _ expects
      simp only [step, tpTxConfirmation]
      split
      · exact .event (e := Event.reportError ..) rfl rfl rfl
      · rename_i c _
        have confirmed : ∀ u : State, Quiet ch s u → Quiet ch s
            (if (u.txInfo c).numPktsPending = 0 ∧ (u.txInfo c).bytesRemaining = 0 then
              u.emit (.txConfirmation c (cfg.msgCfg c).upperTxToPduR .ok) else u) := by
          intro u quiet
          split
          · exact quiet.trans (.event (e := Event.txConfirmation ..) rfl rfl rfl)
          · exact quiet
        apply confirmed
        split
        · exact .same rfl rfl
        · exact .refl s
  | rxIndication msgId msg => exact rxIndication_receives cfg env msgId msg expects

theorem notes_receive {tally : Tally} (cfg : Config) (env : Env) (op : Op)
    (expects : Expects ch s tally) :
    Traces (count ch) (Sound ch) tally ((reception cfg env).notes s op) ∧
      Expects ch (step cfg env s op) (((reception cfg env).notes s op).foldl (count ch) tally) := by
  obtain ⟨new, after, extended, expects', _⟩ := step_receives cfg env op expects
  obtain ⟨sound, seen⟩ := System.notes_extends (m := reception cfg env) trivial extended
  rw [seen]
  exact ⟨sound, expects'⟩

/-- A message that is indicated as good has exactly the bytes that its first frame announced in its
second and third byte, from frames numbered `0, 1, 2, …`, and in no call are more bytes taken off
than were still to come. -/
theorem good_messages_complete (cfg : Config) (env : Env) (ops : List Op) (ch : Nat) :
    Traces (count ch) (Sound ch) ⟨0, 0, []⟩ ((reception cfg env).chronicle initial ops) ∧
      ∀ op, ∃ new, (run (step cfg env) initial (ops ++ [op])).log =
          (run (step cfg env) initial ops).log ++ new ∧
        Conserved ch (run (step cfg env) initial ops)
          (run (step cfg env) initial (ops ++ [op])) new := by
  have start : Expects ch initial ⟨0, 0, []⟩ := by
    intro active
    exact absurd active Bool.false_ne_true
  obtain ⟨sound, expects⟩ := System.chronicle_guarded (m := reception cfg env)
    (fun _ _ op expects _ => notes_receive cfg env op expects) ops
    (guarded_always (fun _ _ => trivial) _ ops) start
  refine ⟨sound, fun op => ?_⟩
  obtain ⟨new, after, extended, _, conserved⟩ := step_receives cfg env op expects
  rw [run_append]
  exact ⟨new, extended.log, conserved⟩

end AnchorNode.Imc
