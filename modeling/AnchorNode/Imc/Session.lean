import AnchorNode.Imc.Tp
import AnchorNode.Lib.Observer

/-! The calls a reception makes to the upper layer: a session is opened by a start that is
answered `BUFREQ_OK`, and closed by one indication. -/

namespace AnchorNode.Imc

open AnchorNode.Lib

variable {cfg : Config} {env : Env} {s t : State}

def track (ch : Nat) (isOpen : Bool) : Event → Bool
  | .startOfReception c _ _ result => if c = ch then result == .ok else isOpen
  | .rxIndication c _ _ => if c = ch then false else isOpen
  | _ => isOpen

/-- A start needs a closed session, a copy and an indication an open one. -/
def Allowed (ch : Nat) (isOpen : Bool) : Event → Prop
  | .startOfReception c _ _ _ => c = ch → isOpen = false
  | .copyRxData c _ _ _ => c = ch → isOpen = true
  | .rxIndication c _ _ => c = ch → isOpen = true
  | _ => True

instance (ch : Nat) (isOpen : Bool) : (e : Event) → Decidable (Allowed ch isOpen e)
  | .startOfReception c _ _ _ => inferInstanceAs (Decidable (c = ch → _))
  | .copyRxData c _ _ _ => inferInstanceAs (Decidable (c = ch → _))
  | .rxIndication c _ _ => inferInstanceAs (Decidable (c = ch → _))
  | .transmit _ _ => inferInstanceAs (Decidable True)
  | .copyTxData _ _ _ _ => inferInstanceAs (Decidable True)
  | .queueAdd _ _ _ => inferInstanceAs (Decidable True)
  | .txConfirmation _ _ _ => inferInstanceAs (Decidable True)
  | .reportError _ _ _ => inferInstanceAs (Decidable True)
  | .reportRuntimeError _ _ _ => inferInstanceAs (Decidable True)

/-- The sessions of channel `ch` follow each other, each closed by one indication. -/
def Disciplined (ch : Nat) (log : List Event) : Prop := Traces (track ch) (Allowed ch) false log

def opens (frame : List UInt8) : Bool :=
  !tooShort frame && frame.getD 0 0 == 0 && decide (u16 (frame.length - 3) ≤ totalMsgLen frame)

def continues (rx : RxInfo) (frame : List UInt8) : Bool :=
  !tooShort frame && frame.getD 0 0 != 0 &&
    frame.getD 0 0 &&& 0x0F == rx.sequence &&& 0x0F &&
    decide (u16 (frame.length - 1) ≤ rx.bytesRemaining)

/-- What keeps the sessions of a channel apart: a first frame comes while none is open, and
if it is welcome its data are taken, and a consecutive frame comes while one is open. -/
structure KeepsSession (cfg : Config) (env : Env) (s : State) (ch : Nat) (frame : List UInt8) :
    Prop where
  restart : opens frame = true → (s.rxInfo ch).active = false
  taken : opens frame = true → env.startOfReception s.log ch (totalMsgLen frame) = .ok →
    env.copyRxData (s.log ++ [.startOfReception ch (cfg.msgCfg ch).upperRxPduId
      (totalMsgLen frame) .ok]) ch ((frame.drop 3).take (u16 (frame.length - 3))) = .ok
  leftover : continues (s.rxInfo ch) frame = true → (s.rxInfo ch).active = true

/-- Every frame that is received keeps the session of its channel. -/
def Orderly (cfg : Config) (env : Env) (s : State) : Op → Prop
  | .rxIndication msgId (some frame) =>
    ∀ ch, tpFindByImcId cfg msgId = some ch → KeepsSession cfg env s ch frame
  | _ => True

structure InSession (s : State) (ch : Nat) : Prop where
  disciplined : Disciplined ch s.log
  flag : s.log.foldl (track ch) false = (s.rxInfo ch).active

def Event.isNeutral (ch : Nat) : Event → Bool
  | .startOfReception c _ _ _ => c != ch
  | .copyRxData c _ _ _ => c != ch
  | .rxIndication c _ _ => c != ch
  | _ => true

theorem InSession.emit {ch : Nat} {e : Event} (session : InSession s ch)
    (allowed : Allowed ch (s.rxInfo ch).active e)
    (rx : (t.rxInfo ch).active = track ch (s.rxInfo ch).active e)
    (log : t.log = s.log ++ [e]) : InSession t ch := by
  constructor
  · rw [Disciplined, log, traces_append]
    refine ⟨session.disciplined, ?_, trivial⟩
    rw [session.flag]
    exact allowed
  · rw [log, List.foldl_append, session.flag, rx]
    rfl

theorem InSession.same {ch : Nat} (session : InSession s ch) (log : t.log = s.log)
    (rx : (t.rxInfo ch).active = (s.rxInfo ch).active) : InSession t ch := by
  constructor
  · rw [log]
    exact session.disciplined
  · rw [log, rx]
    exact session.flag

theorem InSession.neutral {ch : Nat} {e : Event} (session : InSession s ch)
    (neutral : e.isNeutral ch = true) (rx : (t.rxInfo ch).active = (s.rxInfo ch).active)
    (log : t.log = s.log ++ [e]) : InSession t ch := by
  have keeps : Allowed ch (s.rxInfo ch).active e ∧
      track ch (s.rxInfo ch).active e = (s.rxInfo ch).active := by
    cases e <;> simp_all [Event.isNeutral, Allowed, track]
  exact session.emit keeps.1 (rx.trans keeps.2.symm) log

theorem cyclicChannel_session {ch : Nat} (cfg : Config) (env : Env) (c : Nat)
    (session : InSession s ch) : InSession (cyclicChannel cfg env s c) ch := by
  unfold cyclicChannel
  simp only
  split
  · have copied : InSession (s.emit (.copyTxData c (cfg.msgCfg c).upperTxToPduR
        ((env.copyTxData s.log c (u16 (bytesThisPacket cfg (s.txInfo c).sequence
          (s.txInfo c).bytesRemaining))).2.read 0 (bytesThisPacket cfg (s.txInfo c).sequence
          (s.txInfo c).bytesRemaining))
        (env.copyTxData s.log c (u16 (bytesThisPacket cfg (s.txInfo c).sequence
          (s.txInfo c).bytesRemaining))).1)) ch :=
      session.neutral rfl rfl rfl
    split
    · exact copied.neutral (e := .queueAdd c _ _) rfl rfl rfl
    · exact copied
  · exact session

theorem tpCyclic_session {ch : Nat} (cfg : Config) (env : Env) (session : InSession s ch) :
    InSession (tpCyclic cfg env s) ch := by
  unfold tpCyclic
  generalize List.range cfg.numMsg = channels
  induction channels generalizing s with
  | nil => exact session
  | cons c channels ih => exact ih (cyclicChannel_session cfg env c session)

theorem tpReportRxError_session {ch : Nat} (cfg : Config) (c id : Nat) (error : ErrorId)
    (session : InSession s ch) : InSession (tpReportRxError cfg c id error s) ch := by
  have reported : InSession (s.emit (.reportRuntimeError id .tpRx error)) ch :=
    session.neutral rfl rfl rfl
  unfold tpReportRxError
  simp only
  split
  · rename_i active
    by_cases here : c = ch
    · subst here
      apply reported.emit (e := .rxIndication c _ .notOk)
      · exact fun _ => active
      · simp [track]
      · rfl
    · apply reported.neutral (e := .rxIndication c _ .notOk)
      · simpa [Event.isNeutral] using here
      · simp [Function.update_of_ne (Ne.symm here)]
      · rfl
  · exact reported

theorem endTransfer_session {ch : Nat} (cfg : Config) (c : Nat) (session : InSession s ch) :
    InSession (endTransfer cfg c s) ch := by
  unfold endTransfer
  split
  · rename_i complete
    by_cases here : c = ch
    · subst here
      apply session.emit (e := .rxIndication c _ .ok)
      · exact fun _ => complete.2
      · simp [track]
      · rfl
    · apply session.neutral (e := .rxIndication c _ .ok)
      · simpa [Event.isNeutral] using here
      · simp [Function.update_of_ne (Ne.symm here)]
      · rfl
  · exact session

theorem InSession.elsewhere {ch c : Nat} (session : InSession s ch) (other : c ≠ ch)
    (rx : RxInfo) : InSession (s.setRx c rx) ch := by
  have kept : ((s.setRx c rx).rxInfo ch).active = (s.rxInfo ch).active := by
    simp [Function.update_of_ne (Ne.symm other)]
  exact session.same rfl kept

theorem InSession.copied {ch c : Nat} (session : InSession s ch) (other : c ≠ ch)
    (pdu : Nat) (data : List UInt8) (result : BufReq) :
    InSession (s.emit (.copyRxData c pdu data result)) ch := by
  have neutral : (Event.copyRxData c pdu data result).isNeutral ch = true := by
    simpa [Event.isNeutral] using other
  exact session.neutral neutral rfl rfl

theorem firstFrame_elsewhere {ch c : Nat} (cfg : Config) (env : Env) (frame : List UInt8)
    (other : c ≠ ch) (session : InSession s ch) :
    InSession (tpRxFirstFrame cfg env c frame s) ch := by
  have started : ∀ (pdu length : Nat) (result : BufReq),
      InSession (s.emit (.startOfReception c pdu length result)) ch := by
    intro pdu length result
    have neutral : (Event.startOfReception c pdu length result).isNeutral ch = true := by
      simpa [Event.isNeutral] using other
    exact session.neutral neutral rfl rfl
  unfold tpRxFirstFrame
  simp only
  split
  · exact tpReportRxError_session cfg c _ _ session
  · split
    · split
      · exact ((started _ _ _).copied other _ _ _).elsewhere other _
      · exact ((started _ _ _).copied other _ _ _).elsewhere other _
    · exact (started _ _ _).elsewhere other _

theorem InSession.started {ch : Nat} (session : InSession s ch)
    (closed : (s.rxInfo ch).active = false) (pdu length : Nat) (result : BufReq) {rx : RxInfo}
    (flag : rx.active = (result == .ok)) :
    InSession ((s.emit (.startOfReception ch pdu length result)).setRx ch rx) ch := by
  apply session.emit (e := .startOfReception ch pdu length result)
  · exact fun _ => closed
  · simp [track, flag]
  · rfl

theorem InSession.taken {ch : Nat} (session : InSession s ch)
    (active : (s.rxInfo ch).active = true) (pdu : Nat) (data : List UInt8) (result : BufReq) :
    InSession (s.emit (.copyRxData ch pdu data result)) ch := by
  apply session.emit (e := .copyRxData ch pdu data result)
  · exact fun _ => active
  · rfl
  · rfl

theorem firstFrame_session {ch : Nat} {frame : List UInt8} (long : tooShort frame = false)
    (first : frame.getD 0 0 = 0) (keeps : KeepsSession cfg env s ch frame)
    (session : InSession s ch) : InSession (tpRxFirstFrame cfg env ch frame s) ch := by
  unfold tpRxFirstFrame
  simp only
  split
  · exact tpReportRxError_session cfg ch _ _ session
  · rename_i fits
    have opening : opens frame = true := by
      simp only [opens, long, first]
      simpa using fits
    have closed := keeps.restart opening
    by_cases welcome : env.startOfReception s.log ch (totalMsgLen frame) = .ok
    · have taken := keeps.taken opening welcome
      simp only [welcome, if_true, State.emit_log, taken]
      have started : InSession ((s.emit (.startOfReception ch (cfg.msgCfg ch).upperRxPduId
          (totalMsgLen frame) .ok)).setRx ch
            ⟨totalMsgLen frame - u16 (frame.length - 3), true, 1⟩) ch :=
        session.started closed _ _ _ rfl
      apply (started.taken (by simp) (cfg.msgCfg ch).upperRxPduId
        ((frame.drop 3).take (u16 (frame.length - 3))) .ok).same
      · rfl
      · rfl
    · rw [if_neg welcome]
      apply session.started closed
      exact (beq_eq_false_iff_ne.mpr welcome).symm

theorem consecutiveFrame_elsewhere {ch c : Nat} (cfg : Config) (env : Env) (frame : List UInt8)
    (other : c ≠ ch) (session : InSession s ch) :
    InSession (tpRxConsecutiveFrame cfg env c frame s) ch := by
  unfold tpRxConsecutiveFrame
  simp only
  split
  · exact tpReportRxError_session cfg c _ _ session
  · split
    · exact tpReportRxError_session cfg c _ _ session
    · split
      · exact (session.copied other _ _ _).elsewhere other _
      · exact tpReportRxError_session cfg c _ _ (session.copied other _ _ _)

theorem consecutiveFrame_session {ch : Nat} {frame : List UInt8} (long : tooShort frame = false)
    (later : frame.getD 0 0 ≠ 0) (keeps : KeepsSession cfg env s ch frame)
    (session : InSession s ch) : InSession (tpRxConsecutiveFrame cfg env ch frame s) ch := by
  unfold tpRxConsecutiveFrame
  simp only
  split
  · exact tpReportRxError_session cfg ch _ _ session
  · rename_i number
    split
    · exact tpReportRxError_session cfg ch _ _ session
    · rename_i fits
      have going : continues (s.rxInfo ch) frame = true := by
        have number := not_not.mp number
        have fits := Nat.le_of_not_gt fits
        simp only [continues, long, number, fits]
        simpa using later
      have active := keeps.leftover going
      split
      · apply (session.taken active _ _ _).same
        · rfl
        · simp
      · exact tpReportRxError_session cfg ch _ _ (session.taken active _ _ _)

theorem processFrame_session {ch c : Nat} {frame : List UInt8} (long : tooShort frame = false)
    (keeps : KeepsSession cfg env s c frame) (session : InSession s ch) :
    InSession (processFrame cfg env c frame s) ch := by
  apply endTransfer_session
  by_cases here : c = ch
  · subst here
    split
    · rename_i first
      exact firstFrame_session long first keeps session
    · rename_i later
      exact consecutiveFrame_session long later keeps session
  · split
    · exact firstFrame_elsewhere cfg env frame here session
    · exact consecutiveFrame_elsewhere cfg env frame here session

theorem step_session {ch : Nat} {op : Op} (orderly : Orderly cfg env s op)
    (session : InSession s ch) : InSession (step cfg env s op) ch := by
  cases op with
  | transmit txPduId sduLength =>
      simp only [step, transmit]
      split
      · exact session.neutral (e := .reportError ..) rfl rfl rfl
      · exact session.neutral (e := .reportError ..) rfl rfl rfl
      · exact session.neutral (e := .transmit ..) rfl rfl rfl
  | cancelTransmit txPduId =>
      simp only [step, cancelTransmit]
      split
      · exact session.neutral (e := .reportError ..) rfl rfl rfl
      · split
        · exact session
        · exact session.same rfl rfl
  | cyclic => exact tpCyclic_session cfg env session
  | txConfirmation msgId =>
      simp only [step, tpTxConfirmation]
      split
      · exact session.neutral (e := .reportError ..) rfl rfl rfl
      · rename_i c _
        have confirmed : ∀ u : State, InSession u ch → InSession
            (if (u.txInfo c).numPktsPending = 0 ∧ (u.txInfo c).bytesRemaining = 0 then
              u.emit (.txConfirmation c (cfg.msgCfg c).upperTxToPduR .ok) else u) ch := by
          intro u session
          split
          · exact session.neutral (e := .txConfirmation ..) rfl rfl rfl
          · exact session
        apply confirmed
        split
        · exact session.same rfl rfl
        · exact session
  | rxIndication msgId msg =>
      simp only [step, tpRxIndication]
      split
      · exact session.neutral (e := .reportError ..) rfl rfl rfl
      · exact session.neutral (e := .reportError ..) rfl rfl rfl
      · rename_i c frame found
        split
        · exact tpReportRxError_session cfg c _ _ session
        · rename_i long
          exact processFrame_session (by simpa using long) (orderly c found) session

/-- As long as no first frame comes into an open session, every welcome first frame has its
data taken, and no consecutive frame of a closed session still fits, the sessions of every
channel are disciplined. -/
theorem sessions_disciplined (cfg : Config) (env : Env) (ops : List Op)
    (orderly : Guarded (step cfg env) (Orderly cfg env) initial ops) (ch : Nat) :
    Disciplined ch (run (step cfg env) initial ops).log := by
  have start : InSession initial ch := ⟨trivial, rfl⟩
  have preserved : ∀ u op, InSession u ch → Orderly cfg env u op →
      InSession (step cfg env u op) ch := fun u op session orderly => step_session orderly session
  exact (guarded_invariant preserved start orderly).disciplined

instance (ch : Nat) (frame : List UInt8) : Decidable (KeepsSession cfg env s ch frame) :=
  decidable_of_iff ((opens frame = true → (s.rxInfo ch).active = false) ∧
      (opens frame = true → env.startOfReception s.log ch (totalMsgLen frame) = .ok →
        env.copyRxData (s.log ++ [.startOfReception ch (cfg.msgCfg ch).upperRxPduId
          (totalMsgLen frame) .ok]) ch ((frame.drop 3).take (u16 (frame.length - 3))) = .ok) ∧
      (continues (s.rxInfo ch) frame = true → (s.rxInfo ch).active = true))
    ⟨fun ⟨restart, taken, leftover⟩ => ⟨restart, taken, leftover⟩,
      fun keeps => ⟨keeps.restart, keeps.taken, keeps.leftover⟩⟩

instance : (op : Op) → Decidable (Orderly cfg env s op)
  | .rxIndication msgId (some _) =>
    inferInstanceAs (Decidable (∀ ch, tpFindByImcId cfg msgId = some ch → _))
  | .rxIndication _ none => inferInstanceAs (Decidable True)
  | .transmit _ _ => inferInstanceAs (Decidable True)
  | .cancelTransmit _ => inferInstanceAs (Decidable True)
  | .cyclic => inferInstanceAs (Decidable True)
  | .txConfirmation _ => inferInstanceAs (Decidable True)

instance (ch : Nat) (log : List Event) : Decidable (Disciplined ch log) :=
  inferInstanceAs (Decidable (Traces (track ch) (Allowed ch) false log))

def willingEnv : Env where
  getBuffer := fun _ _ => true
  copyTxData := fun _ _ _ => (.ok, fun _ => 0)
  startOfReception := fun _ _ _ => .ok
  copyRxData := fun _ _ _ => .ok

theorem sessions_disciplined_transfer :
    Disciplined 0 (run (step (sampleConfig 8) willingEnv) initial
      [.rxIndication 14 (some [0, 0, 4, 1, 2]), .rxIndication 14 (some [0x21, 3, 4])]).log :=
  sessions_disciplined (sampleConfig 8) willingEnv _ (by decide) 0

def refusingEnv : Env := { willingEnv with copyRxData := fun _ _ _ => .notOk }

/-- A first frame in the middle of a transfer opens a second session, one whose data are
refused leaves its session open, and a consecutive frame is handed on without a session. -/
theorem sessions_overlap :
    ¬ Disciplined 0 (run (step (sampleConfig 8) willingEnv) initial
      [.rxIndication 14 (some [0, 0, 4, 1, 2]), .rxIndication 14 (some [0, 0, 4, 1, 2])]).log ∧
    ¬ Disciplined 0 (run (step (sampleConfig 8) refusingEnv) initial
      [.rxIndication 14 (some [0, 0, 4, 1, 2]), .rxIndication 14 (some [0, 0, 4, 1, 2])]).log ∧
    ¬ Disciplined 0 (run (step (sampleConfig 8) willingEnv) initial
      [.rxIndication 14 (some [0x20])]).log := by
  decide

end AnchorNode.Imc
