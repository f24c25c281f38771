import AnchorNode.CanIf.Interface

/-! The account of a PDU: what the driver and the users of the interface have been told about
its frames. -/

namespace AnchorNode.CanIf

open AnchorNode.Lib

variable {cfg : Config} {env : Env} {s t : State} {p : Nat}

/-- What happens at the interface: the calls it makes, and from outside the completion of a
frame by the driver or the reception of a PDU that fakes a confirmation. -/
inductive Note where
  | event (e : Event)
  | completed (pdu : Nat)
  | faked (pdu : Nat)
  deriving DecidableEq, Repr

def faking (cfg : Config) (canId : UInt32) : List Note :=
  match getPduId cfg canId with
  | none => []
  | some pdu =>
    if (cfg.userCallbackName pdu).fakeTxConfirmPduId < cfg.pduMax then
      [.faked (cfg.userCallbackName pdu).fakeTxConfirmPduId]
    else []

def Op.told (cfg : Config) : Op → List Note
  | .txConfirmation canTxPduId => [.completed canTxPduId]
  | .rxIndication (some canId) (some _) => faking cfg canId
  | _ => []

def interface (cfg : Config) (env : Env) : System State Op Event Note where
  step := step cfg env
  log := State.log
  told := fun _ op => op.told cfg
  note := fun _ e => .event e

/-- How many frames of a PDU the driver has taken and completed, how many calls of
`CanIf_Transmit` were accepted and how many confirmed, and how many had been accepted when a
confirmation was last faked. -/
structure Account where
  written : Nat
  accepted : Nat
  completed : Nat
  confirmed : Nat
  covered : Nat
  deriving DecidableEq, Repr

namespace Account

def start : Account := ⟨0, 0, 0, 0, 0⟩

def write (a : Account) : Account := { a with written := a.written + 1 }
def accept (a : Account) : Account := { a with accepted := a.accepted + 1 }
def complete (a : Account) : Account := { a with completed := a.completed + 1 }
def confirm (a : Account) : Account := { a with confirmed := a.confirmed + 1 }
def cover (a : Account) : Account := { a with covered := a.accepted }

end Account

def record (p : Nat) (a : Account) : Note → Account
  | .event (.canTrcvWrite _ q _ _ _ .ok) => if q = p then a.write else a
  | .event (.accepted q) => if q = p then a.accept else a
  | .event (.txConfirmation q _ _) => if q = p then a.confirm else a
  | .completed q => if q = p then a.complete else a
  | .faked q => if q = p then a.cover else a
  | _ => a

/-- The driver completes no more frames than it has taken. -/
def Honest (p : Nat) (x : State × Account) : Op → Prop
  | .txConfirmation q => q = p → x.2.completed < x.2.written
  | _ => True

instance (p : Nat) (x : State × Account) : (op : Op) → Decidable (Honest p x op)
  | .txConfirmation q => inferInstanceAs (Decidable (q = p → _))
  | .transmitWrite _ _ => inferInstanceAs (Decidable True)
  | .transmitReturn _ => inferInstanceAs (Decidable True)
  | .rxIndication _ _ => inferInstanceAs (Decidable True)
  | .controllerModeIndication _ _ => inferInstanceAs (Decidable True)

def Event.isNeutral (p : Nat) : Event → Bool
  | .canTrcvWrite _ q _ _ _ .ok | .accepted q | .txConfirmation q _ _ => q != p
  | _ => true

def listens (cfg : Config) (pdu : Nat) : Bool :=
  match cfg.userCallbackUL pdu with
  | .canTp | .pduR => true
  | .canTsyn => cfg.bleTimesync && cfg.cpuCc26xx
  | .cdd => (cfg.userCallbackName pdu).userTxConfirmation

theorem neutral_record {e : Event} (neutral : e.isNeutral p = true) (a : Account) :
    record p a (.event e) = a := by
  cases e with
  | canTrcvWrite handle q canId length data result =>
      cases result with
      | ok =>
          have other : q ≠ p := by simpa [Event.isNeutral] using neutral
          exact if_neg other
      | notOk | busy => rfl
  | accepted q =>
      have other : q ≠ p := by simpa [Event.isNeutral] using neutral
      exact if_neg other
  | txConfirmation q user upPduId =>
      have other : q ≠ p := by simpa [Event.isNeutral] using neutral
      exact if_neg other
  | setTxConfirmationLatency _ _ | rxIndication _ _ _ _ | reportError _ _ _ => rfl

abbrev Quiet (p : Nat) (s t : State) : Prop :=
  Undisturbed State.log (Event.isNeutral p) (fun s => (s.pendingTxConfirm p, s.writing.count p)) s t

theorem report_quiet (cfg : Config) (id : Nat) (api : ApiId) (error : ErrorId) (s : State) :
    Quiet p s (report cfg id api error s) := by
  unfold report
  split
  · exact .event (e := Event.reportError id api error) rfl rfl rfl
  · exact .refl s

theorem indicateUser_quiet (cfg : Config) (env : Env) (pdu : Nat) (frame : RxPdu) (s : State) :
    Quiet p s (indicateUser cfg env pdu frame s) := by
  have indicated : ∀ user frame,
      Quiet p s (s.emit (.rxIndication pdu user (cfg.upPduId pdu) frame)) :=
    fun user frame =>
      .event (e := Event.rxIndication pdu user (cfg.upPduId pdu) frame) rfl rfl rfl
  unfold indicateUser
  simp only
  split
  · exact indicated _ _
  · split
    · exact indicated _ _
    · exact .refl s
  · exact indicated _ _
  · split
    · exact indicated _ _
    · exact .refl s

theorem controllerModeIndication_quiet (cfg : Config) (controllerId : Nat) (mode : ControllerMode)
    (s : State) : Quiet p s (controllerModeIndication cfg controllerId mode s) := by
  unfold controllerModeIndication
  split
  · exact report_quiet cfg _ _ _ s
  · split
    · exact report_quiet cfg _ _ _ s
    · exact .same rfl rfl

theorem transmitReturn_quiet {q : Nat} (other : q ≠ p) (s : State) :
    Quiet p s (transmitReturn q s) := by
  have elsewhere : (q != p) = true := by simpa using other
  unfold transmitReturn
  split
  · apply Undisturbed.event (e := Event.accepted q) elsewhere rfl
    simp [Function.update_of_ne (Ne.symm other), List.count_erase_of_ne (Ne.symm other)]
  · exact .refl s

/-- Whether the driver takes the frame of a call of `CanIf_Transmit`. -/
def takes (cfg : Config) (env : Env) (s : State) (txPduId : Nat) (pduInfo : Option TxPdu) : Bool :=
  !(cfg.devErrorDetect && decide (cfg.pduMax ≤ txPduId)) && pduInfo.isSome &&
    env.voltageNormal s.log && decide (s.controllerMode cfg.ctrlId = .started) &&
    decide (env.canTrcvWrite s.log txPduId = .ok)

theorem takes_known {q : Nat} {pduInfo : Option TxPdu} (taken : takes cfg env s q pduInfo = true) :
    ¬ (cfg.devErrorDetect = true ∧ cfg.pduMax ≤ q) := by
  intro unknown
  simp [takes, unknown] at taken

theorem transmitWrite_cases (cfg : Config) (env : Env) (q : Nat) (pduInfo : Option TxPdu)
    (s : State) :
    (takes cfg env s q pduInfo = true ∧ ∃ handle canId length data,
      transmitWrite cfg env q pduInfo s =
        { s.emit (.canTrcvWrite handle q canId length data .ok) with writing := q :: s.writing }) ∨
    (takes cfg env s q pduInfo = false ∧ ∀ p, Quiet p s (transmitWrite cfg env q pduInfo s)) := by
  unfold transmitWrite
  split
  · rename_i unknown
    exact Or.inr ⟨by simp [takes, unknown], fun p => report_quiet cfg _ _ _ s⟩
  · rename_i known
    cases pduInfo with
    | none => exact Or.inr ⟨by simp [takes], fun p => report_quiet cfg _ _ _ s⟩
    | some pdu =>
        simp only
        split
        · rename_i abnormal
          exact Or.inr ⟨by simp [takes, abnormal], fun p => report_quiet cfg _ _ _ s⟩
        · rename_i normal
          split
          · rename_i started
            have refused : ∀ answer, answer ≠ CanReturn.ok → ∀ p, Quiet p s
                (s.emit (.canTrcvWrite (cfg.loHwHandle q) q (cfg.canIdMapping q)
                  (pdu.length % 256) pdu.data answer)) := by
              intro answer notOk p
              have neutral : (Event.canTrcvWrite (cfg.loHwHandle q) q (cfg.canIdMapping q)
                  (pdu.length % 256) pdu.data answer).isNeutral p = true := by
                cases answer with
                | ok => exact absurd rfl notOk
                | notOk | busy => rfl
              exact .event neutral rfl rfl
            cases answered : env.canTrcvWrite s.log q with
            | busy =>
                exact Or.inr ⟨by simp [takes, answered], refused .busy (by decide)⟩
            | notOk =>
                exact Or.inr ⟨by simp [takes, answered], fun p =>
                  (refused .notOk (by decide) p).trans (report_quiet cfg _ _ _ _)⟩
            | ok =>
                refine Or.inl ⟨?_, _, _, _, _, rfl⟩
                have checked : (!(cfg.devErrorDetect && decide (cfg.pduMax ≤ q))) = true := by
                  rw [Bool.not_eq_true', Bool.and_eq_false_iff]
                  simpa [or_iff_not_imp_left] using known
                simp only [takes, checked, answered, started, Bool.not_eq_false] at normal ⊢
                simp [normal]
          · rename_i idle
            exact Or.inr ⟨by simp [takes, idle], fun p => .refl s⟩

section Booking
variable {allowed : Account → Note → Prop} {a : Account}

abbrev Books (p : Nat) (allowed : Account → Note → Prop) (before after : Account) (s t : State)
    (new : List Event) : Prop :=
  Extends (record p) allowed Note.event before after s.log t.log new

theorem told_allowed (completed : ∀ a q, allowed a (.completed q))
    (faked : ∀ a q, allowed a (.faked q)) (a : Account) (op : Op) :
    Traces (record p) allowed a (op.told cfg) := by
  unfold Op.told
  split
  · exact ⟨completed a _, trivial⟩
  · unfold faking
    split
    · trivial
    · split
      · exact ⟨faked a _, trivial⟩
      · trivial
  · trivial

theorem Quiet.books (quiet : Quiet p s t)
    (neutral : ∀ e : Event, e.isNeutral p = true → allowed a (.event e)) :
    ∃ new, Books p allowed a a s t new := by
  obtain ⟨new, log, ignored⟩ := quiet.log
  exact ⟨new, .ignored log fun e member =>
    ⟨neutral_record (ignored e member) a, neutral e (ignored e member)⟩⟩

theorem confirmUser_state (cfg : Config) (env : Env) (q : Nat) (s : State) :
    (confirmUser cfg env q s).pendingTxConfirm = s.pendingTxConfirm ∧
      (confirmUser cfg env q s).writing = s.writing := by
  unfold confirmUser
  simp only
  split
  · exact ⟨rfl, rfl⟩
  · split
    · split <;> exact ⟨rfl, rfl⟩
    · exact ⟨rfl, rfl⟩
  · exact ⟨rfl, rfl⟩
  · split <;> exact ⟨rfl, rfl⟩

theorem confirmUser_books (cfg : Config) (env : Env) (s : State)
    (neutral : ∀ e : Event, e.isNeutral p = true → allowed a (.event e))
    (earned : ∀ user upPduId, allowed a (.event (.txConfirmation p user upPduId))) :
    ∃ new, Books p allowed a (if listens cfg p = true then a.confirm else a) s
      (confirmUser cfg env p s) new := by
  have told : ∀ (u : State) (user : User), Books p allowed a a.confirm u
      (u.emit (.txConfirmation p user (cfg.upPduId p)))
      [.txConfirmation p user (cfg.upPduId p)] := by
    intro u user
    have booked : record p a (.event (.txConfirmation p user (cfg.upPduId p))) = a.confirm :=
      if_pos rfl
    rw [← booked]
    exact .event rfl (earned user (cfg.upPduId p))
  have silent : ∀ u : State, Books p allowed a a u u [] := fun u => .refl a u.log
  cases user : cfg.userCallbackUL p with
  | canTp =>
      simp only [confirmUser, listens, user, if_true]
      exact ⟨_, told s .canTp⟩
  | canTsyn =>
      by_cases compiled : cfg.bleTimesync = true ∧ cfg.cpuCc26xx = true
      · simp only [confirmUser, listens, user, compiled, and_self, if_true, Bool.and_self]
        split
        · have measured : ∀ latency, Books p allowed a a s
              (s.emit (.setTxConfirmationLatency (cfg.upPduId p) latency))
              [.setTxConfirmationLatency (cfg.upPduId p) latency] := by
            intro latency
            exact .event (e := Event.setTxConfirmationLatency (cfg.upPduId p) latency) rfl
              (neutral _ rfl)
          exact ⟨_, (measured _).trans (told _ .canTsyn)⟩
        · exact ⟨_, told s .canTsyn⟩
      · have deaf : (cfg.bleTimesync && cfg.cpuCc26xx) ≠ true := by simpa using compiled
        simp only [confirmUser, listens, user, if_neg compiled, if_neg deaf]
        exact ⟨_, silent s⟩
  | pduR =>
      simp only [confirmUser, listens, user, if_true]
      exact ⟨_, told s .pduR⟩
  | cdd =>
      simp only [confirmUser, listens, user]
      split
      · exact ⟨_, told s .cdd⟩
      · exact ⟨_, silent s⟩

theorem confirmUser_quiet {q : Nat} (cfg : Config) (env : Env) (other : q ≠ p) (s : State) :
    Quiet p s (confirmUser cfg env q s) := by
  have elsewhere : (q != p) = true := by simpa using other
  have told : ∀ (u : State) (user : User), Quiet p u
      (u.emit (.txConfirmation q user (cfg.upPduId q))) :=
    fun u user => .event (e := Event.txConfirmation q user (cfg.upPduId q)) elsewhere rfl rfl
  unfold confirmUser
  simp only
  split
  · exact told s _
  · split
    · split
      · have measured : ∀ latency, Quiet p s
            (s.emit (.setTxConfirmationLatency (cfg.upPduId q) latency)) :=
          fun latency => .event (e := Event.setTxConfirmationLatency _ latency) rfl rfl rfl
        exact (measured _).trans (told _ _)
      · exact told s _
    · exact .refl s
  · exact told s _
  · split
    · exact told s _
    · exact .refl s

theorem txConfirmation_cases (cfg : Config) (env : Env) (q p : Nat) (s : State) :
    Quiet p s (txConfirmation cfg env q s) ∧ (q = p → cfg.devErrorDetect = true ∧ cfg.pduMax ≤ p ∨
        s.pendingTxConfirm p = false) ∨
      q = p ∧ ¬ (cfg.devErrorDetect = true ∧ cfg.pduMax ≤ p) ∧ s.pendingTxConfirm p = true ∧
        txConfirmation cfg env q s = confirmUser cfg env p (s.setPending p false) := by
  unfold txConfirmation
  split
  · rename_i unknown
    refine Or.inl ⟨report_quiet cfg _ _ _ s, ?_⟩
    rintro rfl
    exact Or.inl unknown
  · rename_i known
    split
    · rename_i pending
      by_cases here : q = p
      · subst here
        exact Or.inr ⟨rfl, known, pending, rfl⟩
      · have cleared : Quiet p s (s.setPending q false) := by
          have kept : (s.setPending q false).pendingTxConfirm p = s.pendingTxConfirm p := by
            simp [Function.update_of_ne (Ne.symm here)]
          exact .same rfl (congrArg (·, s.writing.count p) kept)
        exact Or.inl ⟨cleared.trans (confirmUser_quiet cfg env here _),
          fun same => absurd same here⟩
    · rename_i idle
      refine Or.inl ⟨.refl s, ?_⟩
      rintro rfl
      exact Or.inr (by simpa using idle)

end Booking

def sampleConfig : Config where
  devErrorDetect := true
  bleTimesync := false
  cpuCc26xx := true
  canFdFrameMask := 0x40000000
  pduMax := 2
  numController := 1
  ctrlId := 0
  timestampFrequency := 0
  loHwHandle := id
  upPduId := fun pdu => 10 + pdu
  canIdMapping := fun pdu => if pdu = 0 then 0x700 else 0x701
  userCallbackUL := fun _ => .canTp
  userCallbackName := fun pdu => ⟨false, false, if pdu = 1 then 0 else 2⟩

def willingEnv : Env where
  voltageNormal := fun _ => true
  canTrcvWrite := fun _ _ => .ok
  currentTimeStamp := fun _ => 0
  currentTxTimeStamp := fun _ => 0

def sampleFrame : TxPdu := ⟨2, [1, 2]⟩

/-- Both halves of `CanIf_Transmit`, with no call in between. -/
def transmitFrame : List Op := [.transmitWrite 0 (some sampleFrame), .transmitReturn 0]

end AnchorNode.CanIf
