import AnchorNode.CanIf.Sent

/-! No confirmation is lost: as long as the driver has one frame of a PDU at a time, and calls
back only after it has returned, each completed frame is confirmed once. -/

namespace AnchorNode.CanIf

open AnchorNode.Lib

variable {cfg : Config} {env : Env} {s t : State} {p : Nat} {a : Account}

/-- No confirmation of the PDU is faked. -/
def Direct (cfg : Config) (p : Nat) (op : Op) : Prop := Note.faked p ∉ op.told cfg

/-- The driver takes a frame of the PDU only if it has no other one, and completes it only after
it has returned to `CanIf_Transmit`. -/
def OneByOne (cfg : Config) (env : Env) (p : Nat) (x : State × Account) : Op → Prop
  | .transmitWrite q pduInfo =>
    q = p → takes cfg env x.1 p pduInfo = true → x.2.written ≤ x.2.completed
  | .txConfirmation q => q = p → p ∉ x.1.writing
  | _ => True

/-- A confirmation is for a frame that has been completed and not been confirmed. -/
def Paid (p : Nat) (a : Account) : Note → Prop
  | .event (.txConfirmation q _ _) => q = p → a.confirmed < a.completed
  | _ => True

/-- While no call of `CanIf_Transmit` is inside the driver, all completed frames have been
confirmed, and a flag that is set waits for a frame in the driver. -/
def Settled (p : Nat) (s : State) (a : Account) : Prop :=
  p ∉ s.writing →
    a.confirmed = a.completed ∧ (s.pendingTxConfirm p = true → a.completed < a.written)

/-- The frames the driver has not completed are the ones it has not returned from and the one
the flag stands for. -/
structure Flowing (cfg : Config) (p : Nat) (s : State) (a : Account) : Prop where
  paid : a.confirmed = a.completed
  flow : a.completed + s.writing.count p + (s.pendingTxConfirm p).toNat = a.written
  one : a.written ≤ a.completed + 1
  known : a.completed < a.written → ¬ (cfg.devErrorDetect = true ∧ cfg.pduMax ≤ p)

theorem Flowing.settled (flowing : Flowing cfg p s a) : Settled p s a := by
  intro outside
  have flow := flowing.flow
  refine ⟨flowing.paid, fun pending => ?_⟩
  rw [pending] at flow
  simp only [Bool.toNat_true] at flow
  omega

def Flows (cfg : Config) (p : Nat) (a : Account) (s t : State) : Prop :=
  ∃ new after, Books p (Paid p) a after s t new ∧ Flowing cfg p t after

theorem neutral_paid {e : Event} (neutral : e.isNeutral p = true) : Paid p a (.event e) := by
  cases e with
  | txConfirmation q user upPduId =>
      have other : q ≠ p := by simpa [Event.isNeutral] using neutral
      exact fun here => absurd here other
  | canTrcvWrite _ _ _ _ _ _ | accepted _ | setTxConfirmationLatency _ _ | rxIndication _ _ _ _
  | reportError _ _ _ => trivial

theorem Quiet.flows (quiet : Quiet p s t) (flowing : Flowing cfg p s a) : Flows cfg p a s t := by
  obtain ⟨new, books⟩ := quiet.books (a := a) fun e neutral => neutral_paid neutral
  have kept : t.pendingTxConfirm p = s.pendingTxConfirm p := congrArg Prod.fst quiet.view
  have inside : t.writing.count p = s.writing.count p := congrArg Prod.snd quiet.view
  refine ⟨new, a, books, flowing.paid, ?_, flowing.one, flowing.known⟩
  rw [kept, inside]
  exact flowing.flow

theorem Flows.quiet {u : State} (flows : Flows cfg p a s t) (quiet : Quiet p t u) :
    Flows cfg p a s u := by
  obtain ⟨first, after, books, flowing⟩ := flows
  obtain ⟨second, final, books', flowing'⟩ := Quiet.flows quiet flowing
  exact ⟨first ++ second, final, books.trans books', flowing'⟩

theorem transmitWrite_flows {q : Nat} {pduInfo : Option TxPdu} (flowing : Flowing cfg p s a)
    (single : OneByOne cfg env p (s, a) (.transmitWrite q pduInfo)) :
    Flows cfg p a s (transmitWrite cfg env q pduInfo s) := by
  rcases transmitWrite_cases cfg env q pduInfo s with taken | refused
  · obtain ⟨takes, handle, canId, length, data, result⟩ := taken
    rw [result]
    refine ⟨[.canTrcvWrite handle q canId length data .ok], _, .event rfl trivial, ?_⟩
    by_cases here : q = p
    · subst here
      have known : ¬ (cfg.devErrorDetect = true ∧ cfg.pduMax ≤ q) := takes_known takes
      have empty : a.written ≤ a.completed := single rfl takes
      have flow := flowing.flow
      rw [record, if_pos rfl]
      constructor
      · exact flowing.paid
      · simp only [State.emit_pendingTxConfirm, List.count_cons_self, Account.write]
        omega
      · exact Nat.succ_le_succ empty
      · exact fun _ => known
    · rw [record, if_neg here]
      constructor
      · exact flowing.paid
      · simp only [State.emit_pendingTxConfirm, List.count_cons_of_ne here]
        exact flowing.flow
      · exact flowing.one
      · exact flowing.known
  · exact Quiet.flows (refused.2 p) flowing

theorem transmitReturn_flows {q : Nat} (flowing : Flowing cfg p s a) :
    Flows cfg p a s (transmitReturn q s) := by
  by_cases here : q = p
  · subst here
    unfold transmitReturn
    split
    · rename_i inside
      have counted : 0 < s.writing.count q := List.count_pos_iff.mpr inside
      have flow := flowing.flow
      have one := flowing.one
      refine ⟨[.accepted q], a.accept, ?_, flowing.paid, ?_, one, flowing.known⟩
      · have booked : record q a (.event (.accepted q)) = a.accept := if_pos rfl
        rw [← booked]
        exact .event rfl trivial
      · simp only [State.emit_writing, State.setPending_writing, State.emit_pendingTxConfirm,
          State.setPending_pendingTxConfirm, Function.update_self, List.count_erase_self,
          Bool.toNat_true, Account.accept]
        omega
    · have same : Quiet q s s := .refl s
      exact same.flows flowing
  · exact Quiet.flows (transmitReturn_quiet here s) flowing

theorem txConfirmation_flows {q : Nat} (listening : listens cfg p = true)
    (flowing : Flowing cfg p s a) (honest : Honest p (s, a) (.txConfirmation q))
    (single : OneByOne cfg env p (s, a) (.txConfirmation q)) :
    Flows cfg p (record p a (.completed q)) s (txConfirmation cfg env q s) := by
  rcases txConfirmation_cases cfg env q p s with quiet | told
  · obtain ⟨quiet, idle⟩ := quiet
    by_cases here : q = p
    · have waiting : a.completed < a.written := honest here
      have outside : s.writing.count p = 0 := List.count_eq_zero.mpr (single here)
      have flow := flowing.flow
      rcases idle here with unknown | idle
      · exact absurd unknown (flowing.known waiting)
      · rw [idle, outside] at flow
        simp only [Bool.toNat_false] at flow
        omega
    · rw [record, if_neg here]
      exact Quiet.flows quiet flowing
  · obtain ⟨here, known, pending, result⟩ := told
    have flow := flowing.flow
    have one := flowing.one
    have paid := flowing.paid
    have books : ∃ new, Books p (Paid p) a.complete
        (if listens cfg p = true then a.complete.confirm else a.complete) (s.setPending p false)
        (confirmUser cfg env p (s.setPending p false)) new :=
      confirmUser_books cfg env _ (fun e neutral => neutral_paid neutral)
        fun user upPduId _ => Nat.lt_succ_of_le (Nat.le_of_eq paid)
    obtain ⟨new, books⟩ := books
    obtain ⟨flags, inside⟩ := confirmUser_state cfg env p (s.setPending p false)
    rw [if_pos listening] at books
    rw [record, if_pos here, result]
    refine ⟨new, _, books, ?_, ?_, ?_, ?_⟩
    · exact congrArg Nat.succ paid
    · rw [flags, inside]
      rw [pending] at flow
      simp only [State.setPending_pendingTxConfirm, State.setPending_writing,
        Function.update_self, Bool.toNat_false, Bool.toNat_true, Account.complete,
        Account.confirm] at flow ⊢
      omega
    · simp only [Account.complete, Account.confirm]
      omega
    · exact fun _ => known

theorem txConfirmation_quiet {q : Nat} (cfg : Config) (env : Env) (other : q ≠ p) (s : State) :
    Quiet p s (txConfirmation cfg env q s) := by
  rcases txConfirmation_cases cfg env q p s with quiet | told
  · exact quiet.1
  · exact absurd told.1 other

theorem rxIndication_flows {mailbox : Option UInt32} {pduInfo : Option RxPdu}
    (flowing : Flowing cfg p s a) (direct : Direct cfg p (.rxIndication mailbox pduInfo)) :
    Flows cfg p (((Op.rxIndication mailbox pduInfo).told cfg).foldl (record p) a) s
      (rxIndication cfg env mailbox pduInfo s) := by
  have same : Quiet p s s := .refl s
  have reported := report_quiet (p := p) cfg 0 .rxIndication .paramPointer s
  cases mailbox with
  | none => exact Quiet.flows reported flowing
  | some canId =>
      cases pduInfo with
      | none => exact Quiet.flows reported flowing
      | some frame =>
          simp only [rxIndication, Op.told, faking, Direct] at direct ⊢
          cases found : getPduId cfg canId with
          | none => exact same.flows flowing
          | some pdu =>
              simp only [found] at direct ⊢
              split
              · rename_i fakes
                have other : (cfg.userCallbackName pdu).fakeTxConfirmPduId ≠ p := by
                  intro here
                  rw [here] at fakes
                  simp only [here, fakes, if_true, List.mem_singleton, not_true] at direct
                rw [List.foldl_cons, List.foldl_nil, record, if_neg other]
                apply Flows.quiet _ (indicateUser_quiet cfg env pdu frame _)
                exact Quiet.flows (txConfirmation_quiet cfg env other s) flowing
              · exact Quiet.flows (indicateUser_quiet cfg env pdu frame s) flowing

theorem step_flows {op : Op} (listening : listens cfg p = true) (flowing : Flowing cfg p s a)
    (honest : Honest p (s, a) op) (direct : Direct cfg p op)
    (single : OneByOne cfg env p (s, a) op) :
    Flows cfg p ((op.told cfg).foldl (record p) a) s (step cfg env s op) := by
  cases op with
  | transmitWrite q pduInfo => exact transmitWrite_flows flowing single
  | transmitReturn q => exact transmitReturn_flows flowing
  | txConfirmation q => exact txConfirmation_flows listening flowing honest single
  | rxIndication mailbox pduInfo => exact rxIndication_flows flowing direct
  | controllerModeIndication controllerId mode =>
      exact Quiet.flows (controllerModeIndication_quiet cfg controllerId mode s) flowing

theorem notes_flow {op : Op} (listening : listens cfg p = true) (flowing : Flowing cfg p s a)
    (honest : Honest p (s, a) op) (direct : Direct cfg p op)
    (single : OneByOne cfg env p (s, a) op) :
    Traces (record p) (Paid p) a ((interface cfg env).notes s op) ∧
      Flowing cfg p (step cfg env s op)
        (((interface cfg env).notes s op).foldl (record p) a) := by
  obtain ⟨new, after, books, flowing'⟩ := step_flows listening flowing honest direct single
  obtain ⟨paid, seen⟩ := System.notes_extends (m := interface cfg env)
    (told_allowed (fun _ _ => trivial) (fun _ _ => trivial) a op) books
  rw [seen]
  exact ⟨paid, flowing'⟩

/-- Frames of a PDU that the driver takes one by one, and completes after it has returned, are
confirmed once each, and no flag is left behind. -/
theorem confirmations_complete (cfg : Config) (env : Env) (p : Nat)
    (listening : listens cfg p = true) (ops : List Op)
    (guarded : Guarded ((interface cfg env).watch (record p))
      (fun x op => (Honest p x op ∧ Direct cfg p op) ∧ OneByOne cfg env p x op)
      (initial, .start) ops) :
    Traces (record p) (Paid p) .start ((interface cfg env).chronicle initial ops) ∧
      Settled p (run (step cfg env) initial ops)
        (((interface cfg env).chronicle initial ops).foldl (record p) .start) := by
  have start : Flowing cfg p initial .start := by
    constructor
    · rfl
    · rfl
    · exact Nat.zero_le 1
    · intro waiting
      exact absurd waiting (Nat.lt_irrefl 0)
  obtain ⟨paid, flowing⟩ := System.chronicle_guarded (m := interface cfg env)
    (fun _ _ _ flowing ok => notes_flow listening flowing ok.1.1 ok.1.2 ok.2) ops guarded start
  exact ⟨paid, flowing.settled⟩

section Instances
variable (cfg : Config) (env : Env) (p : Nat)

instance (op : Op) : Decidable (Direct cfg p op) :=
  inferInstanceAs (Decidable (Note.faked p ∉ op.told cfg))

instance (x : State × Account) : (op : Op) → Decidable (OneByOne cfg env p x op)
  | .transmitWrite q _ => inferInstanceAs (Decidable (q = p → _ → _))
  | .txConfirmation q => inferInstanceAs (Decidable (q = p → _))
  | .transmitReturn _ => inferInstanceAs (Decidable True)
  | .rxIndication _ _ => inferInstanceAs (Decidable True)
  | .controllerModeIndication _ _ => inferInstanceAs (Decidable True)

instance (s : State) (a : Account) : Decidable (Settled p s a) :=
  inferInstanceAs (Decidable (p ∉ s.writing → _))

end Instances

def completedLater : List Op :=
  .controllerModeIndication 0 .started :: transmitFrame ++ [.txConfirmation 0] ++
    transmitFrame ++ [.txConfirmation 0]

theorem confirmations_complete_later :
    Traces (record 0) (Paid 0) .start
        ((interface sampleConfig willingEnv).chronicle initial completedLater) ∧
      Settled 0 (run (step sampleConfig willingEnv) initial completedLater)
        (((interface sampleConfig willingEnv).chronicle initial completedLater).foldl (record 0)
          .start) :=
  confirmations_complete sampleConfig willingEnv 0 (by decide) _ (by decide)

def completedInside : List Op :=
  [.controllerModeIndication 0 .started, .transmitWrite 0 (some sampleFrame), .txConfirmation 0,
    .transmitReturn 0]

def completedTogether : List Op :=
  .controllerModeIndication 0 .started :: transmitFrame ++ transmitFrame ++
    [.txConfirmation 0, .txConfirmation 0]

/-- The confirmation that comes before the driver returns is lost, and its flag is left behind;
of two frames that are in the driver only one is confirmed. -/
theorem early_completion_lost :
    Guarded ((interface sampleConfig willingEnv).watch (record 0)) (Honest 0) (initial, .start)
        completedInside ∧
      ¬ Settled 0 (run (step sampleConfig willingEnv) initial completedInside)
        (((interface sampleConfig willingEnv).chronicle initial completedInside).foldl (record 0)
          .start) ∧
      Guarded ((interface sampleConfig willingEnv).watch (record 0)) (Honest 0) (initial, .start)
        completedTogether ∧
      ¬ Settled 0 (run (step sampleConfig willingEnv) initial completedTogether)
        (((interface sampleConfig willingEnv).chronicle initial completedTogether).foldl
          (record 0) .start) := by
  decide

end AnchorNode.CanIf
