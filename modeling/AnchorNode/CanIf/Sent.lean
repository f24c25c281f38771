import AnchorNode.CanIf.Accounts

/-! Confirmations of what was really sent: real and faked confirmations of a PDU meet in one
flag, and do not mix as long as no frame with a faked confirmation is left in the driver when
the next one is accepted. -/

namespace AnchorNode.CanIf

open AnchorNode.Lib

variable {cfg : Config} {env : Env} {s t : State} {p : Nat} {a : Account}

/-- The next confirmation is for an accepted call, and its frame has been completed or a
confirmation was faked after it was accepted. -/
def Earned (p : Nat) (a : Account) : Note → Prop
  | .event (.txConfirmation q _ _) => q = p → a.confirmed < a.accepted ∧
      (a.confirmed < a.completed ∨ a.confirmed < a.covered)
  | _ => True

/-- A call of `CanIf_Transmit` is accepted only while every confirmation of the PDU belongs to
a frame that the driver has completed. -/
def NoneFaked (p : Nat) (x : State × Account) : Op → Prop
  | .transmitReturn q => q = p → p ∈ x.1.writing → x.2.confirmed ≤ x.2.completed
  | _ => True

/-- A flag that is set waits for a frame none of whose predecessors is still in the driver with
a confirmation already given. -/
structure Credited (p : Nat) (s : State) (a : Account) : Prop where
  most : a.confirmed ≤ a.accepted
  waiting : s.pendingTxConfirm p = true → a.confirmed ≤ a.completed ∧ a.confirmed < a.accepted

def Credits (p : Nat) (a : Account) (s t : State) : Prop :=
  ∃ new after, Books p (Earned p) a after s t new ∧ Credited p t after

theorem neutral_earned {e : Event} (neutral : e.isNeutral p = true) : Earned p a (.event e) := by
  cases e with
  | txConfirmation q user upPduId =>
      have other : q ≠ p := by simpa [Event.isNeutral] using neutral
      exact fun here => absurd here other
  | canTrcvWrite _ _ _ _ _ _ | accepted _ | setTxConfirmationLatency _ _ | rxIndication _ _ _ _
  | reportError _ _ _ => trivial

theorem Quiet.credits (quiet : Quiet p s t) (credited : Credited p s a) : Credits p a s t := by
  obtain ⟨new, books⟩ := quiet.books (a := a) fun e neutral => neutral_earned neutral
  have kept : t.pendingTxConfirm p = s.pendingTxConfirm p := congrArg Prod.fst quiet.view
  refine ⟨new, a, books, credited.most, ?_⟩
  rw [kept]
  exact credited.waiting

theorem Credits.quiet {u : State} (credits : Credits p a s t) (quiet : Quiet p t u) :
    Credits p a s u := by
  obtain ⟨first, after, books, credited⟩ := credits
  obtain ⟨second, final, books', credited'⟩ := Quiet.credits quiet credited
  exact ⟨first ++ second, final, books.trans books', credited'⟩

theorem transmitWrite_credits (cfg : Config) (env : Env) (q : Nat) (pduInfo : Option TxPdu)
    (credited : Credited p s a) : Credits p a s (transmitWrite cfg env q pduInfo s) := by
  rcases transmitWrite_cases cfg env q pduInfo s with taken | refused
  · obtain ⟨_, handle, canId, length, data, result⟩ := taken
    rw [result]
    refine ⟨[.canTrcvWrite handle q canId length data .ok], _, .event rfl trivial, ?_⟩
    by_cases here : q = p
    · rw [record, if_pos here]
      exact ⟨credited.most, credited.waiting⟩
    · rw [record, if_neg here]
      exact ⟨credited.most, credited.waiting⟩
  · exact Quiet.credits (refused.2 p) credited

theorem transmitReturn_credits {q : Nat} (unfaked : NoneFaked p (s, a) (.transmitReturn q))
    (credited : Credited p s a) : Credits p a s (transmitReturn q s) := by
  by_cases here : q = p
  · subst here
    unfold transmitReturn
    split
    · rename_i inside
      refine ⟨[.accepted q], a.accept, ?_, ?_⟩
      · have booked : record q a (.event (.accepted q)) = a.accept := if_pos rfl
        rw [← booked]
        exact .event rfl trivial
      · have most := credited.most
        constructor
        · exact Nat.le_succ_of_le most
        · intro _
          exact ⟨unfaked rfl inside, Nat.lt_succ_of_le most⟩
    · have same : Quiet q s s := .refl s
      exact same.credits credited
  · exact Quiet.credits (transmitReturn_quiet here s) credited

theorem txConfirmation_credits {q : Nat} (cfg : Config) (env : Env) (credited : Credited p s a)
    (earned : q = p → s.pendingTxConfirm p = true →
      a.confirmed < a.completed ∨ a.confirmed < a.covered) :
    Credits p a s (txConfirmation cfg env q s) := by
  rcases txConfirmation_cases cfg env q p s with quiet | told
  · exact Quiet.credits quiet.1 credited
  · obtain ⟨here, _, pending, result⟩ := told
    have accepted := (credited.waiting pending).2
    have books : ∃ new, Books p (Earned p) a
        (if listens cfg p = true then a.confirm else a) (s.setPending p false)
        (confirmUser cfg env p (s.setPending p false)) new :=
      confirmUser_books cfg env _ (fun e neutral => neutral_earned neutral)
        fun user upPduId _ => ⟨accepted, earned here pending⟩
    obtain ⟨new, books⟩ := books
    have cleared : (confirmUser cfg env p (s.setPending p false)).pendingTxConfirm p = false := by
      rw [(confirmUser_state cfg env p (s.setPending p false)).1]
      simp
    rw [result]
    refine ⟨new, _, books, ?_, ?_⟩
    · split
      · exact accepted
      · exact credited.most
    · intro pending
      rw [cleared] at pending
      exact absurd pending Bool.false_ne_true

theorem rxIndication_credits (cfg : Config) (env : Env) (mailbox : Option UInt32)
    (pduInfo : Option RxPdu) (credited : Credited p s a) :
    Credits p (((Op.rxIndication mailbox pduInfo).told cfg).foldl (record p) a) s
      (rxIndication cfg env mailbox pduInfo s) := by
  have same : Quiet p s s := .refl s
  have reported := report_quiet (p := p) cfg 0 .rxIndication .paramPointer s
  cases mailbox with
  | none => exact Quiet.credits reported credited
  | some canId =>
      cases pduInfo with
      | none => exact Quiet.credits reported credited
      | some frame =>
          simp only [rxIndication, Op.told, faking]
          cases getPduId cfg canId with
          | none => exact same.credits credited
          | some pdu =>
              simp only
              split
              · rename_i fakes
                rw [List.foldl_cons, List.foldl_nil, record]
                apply Credits.quiet _ (indicateUser_quiet cfg env pdu frame _)
                apply txConfirmation_credits cfg env
                · split
                  · exact ⟨credited.most, credited.waiting⟩
                  · exact credited
                · intro here pending
                  rw [if_pos here]
                  exact Or.inr (credited.waiting pending).2
              · exact Quiet.credits (indicateUser_quiet cfg env pdu frame s) credited

theorem step_credits {op : Op} (unfaked : NoneFaked p (s, a) op) (credited : Credited p s a) :
    Credits p ((op.told cfg).foldl (record p) a) s (step cfg env s op) := by
  cases op with
  | transmitWrite q pduInfo => exact transmitWrite_credits cfg env q pduInfo credited
  | transmitReturn q => exact transmitReturn_credits unfaked credited
  | txConfirmation q =>
      rw [Op.told, List.foldl_cons, List.foldl_nil, record]
      apply txConfirmation_credits cfg env
      · split
        · exact ⟨credited.most, fun pending => ⟨Nat.le_succ_of_le (credited.waiting pending).1,
            (credited.waiting pending).2⟩⟩
        · exact credited
      · intro here pending
        rw [if_pos here]
        exact Or.inl (Nat.lt_succ_of_le (credited.waiting pending).1)
  | rxIndication mailbox pduInfo => exact rxIndication_credits cfg env mailbox pduInfo credited
  | controllerModeIndication controllerId mode =>
      exact Quiet.credits (controllerModeIndication_quiet cfg controllerId mode s) credited

theorem notes_credited {op : Op} (credited : Credited p s a)
    (unfaked : NoneFaked p (s, a) op) :
    Traces (record p) (Earned p) a ((interface cfg env).notes s op) ∧
      Credited p (step cfg env s op) (((interface cfg env).notes s op).foldl (record p) a) := by
  have credits : Credits p ((op.told cfg).foldl (record p) a) s (step cfg env s op) :=
    step_credits unfaked credited
  obtain ⟨new, after, books, credited'⟩ := credits
  obtain ⟨earned, seen⟩ := System.notes_extends (m := interface cfg env)
    (told_allowed (fun _ _ => trivial) (fun _ _ => trivial) a op) books
  rw [seen]
  exact ⟨earned, credited'⟩

/-- As long as no frame with a faked confirmation is still in the driver when the next one is
accepted, a confirmation goes only to a frame that was sent or faked. -/
theorem confirmations_sent (cfg : Config) (env : Env) (p : Nat) (ops : List Op)
    (guarded : Guarded ((interface cfg env).watch (record p)) (NoneFaked p) (initial, .start)
      ops) :
    Traces (record p) (Earned p) .start ((interface cfg env).chronicle initial ops) := by
  have start : Credited p initial .start := by
    constructor
    · exact Nat.le_refl 0
    · intro pending
      exact absurd pending Bool.false_ne_true
  exact (System.chronicle_guarded (m := interface cfg env)
    (fun _ _ _ credited unfaked => notes_credited credited unfaked) ops guarded start).1

instance (p : Nat) (x : State × Account) : (op : Op) → Decidable (NoneFaked p x op)
  | .transmitReturn q => inferInstanceAs (Decidable (q = p → _))
  | .transmitWrite _ _ => inferInstanceAs (Decidable True)
  | .txConfirmation _ => inferInstanceAs (Decidable True)
  | .rxIndication _ _ => inferInstanceAs (Decidable True)
  | .controllerModeIndication _ _ => inferInstanceAs (Decidable True)

instance (p : Nat) (a : Account) : (n : Note) → Decidable (Earned p a n)
  | .event (.txConfirmation q _ _) => inferInstanceAs (Decidable (q = p → _))
  | .event (.canTrcvWrite _ _ _ _ _ _) => inferInstanceAs (Decidable True)
  | .event (.accepted _) => inferInstanceAs (Decidable True)
  | .event (.setTxConfirmationLatency _ _) => inferInstanceAs (Decidable True)
  | .event (.rxIndication _ _ _ _) => inferInstanceAs (Decidable True)
  | .event (.reportError _ _ _) => inferInstanceAs (Decidable True)
  | .completed _ => inferInstanceAs (Decidable True)
  | .faked _ => inferInstanceAs (Decidable True)

def fakedThenCompleted : List Op :=
  .controllerModeIndication 0 .started :: transmitFrame ++
    [.rxIndication (some 0x701) (some ⟨[0x30], 0⟩), .txConfirmation 0] ++ transmitFrame ++
    [.txConfirmation 0]

theorem confirmations_sent_faked :
    Traces (record 0) (Earned 0) .start
      ((interface sampleConfig willingEnv).chronicle initial fakedThenCompleted) :=
  confirmations_sent sampleConfig willingEnv 0 _ (by decide)

def fakedThenReplaced : List Op :=
  .controllerModeIndication 0 .started :: transmitFrame ++
    [.rxIndication (some 0x701) (some ⟨[0x30], 0⟩)] ++ transmitFrame ++ [.txConfirmation 0]

theorem late_confirmation_credited :
    Guarded ((interface sampleConfig willingEnv).watch (record 0)) (Honest 0) (initial, .start)
        fakedThenReplaced ∧
      ¬ Traces (record 0) (Earned 0) .start
        ((interface sampleConfig willingEnv).chronicle initial fakedThenReplaced) := by
  decide

end AnchorNode.CanIf
