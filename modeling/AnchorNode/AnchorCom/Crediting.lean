import AnchorNode.AnchorCom.TxRuns

/-! Whose transmission a confirmation confirms. The lower layer confirms every transmission it
has accepted once, but arbitrarily late, and the code matches the confirmation with the front
entry through one flag for each channel and peer. -/

namespace AnchorNode.AnchorCom.Tx

open AnchorNode.Lib

variable {cfg : Config} {env : Env} {s t : State}

section InFlight

def trackFlight (flight : List (Nat × Nat × Nat)) : Event → List (Nat × Nat × Nat)
  | .request k c i _ => (k, c, i) :: flight
  | .answered k c i .notOk => flight.erase (k, c, i)
  | .confirmed k c i _ => flight.erase (k, c, i)
  | _ => flight

def inFlight (log : List Event) : List (Nat × Nat × Nat) := log.foldl trackFlight []

theorem inFlight_append (log : List Event) (e : Event) :
    inFlight (log ++ [e]) = trackFlight (inFlight log) e := by
  simp [inFlight]

def Event.isRequest : Event → Bool
  | .request _ _ _ _ => true
  | _ => false

theorem inFlight_shrinks (log : List Event) {events : List Event}
    (none : ∀ e ∈ events, e.isRequest = false) {f : Nat × Nat × Nat}
    (member : f ∈ inFlight (log ++ events)) : f ∈ inFlight log := by
  induction events generalizing log with
  | nil => simpa using member
  | cons e es ih =>
      rw [List.append_cons] at member
      have later := ih (log ++ [e]) (fun e rest => none e (by simp [rest])) member
      rw [inFlight_append] at later
      cases e with
      | request => cases none _ (List.mem_cons_self)
      | answered k c i result =>
          cases result with
          | ok => exact later
          | notOk => exact List.mem_of_mem_erase later
      | confirmed => exact List.mem_of_mem_erase later
      | _ => exact later

end InFlight

def Core.flag (s : Core) (c i : Nat) : Bool := (s.chTxInfo c i).txInProgress

def isImcIndex (cfg : Config) (i : Nat) : Prop := cfg.masterHasRf = true ∧ i = cfg.maxNodes + 1

/-- The flag of a peer is set on the channel of its front entry only, it stands for the
transmission of that entry, and it is cleared once the entry is done. -/
structure TrackedAt (cfg : Config) (s : Core) (i : Nat) : Prop where
  progress : ∀ c < cfg.tpChMax, s.flag c i = true → isImcIndex cfg i ∨
    (s.queue i).isEmpty = false ∧ (s.front i).channel = c
  owner : ∀ c < cfg.tpChMax, ∀ k, (k, c, i) ∈ inFlight s.log → s.flag c i = true →
    (s.queue i).isEmpty = false → (s.front i).ticket = k
  done : (s.queue i).isEmpty = false → (s.front i).queueState = .transDone →
    ∀ c < cfg.tpChMax, s.flag c i = false
  imc : isImcIndex cfg i → (s.queue i).isEmpty = true

def Tracked (cfg : Config) (s : Core) : Prop := ∀ i < cfg.numLlTx, TrackedAt cfg s i

section Carry
variable {s t : Core} {i : Nat}

structure Quieter (s t : Core) (i : Nat) : Prop where
  flags : ∀ c, t.flag c i = true → s.flag c i = true
  flight : ∀ k c, (k, c, i) ∈ inFlight t.log → (k, c, i) ∈ inFlight s.log

theorem TrackedAt.kept (tracked : TrackedAt cfg s i) (quieter : Quieter s t i)
    (queue : t.queue i = s.queue i) : TrackedAt cfg t i := by
  have front : t.front i = s.front i := by rw [Core.front, Core.front, queue]
  refine ⟨?_, ?_, ?_, ?_⟩
  · intro c bound set
    rw [queue, front]
    exact tracked.progress c bound (quieter.flags c set)
  · intro c bound k flight set filled
    rw [front]
    rw [queue] at filled
    exact tracked.owner c bound k (quieter.flight k c flight) (quieter.flags c set) filled
  · intro filled state c bound
    rw [queue] at filled
    rw [front] at state
    have clear := tracked.done filled state c bound
    rw [← Bool.not_eq_true] at clear ⊢
    exact fun set => clear (quieter.flags c set)
  · rw [queue]
    exact tracked.imc

theorem TrackedAt.replaced (tracked : TrackedAt cfg s i) (quieter : Quieter s t i) {e : Entry}
    (filled : (s.queue i).isEmpty = false)
    (queue : t.queue i = (s.queue i).set (s.queue i).head e) (key : e.key = (s.front i).key)
    (state : e.queueState = .transDone → (s.front i).queueState = .transDone ∨
      ∀ c < cfg.tpChMax, t.flag c i = false) : TrackedAt cfg t i := by
  have front : t.front i = e := by simp [Core.front, queue, Ring.front]
  have filled' : (t.queue i).isEmpty = false := by simp [queue, filled]
  obtain ⟨_, _, channel, ticket⟩ : e.msgIdx = (s.front i).msgIdx ∧
      e.anchorId = (s.front i).anchorId ∧ e.channel = (s.front i).channel ∧
      e.ticket = (s.front i).ticket := by
    simpa [Entry.key] using key
  refine ⟨?_, ?_, ?_, ?_⟩
  · intro c bound set
    rw [front, channel]
    rcases tracked.progress c bound (quieter.flags c set) with imc | ⟨_, own⟩
    · exact Or.inl imc
    · exact Or.inr ⟨filled', own⟩
  · intro c bound k flight set _
    rw [front, ticket]
    exact tracked.owner c bound k (quieter.flight k c flight) (quieter.flags c set) filled
  · intro _ done c bound
    rw [front] at done
    rcases state done with before | clear
    · have clear := tracked.done filled before c bound
      rw [← Bool.not_eq_true] at clear ⊢
      exact fun set => clear (quieter.flags c set)
    · exact clear c bound
  · intro imc
    rw [tracked.imc imc] at filled
    cases filled

theorem TrackedAt.popped (tracked : TrackedAt cfg s i) (filled : (s.queue i).isEmpty = false)
    (clear : ∀ c < cfg.tpChMax, t.flag c i = false) : TrackedAt cfg t i := by
  refine ⟨?_, ?_, ?_, ?_⟩
  · intro c bound set
    rw [clear c bound] at set
    cases set
  · intro c bound k _ set
    rw [clear c bound] at set
    cases set
  · exact fun _ _ => clear
  · intro imc
    rw [tracked.imc imc] at filled
    cases filled

theorem TrackedAt.channel (tracked : TrackedAt cfg s i) (filled : (s.queue i).isEmpty = false)
    {c : Nat} (bound : c < cfg.tpChMax) (set : s.flag c i = true) : (s.front i).channel = c := by
  rcases tracked.progress c bound set with imc | ⟨_, own⟩
  · rw [tracked.imc imc] at filled
    cases filled
  · exact own

theorem TrackedAt.others (tracked : TrackedAt cfg s i) (filled : (s.queue i).isEmpty = false)
    {c : Nat} (bound : c < cfg.tpChMax) (other : c ≠ (s.front i).channel) : s.flag c i = false := by
  cases set : s.flag c i with
  | false => rfl
  | true => exact absurd (tracked.channel filled bound set).symm other

end Carry

section Conditions

def requesting (s : State) : Op → Option Nat
  | .resume =>
    match s.task with
    | some ⟨i, .request, _⟩ =>
      if s.txHeadPtr.isSome ∧ (s.front i).queueState = .transReady then some i else none
    | _ => none
  | _ => none

/-- The channel and peer for which a step takes the last byte of a message, on the build that
does not wait for the confirmation. -/
def finishing (cfg : Config) (s : State) : Op → Option (Nat × Nat)
  | .copyTxData id (some args) =>
    (findByLLPdu cfg id cfg.lowerTxCbPdu cfg.numLlTx).filter fun p =>
      args.hasBuffer && copyFinishes cfg s.toCore id p.1 p.2 args
  | _ => none

def confirming (cfg : Config) : Op → Option (Nat × Nat × Nat)
  | .tpTxConfirmation k id _ =>
    (findByLLPdu cfg id cfg.lowerTxCbPdu cfg.numLlTx).map fun p => (k, p.1, p.2)
  | _ => none

/-- The lower layer confirms only what it has accepted, and that once. -/
def Honest (cfg : Config) (s : State) (op : Op) : Prop :=
  ∀ f, confirming cfg op = some f → f ∈ inFlight s.log

/-- A transmission is started when the lower layer owes no confirmation of another request on
the same channel and peer; the last byte is taken only in a transmission; and no request is
stored under the index of the broadcast to the other MCU. -/
def InTurn (cfg : Config) (s : State) (op : Op) : Prop :=
  (∀ i, requesting s op = some i → ∀ f ∈ inFlight s.log,
    f.2 = ((s.front i).channel, i) → f.1 = (s.front i).ticket) ∧
  (∀ p, finishing cfg s op = some p → s.flag p.1 p.2 = true) ∧
  ∀ r, storing cfg s op = some r → ¬ isImcIndex cfg (otherEndIdxToUse cfg r.2 r.1.otherEndIdx)

instance (i : Nat) : Decidable (isImcIndex cfg i) := inferInstanceAs (Decidable (_ ∧ _))

instance (s : State) (op : Op) : Decidable (Honest cfg s op) :=
  inferInstanceAs (Decidable (∀ f, confirming cfg op = some f → _))

instance (s : State) (op : Op) : Decidable (InTurn cfg s op) :=
  inferInstanceAs (Decidable ((∀ i, requesting s op = some i → _) ∧
    (∀ p, finishing cfg s op = some p → _) ∧ ∀ r, storing cfg s op = some r → _))

/-- The steps of a run with an honest lower layer and the transmissions in turn. -/
def Proper (cfg : Config) (s : State) (op : Op) : Prop := Honest cfg s op ∧ InTurn cfg s op

instance (s : State) (op : Op) : Decidable (Proper cfg s op) := inferInstanceAs (Decidable (_ ∧ _))

end Conditions

section Moves

theorem Quieter.of_log (events : List Event) {s t : Core} {i : Nat}
    (flags : ∀ c, t.flag c i = true → s.flag c i = true) (log : t.log = s.log ++ events)
    (none : ∀ e ∈ events, e.isRequest = false) : Quieter s t i := by
  refine ⟨flags, ?_⟩
  intro k c member
  rw [log] at member
  exact inFlight_shrinks s.log none member

theorem Quieter.still (events : List Event) {u : Core} (becomes : t.toCore = u)
    (channels : u.chTxInfo = s.chTxInfo) (log : u.log = s.log ++ events)
    (none : ∀ e ∈ events, e.isRequest = false) (i : Nat) : Quieter s.toCore t.toCore i := by
  apply Quieter.of_log events _ (becomes ▸ log) none
  intro c set
  rw [becomes, Core.flag, channels] at set
  exact set

theorem Quieter.clears (events : List Event) {c q : Nat} {b : Bool}
    (flags : ∀ d i, t.flag d i = if d = c ∧ i = q then b else s.flag d i)
    (set : b = true → s.flag c q = true) (log : t.log = s.log ++ events)
    (none : ∀ e ∈ events, e.isRequest = false) (i : Nat) : Quieter s.toCore t.toCore i := by
  apply Quieter.of_log events _ log none
  intro d now
  rw [flags] at now
  split at now
  · rename_i here
    obtain ⟨rfl, rfl⟩ := here
    exact set now
  · exact now

theorem setCh_flag (s : State) (c i : Nat) (ch : ChTxInfo) (c' i' : Nat) :
    (s.setCh c i ch).flag c' i' = if c' = c ∧ i' = i then ch.txInProgress else s.flag c' i' := by
  unfold Core.flag
  by_cases channels : c' = c
  · subst channels
    by_cases peers : i' = i
    · subst peers
      simp
    · simp [peers]
  · simp [channels]

theorem Work.undone {log : List Event} {i : Nat} {e e' : Entry} {buf buf' : Mem} {len len' : Nat}
    {events : List Event} (work : Work cfg env log i e buf len e' buf' len' events) :
    e'.queueState ≠ .transDone ∧ ∀ e ∈ events, e.isRequest = false := by
  cases work with
  | unfresh queued => simp [queued]
  | formatted fresh truncFresh queued =>
      constructor
      · simp only [formatEntry]
        split <;> simp
      · intro e member
        simp only [formatWrites, List.mem_append, List.mem_singleton] at member
        rcases member with ((first | padding) | last) | rfl
        · simp only [List.mem_cons, List.not_mem_nil, or_false] at first
          rcases first with rfl | rfl <;> rfl
        · split at padding
          · split at padding
            · simp only [List.mem_cons, List.not_mem_nil, or_false] at padding
              rcases padding with rfl | rfl | rfl <;> rfl
            · simp only [List.mem_cons, List.not_mem_nil, or_false] at padding
              rcases padding with rfl | rfl <;> rfl
          · cases padding
        · rw [last]
          rfl
        · rfl
  | encrypted payload fresh cipher answer ready =>
      constructor
      · generalize answer.1 = result
        cases result <;> simp [encryptionResult, ready]
      · simp [Event.isRequest]
  | unauthenticated data cmac answer e' ready whole said read failed =>
      constructor
      · rcases failed with ⟨_, rfl⟩ | ⟨_, rfl⟩ | ⟨_, rfl⟩ <;> simp [ready]
      · simp [Event.isRequest]
  | sealed => simp [Event.isRequest]

theorem Tracked.replaced (tracked : Tracked cfg s.toCore) {q : Nat} {e : Entry}
    (filled : (s.queue q).isEmpty = false)
    (queue : t.queue = Function.update s.queue q ((s.queue q).set (s.queue q).head e))
    (key : e.key = (s.front q).key) (quieter : ∀ i, Quieter s.toCore t.toCore i)
    (state : e.queueState = .transDone → (s.front q).queueState = .transDone ∨
      ∀ c < cfg.tpChMax, t.flag c q = false) : Tracked cfg t.toCore := by
  intro i bound
  by_cases here : i = q
  · subst here
    exact (tracked i bound).replaced (quieter i) filled (by rw [queue, Function.update_self]) key
      state
  · exact (tracked i bound).kept (quieter i) (by rw [queue, Function.update_of_ne here])

theorem Tracked.popped (tracked : Tracked cfg s.toCore) {q : Nat}
    (filled : (s.queue q).isEmpty = false)
    (queue : t.queue = Function.update s.queue q (s.queue q).pop)
    (quieter : ∀ i, Quieter s.toCore t.toCore i)
    (clear : ∀ c < cfg.tpChMax, t.flag c q = false) : Tracked cfg t.toCore := by
  intro i bound
  by_cases here : i = q
  · subst here
    exact (tracked i bound).popped filled clear
  · exact (tracked i bound).kept (quieter i) (by rw [queue, Function.update_of_ne here])

theorem reports_request {events : List Event}
    (noise : ∀ e ∈ events, ∃ id api error, e = .reportError id api error) :
    ∀ e ∈ events, e.isRequest = false := by
  intro e member
  obtain ⟨_, _, _, rfl⟩ := noise e member
  rfl

theorem TrackedAt.requested {q : Nat} (tracked : TrackedAt cfg s.toCore q)
    (atFront : AtFront cfg s q)
    (turn : ∀ f ∈ inFlight s.log, f.2 = ((s.front q).channel, q) → f.1 = (s.front q).ticket)
    (becomes : t.toCore = (((s.setFront q { s.front q with queueState := .transRunning }).setCh
      (s.front q).channel q ⟨true, 0, (s.front q).msgIdx⟩).emit (.request (s.front q).ticket
        (s.front q).channel q (s.msgTxInfo q (s.front q).msgIdx).length)).toCore) :
    TrackedAt cfg t.toCore q := by
  have front : t.front q = { s.front q with queueState := .transRunning } := by
    simp [Core.front, becomes, Ring.front]
  have filled : (t.queue q).isEmpty = false := by simp [becomes, atFront.filled]
  have flags : ∀ c, t.flag c q = true → c ≠ (s.front q).channel → s.flag c q = true := by
    intro c set other
    rw [becomes] at set
    change ((s.setFront q _).setCh (s.front q).channel q _).flag c q = true at set
    rw [setCh_flag, if_neg (fun both => other both.1)] at set
    exact set
  have notImc : ¬ isImcIndex cfg q := by
    intro imc
    have empty := tracked.imc imc
    rw [atFront.filled] at empty
    cases empty
  refine ⟨?_, ?_, ?_, fun imc => absurd imc notImc⟩
  · intro c bound set
    right
    refine ⟨filled, ?_⟩
    rw [front]
    by_contra other
    have before := flags c set (fun same => other same.symm)
    rw [tracked.others atFront.filled bound (fun same => other same.symm)] at before
    cases before
  · intro c bound k flight set _
    rw [front]
    by_cases same : c = (s.front q).channel
    · subst same
      rw [becomes] at flight
      simp only [State.emit_log, State.setCh_log, State.setFront_log, inFlight_append, trackFlight,
        List.mem_cons] at flight
      rcases flight with new | old
      · exact (Prod.mk.inj new).1.symm
      · exact (turn _ old rfl).symm
    · have before := flags c set same
      rw [tracked.others atFront.filled bound same] at before
      cases before
  · intro _ state
    rw [front] at state
    cases state

theorem TrackedAt.cleared {u : Core} {q : Nat} (tracked : TrackedAt cfg s.toCore q)
    (filled : (s.queue q).isEmpty = false) (clear : u.flag (s.front q).channel q = false)
    (flags : ∀ c, c ≠ (s.front q).channel → u.flag c q = s.flag c q) :
    ∀ c < cfg.tpChMax, u.flag c q = false := by
  intro c bound
  by_cases same : c = (s.front q).channel
  · rw [same]
    exact clear
  · rw [flags c same]
    exact tracked.others filled bound same

theorem storeData_chTxInfo (cfg : Config) (args : TransmitArgs) (m : Nat) (s : State) :
    (storeData cfg args m s).chTxInfo = s.chTxInfo := by
  unfold storeData
  simp only
  split <;> rfl

theorem acceptData_quieter {args : TransmitArgs} {m : Nat}
    (becomes : t.toCore = (acceptData cfg args m s).1.toCore) (i : Nat) :
    Quieter s.toCore t.toCore i := by
  obtain ⟨events, log, none⟩ := acceptData_log (P := fun e => e.isRequest = false)
    (fun _ _ _ _ => rfl) (fun _ _ _ _ => rfl) cfg args m s
  apply Quieter.still events becomes _ log none
  cases room : (s.queue (otherEndIdxToUse cfg m args.otherEndIdx)).isFull with
  | true =>
      rw [acceptData_full room]
      exact storeData_chTxInfo cfg args m s
  | false =>
      rw [acceptData_room room]
      exact storeData_chTxInfo cfg args m s

theorem TrackedAt.pushed {q : Nat} {e : Entry} (tracked : TrackedAt cfg s.toCore q)
    (quieter : Quieter s.toCore t.toCore q) (room : (s.queue q).isFull = false)
    (queue : t.queue q = (s.queue q).push e) (ordinary : ¬ isImcIndex cfg q) :
    TrackedAt cfg t.toCore q := by
  cases empty : (s.queue q).isEmpty with
  | true =>
      -- a peer with an empty queue has no flag set
      have clear : ∀ c < cfg.tpChMax, t.flag c q = false := by
        intro c bound
        rw [← Bool.not_eq_true]
        intro set
        rcases tracked.progress c bound (quieter.flags c set) with imc | ⟨filled, _⟩
        · exact ordinary imc
        · rw [empty] at filled
          cases filled
      refine ⟨?_, ?_, fun _ _ => clear, fun imc => absurd imc ordinary⟩
      · intro c bound set
        rw [clear c bound] at set
        cases set
      · intro c bound k _ set
        rw [clear c bound] at set
        cases set
  | false =>
      have filled : (t.queue q).isEmpty = false := by
        rw [queue]
        exact Ring.push_filled _ _ room
      have front : t.front q = s.front q := by
        rw [Core.front, queue]
        exact Ring.push_front _ _ room empty
      refine ⟨?_, ?_, ?_, fun imc => absurd imc ordinary⟩
      · intro c bound set
        rw [front]
        rcases tracked.progress c bound (quieter.flags c set) with imc | ⟨_, own⟩
        · exact Or.inl imc
        · exact Or.inr ⟨filled, own⟩
      · intro c bound k flight set _
        rw [front]
        exact tracked.owner c bound k (quieter.flight k c flight) (quieter.flags c set) empty
      · intro _ state c bound
        rw [front] at state
        have clear := tracked.done empty state c bound
        rw [← Bool.not_eq_true] at clear ⊢
        exact fun set => clear (quieter.flags c set)

theorem Move.tracked {ok : State → Op → Prop} (move : Move cfg env ok s t)
    (proper : ∀ op, ok s op → Proper cfg s op) (tracked : Tracked cfg s.toCore) :
    Tracked cfg t.toCore := by
  cases move with
  | quiet events noise becomes =>
      intro i bound
      apply (tracked i bound).kept
      · exact .still events becomes rfl rfl (reports_request noise) i
      · rw [becomes]
  | work q e' buf' len' events atFront worked =>
      obtain ⟨undone, silent⟩ := worked.work.undone
      apply tracked.replaced atFront.filled (congrArg Core.queue worked.becomes :) worked.work.key
      · exact Quieter.still events worked.becomes rfl rfl silent
      · exact fun done => absurd done undone
  | counted q atFront running becomes =>
      apply tracked.replaced atFront.filled (congrArg Core.queue becomes :) rfl
      · exact Quieter.still [] becomes rfl (List.append_nil _).symm (List.forall_mem_nil _)
      · exact fun done => Or.inl done
  | requested q todo atFront task pointer allowed ready becomes =>
      have turn := (proper _ allowed).2.1 q (by simp [requesting, task, pointer, ready])
      intro i bound
      by_cases here : i = q
      · subst here
        exact (tracked i bound).requested atFront turn becomes
      · apply (tracked i bound).kept
        · constructor
          · intro c set
            rw [becomes] at set
            change ((s.setFront q _).setCh (s.front q).channel q _).flag c i = true at set
            rw [setCh_flag, if_neg (fun both => here both.2)] at set
            exact set
          · intro k c flight
            rw [becomes] at flight
            simp only [State.emit_log, State.setCh_log, State.setFront_log, inFlight_append,
              trackFlight, List.mem_cons] at flight
            rcases flight with new | old
            · exact absurd (Prod.mk.inj (Prod.mk.inj new).2).2 here
            · exact old
        · rw [becomes]
          simp [here]
  | requestedImc q todo atFront task call allowed radio broadcast becomes =>
      have index := atFront.own.broadcast broadcast
      intro i bound
      have before := tracked i bound
      have queue : t.queue i = s.queue i := by rw [becomes]; rfl
      by_cases here : i = q + 1
      · -- the index of the other MCU has no queue that a confirmation could reach
        have imc : isImcIndex cfg i := ⟨radio, by rw [here, index]⟩
        have empty := before.imc imc
        refine ⟨fun _ _ _ => Or.inl imc, ?_, ?_, ?_⟩
        · intro c _ k _ _ filled
          rw [queue, empty] at filled
          cases filled
        · intro filled
          rw [queue, empty] at filled
          cases filled
        · rw [queue]
          exact before.imc
      · apply before.kept _ queue
        constructor
        · intro c set
          rw [becomes] at set
          change (s.setCh (s.front q).channel (q + 1) _).flag c i = true at set
          rw [setCh_flag, if_neg (fun both => here both.2)] at set
          exact set
        · intro k c flight
          rw [becomes] at flight
          simp only [State.emit_log, State.setCh_log, inFlight_append, trackFlight,
            List.mem_cons] at flight
          rcases flight with new | old
          · exact absurd (Prod.mk.inj (Prod.mk.inj new).2).2 here
          · exact old
  | answered q peer result atFront call own becomes =>
      intro i bound
      apply (tracked i bound).kept
      · exact Quieter.still (s := s) [.answered (s.front q).ticket (s.front q).channel peer result]
          becomes rfl rfl (by simp [Event.isRequest]) i
      · rw [becomes]
        rfl
  | sent q atFront call becomes =>
      apply tracked.replaced atFront.filled (congrArg Core.queue becomes :) rfl
      · exact Quieter.still [] becomes rfl (List.append_nil _).symm (List.forall_mem_nil _)
      · intro done
        cases done
  | unsent q n atFront call becomes =>
      apply tracked.replaced atFront.filled (congrArg Core.queue becomes :) rfl
      · exact Quieter.still [] becomes rfl (List.append_nil _).symm (List.forall_mem_nil _)
      · exact fun done => Or.inl done
  | retired q atFront done becomes =>
      apply tracked.popped atFront.filled (congrArg Core.queue becomes :)
      · exact Quieter.still [.retired (s.front q).ticket] becomes rfl rfl
          (by simp [Event.isRequest])
      · intro c bound
        rw [becomes]
        exact (tracked q atFront.bound).done atFront.filled done c bound
  | dropped q atFront failed becomes =>
      have flags : ∀ c i, t.flag c i = if c = (s.front q).channel ∧ i = q then false
          else s.flag c i := by
        intro c i
        rw [becomes]
        exact setCh_flag _ _ _ _ c i
      apply tracked.popped atFront.filled (congrArg Core.queue becomes :)
      · apply Quieter.clears [.dropped (s.front q).ticket] flags (fun set => by cases set)
        · rw [becomes]
          rfl
        · simp [Event.isRequest]
      · apply (tracked q atFront.bound).cleared atFront.filled
        · rw [flags, if_pos ⟨rfl, rfl⟩]
        · intro c other
          rw [flags, if_neg (fun both => other both.1)]
  | stored args m allowed checked usable becomes =>
      have ordinary := (proper _ allowed).2.2.2 (args, m) (storing_transmit checked usable)
      have quieter := acceptData_quieter becomes
      intro i bound
      by_cases here : i = otherEndIdxToUse cfg m args.otherEndIdx
      · cases room : (s.queue i).isFull with
        | true =>
            apply (tracked i bound).kept (quieter i)
            rw [here] at room
            rw [becomes, acceptData_full room, storeData_queue]
        | false =>
            apply (tracked i bound).pushed (quieter i) room (e := newEntry cfg s.toCore i m) _
              (here ▸ ordinary)
            subst here
            rw [becomes, acceptData_room room]
            simp
      · apply (tracked i bound).kept (quieter i)
        cases room : (s.queue (otherEndIdxToUse cfg m args.otherEndIdx)).isFull with
        | true => rw [becomes, acceptData_full room, storeData_queue]
        | false =>
            rw [becomes, acceptData_room room]
            simp [here, storeData_queue]
  | copied id c q args allowed _ found headed given becomes =>
      have flags : ∀ d i, t.flag d i = if d = c ∧ i = q then
          s.flag c q && !copyFinishes cfg s.toCore id c q args else s.flag d i := by
        intro d i
        rw [becomes]
        refine (setCh_flag _ c q _ d i).trans ?_
        split
        · rfl
        · split <;> rfl
      have quieter : ∀ i, Quieter s.toCore t.toCore i := by
        apply Quieter.clears
          [.copied c q (args.retry.map u16) (copiedBytes cfg s.toCore id c q args)]
          flags
        · intro set
          simp only [Bool.and_eq_true] at set
          exact set.1
        · rw [becomes]
          split <;> rfl
        · simp [Event.isRequest]
      cases finishes : copyFinishes cfg s.toCore id c q args with
      | true =>
          have atFront := copyFinishes_atFront headed finishes
          have set : s.flag c q = true := by
            apply (proper _ allowed).2.2.1 (c, q)
            simp [finishing, found, given, finishes]
          have channel : c < cfg.tpChMax := (findByLLPdu_bounds found).1
          have own := (tracked q atFront.bound).channel atFront.filled channel set
          have queue : t.queue = Function.update s.queue q ((s.queue q).set (s.queue q).head
              { s.front q with queueState := .transDone }) := by
            rw [becomes, finishes]
            rfl
          apply tracked.replaced atFront.filled queue rfl quieter
          intro _
          right
          apply (tracked q atFront.bound).cleared atFront.filled
          · rw [flags, own, if_pos ⟨rfl, rfl⟩, finishes]
            simp
          · intro d other
            rw [flags, if_neg (fun both => other (both.1.trans own.symm))]
      | false =>
          intro i bound
          apply (tracked i bound).kept (quieter i)
          rw [becomes, finishes]
          rfl
  | unheeded k id c q result events allowed found idle noise becomes =>
      intro i bound
      apply (tracked i bound).kept
      · apply Quieter.still (.confirmed k c q result :: events) becomes rfl rfl
        intro e member
        rcases List.mem_cons.mp member with rfl | later
        · rfl
        · exact reports_request noise e later
      · rw [becomes]
  | confirmedImc k id c q result allowed found empty becomes =>
      intro i bound
      apply (tracked i bound).kept
      · have flags : ∀ d j, t.flag d j = if d = c ∧ j = q then false else s.flag d j := by
          intro d j
          rw [becomes]
          exact setCh_flag _ _ _ _ d j
        apply Quieter.clears [.confirmed k c q result] flags (fun set => by cases set)
        · rw [becomes]
          rfl
        · simp [Event.isRequest]
      · rw [becomes]
        rfl
  | confirmed k id c q result allowed found atFront progress becomes =>
      have flags : ∀ d i, t.flag d i = if d = c ∧ i = q then false else s.flag d i := by
        intro d i
        rw [becomes]
        exact setCh_flag _ _ _ _ d i
      have channel : c < cfg.tpChMax := (findByLLPdu_bounds found).1
      have own := (tracked q atFront.bound).channel atFront.filled channel progress
      apply tracked.replaced atFront.filled (congrArg Core.queue becomes :)
      · split <;> rfl
      · apply Quieter.clears [.confirmed k c q result] flags (fun set => by cases set)
        · rw [becomes]
          rfl
        · simp [Event.isRequest]
      · intro _
        right
        apply (tracked q atFront.bound).cleared atFront.filled
        · rw [flags, own, if_pos ⟨rfl, rfl⟩]
        · intro d other
          rw [flags, if_neg (fun both => other (both.1.trans own.symm))]

end Moves

theorem start_tracked (s : State) : Tracked cfg (start cfg s).toCore := by
  intro i bound
  have empty : ((start cfg s).queue i).isEmpty = true := by
    simp [start, init, bound, Ring.clear, Ring.isEmpty]
  have clear : ∀ c < cfg.tpChMax, (start cfg s).flag c i = false := by
    intro c channel
    simp [Core.flag, start, init, bound, channel]
  refine ⟨?_, ?_, fun _ _ => clear, fun _ => empty⟩
  · intro c channel set
    rw [clear c channel] at set
    cases set
  · intro c channel k _ set
    rw [clear c channel] at set
    cases set

theorem run_tracked {ops : List Op} (s : State)
    (proper : Guarded (step cfg env) (Proper cfg) (start cfg s) ops) :
    Tracked cfg (run (step cfg env) (start cfg s) ops).toCore := by
  apply run_moves (Tracked cfg) _ (start_linked s) (start_tracked s) proper
  intro u v move _ tracked
  exact move.tracked (fun _ => id) tracked

/-- Between two states, no entry changes that is not of request `k`. -/
def ChangesOnly (k : Nat) (s t : Core) : Prop :=
  ∀ j, List.Forall₂ (fun e f => e.ticket ≠ k → f = e) (s.entries j) (t.entries j)

theorem ChangesOnly.of_queue {s t : Core} (k : Nat) (same : t.queue = s.queue) :
    ChangesOnly k s t := by
  intro j
  rw [Core.entries, Core.entries, same]
  exact List.forall₂_same.mpr fun _ _ _ => rfl

theorem ChangesOnly.of_front {i k : Nat} (filled : (s.queue i).isEmpty = false)
    (own : (s.front i).ticket = k) {e : Entry}
    (queue : t.queue = Function.update s.queue i ((s.queue i).set (s.queue i).head e)) :
    ChangesOnly k s.toCore t.toCore := by
  intro j
  rw [Core.entries, Core.entries, queue]
  by_cases here : j = i
  · subst here
    rw [Function.update_self, Ring.set_front_toList _ _ filled, Ring.toList_cons _ filled]
    refine .cons (fun other => absurd own other) (List.forall₂_same.mpr fun _ _ _ => rfl)
  · rw [Function.update_of_ne here]
    exact List.forall₂_same.mpr fun _ _ _ => rfl

/-- In every run in which the lower layer confirms what it has accepted once, however late,
and no transmission is started while a confirmation for another request on that channel and
peer is still owed, a confirmation changes the entry of its own request only. -/
theorem confirmations_credited (cfg : Config) (env : Env) (s₀ : State) (ops : List Op)
    (proper : Guarded (step cfg env) (Proper cfg) (start cfg s₀) ops) (k id : Nat)
    (result : StdReturn) :
    let s := run (step cfg env) (start cfg s₀) ops
    Honest cfg s (.tpTxConfirmation k id result) →
      ChangesOnly k s.toCore (step cfg env s (.tpTxConfirmation k id result)).toCore := by
  intro s honest
  have tracked : Tracked cfg s.toCore := run_tracked s₀ proper
  simp only [step, tpTxConfirmation]
  cases found : findByLLPdu cfg id cfg.lowerTxCbPdu cfg.numLlTx with
  | none => exact .of_queue k rfl
  | some place =>
      obtain ⟨c, i⟩ := place
      obtain ⟨channel, peer, _⟩ := findByLLPdu_bounds found
      have flight : (k, c, i) ∈ inFlight s.log := honest (k, c, i) (by simp [confirming, found])
      simp only
      cases empty : (s.queue i).isEmpty with
      | true =>
          have none : getTxQueueHead (s.emit (.confirmed k c i result)) i = none :=
            getTxQueueHead_empty empty
          rw [none]
          simp only
          split
          · split
            · exact .of_queue k rfl
            · exact .of_queue k rfl
          · exact .of_queue k rfl
      | false =>
          have head : getTxQueueHead (s.emit (.confirmed k c i result)) i =
            some (s.queue i).head := getTxQueueHead_filled empty
          rw [head]
          simp only
          split
          · rename_i set
            have own := (tracked i peer).owner c channel k flight set empty
            split
            · exact .of_front empty own rfl
            · exact .of_front empty own rfl
          · exact .of_queue k rfl

def sampleCycle : List Op := .cyclicTx :: List.replicate 27 .resume

def sentRun : List Op := .transmit (sampleRequest 0 0x10 4) :: sampleCycle

theorem confirmations_credited_sent :
    let s := run (step (sampleConfig .masterMcu) promptEnv)
      (start (sampleConfig .masterMcu) blank) sentRun
    (s.front 0).ticket = 0 ∧ ChangesOnly 0 s.toCore
      (step (sampleConfig .masterMcu) promptEnv s (.tpTxConfirmation 0 0 .ok)).toCore :=
  ⟨by decide, confirmations_credited _ promptEnv blank sentRun (by decide) 0 0 .ok (by decide)⟩

def lateRun : List Op :=
  sentRun ++ sampleCycle ++ sampleCycle ++ sampleCycle ++ sentRun

theorem late_confirmation_credited_to_next :
    let s := run (step (sampleConfig .masterMcu) promptEnv)
      (start (sampleConfig .masterMcu) blank) lateRun
    Guarded (step (sampleConfig .masterMcu) promptEnv) (Honest (sampleConfig .masterMcu))
      (start (sampleConfig .masterMcu) blank) (lateRun ++ [.tpTxConfirmation 0 0 .ok]) ∧
    ¬ ChangesOnly 0 s.toCore
      (step (sampleConfig .masterMcu) promptEnv s (.tpTxConfirmation 0 0 .ok)).toCore := by
  intro s
  refine ⟨by decide +kernel, fun changes => ?_⟩
  have wrong := changes 0
  revert wrong
  decide +kernel

end AnchorNode.AnchorCom.Tx
