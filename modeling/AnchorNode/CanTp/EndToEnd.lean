import AnchorNode.CanTp.Link
import AnchorNode.CanTp.Ownership

/-! End to end: what one node segments the other reassembles. -/

namespace AnchorNode.CanTp

open AnchorNode.Lib

variable {b b' : Build} {cfg : Config b} {cfg' : Config b'} {env env' : Env}

section Links

/-- Two nodes, and how many frames of each have been handed to the other. -/
structure Link where
  sender : State
  receiver : State
  forwarded : Nat
  returned : Nat

/-- A call to one of the nodes, or the next frame of one handed to the other, with `rest` behind
it in memory. -/
inductive LinkOp where
  | sender (op : Op)
  | receiver (op : Op)
  | forward (rest : Mem)
  | back (rest : Mem)

/-- A frame as it is passed to `CanTp_RxIndication`. -/
def received (rest : Mem) (bytes : List UInt8) : PduInfo :=
  ⟨some (rest.write 0 bytes), bytes.length⟩

def linkStep (e : Pairing cfg cfg') (env env' : Env) (l : Link) : LinkOp → Link
  | .sender op => { l with sender := step b cfg env l.sender op }
  | .receiver op => { l with receiver := step b' cfg' env' l.receiver op }
  | .forward rest =>
    match (sentFrames (cfg.txSdu e.x).channelId l.sender.log)[l.forwarded]? with
    | none => l
    | some bytes =>
      { l with
        receiver := step b' cfg' env' l.receiver
          (.rxIndication e.dataPdu (some (received rest bytes)))
        forwarded := l.forwarded + 1 }
  | .back rest =>
    match (sentFrames (cfg'.rxSdu e.r).channelId l.receiver.log)[l.returned]? with
    | none => l
    | some bytes =>
      { l with
        sender := step b cfg env l.sender (.rxIndication e.flowPdu (some (received rest bytes)))
        returned := l.returned + 1 }

/-- No timeout expires, neither channel carries other traffic, and the frame of a node is
confirmed before the node is given one in return. -/
structure LinkLegal (e : Pairing cfg cfg') (env env' : Env) (l : Link) (op : LinkOp) : Prop where
  timely : ¬ Expired cfg l.sender (cfg.txSdu e.x).channelId
  timely' : ¬ Expired cfg' l.receiver (cfg'.rxSdu e.r).channelId
  lawful : match op with
    | .sender op =>
      Lawful cfg env (cfg.txSdu e.x).channelId (cfg.txSdu e.x).txConfirmationId l.sender op
    | .receiver op =>
      Lawful cfg' env' (cfg'.rxSdu e.r).channelId (cfg'.rxSdu e.r).txConfirmationId l.receiver op
    | .forward _ => l.receiver.txConfirmationChannel (cfg'.rxSdu e.r).txConfirmationId ≠
      (cfg'.rxSdu e.r).channelId
    | .back _ => l.sender.txConfirmationChannel (cfg.txSdu e.x).txConfirmationId ≠
      (cfg.txSdu e.x).channelId

/-- What has to be done again and again for a transfer to get through. -/
inductive Duty where
  | sendTurn
  | sendConfirmation
  | receiveTurn
  | receiveConfirmation
  | forward
  | back

def Serves (e : Pairing cfg cfg') (d : Duty) (l : Link) (op : LinkOp) : Prop :=
  match d with
  | .sendTurn => op = .sender .mainFunction ∧
    Alone cfg (cfg.txSdu e.x).channelId (cfg.txSdu e.x).txConfirmationId l.sender ∧
    MaySend b l.sender (cfg.txSdu e.x).channelId
  | .sendConfirmation => op = .sender (.txConfirmation (cfg.txSdu e.x).txConfirmationId)
  | .receiveTurn => op = .receiver .mainFunction ∧
    Alone cfg' (cfg'.rxSdu e.r).channelId (cfg'.rxSdu e.r).txConfirmationId l.receiver ∧
    HasTurn b' l.receiver (cfg'.rxSdu e.r).channelId
  | .receiveConfirmation => op = .receiver (.txConfirmation (cfg'.rxSdu e.r).txConfirmationId)
  | .forward => ∃ rest, op = .forward rest
  | .back => ∃ rest, op = .back rest

end Links

section Schedules
variable {l : Link}

def plainRound (e : Pairing cfg cfg') : List LinkOp :=
  [.sender .mainFunction, .sender (.txConfirmation (cfg.txSdu e.x).txConfirmationId),
    .forward fun _ => 0, .receiver .mainFunction,
    .receiver (.txConfirmation (cfg'.rxSdu e.r).txConfirmationId), .back fun _ => 0]

def Clear (e : Pairing cfg cfg') (l : Link) (op : LinkOp) : Prop :=
  ¬ Expired cfg l.sender (cfg.txSdu e.x).channelId ∧
  ¬ Expired cfg' l.receiver (cfg'.rxSdu e.r).channelId ∧
  match op with
  | .sender _ => Alone cfg (cfg.txSdu e.x).channelId (cfg.txSdu e.x).txConfirmationId l.sender
  | .receiver _ =>
    Alone cfg' (cfg'.rxSdu e.r).channelId (cfg'.rxSdu e.r).txConfirmationId l.receiver
  | .forward _ => l.receiver.txConfirmationChannel (cfg'.rxSdu e.r).txConfirmationId ≠
    (cfg'.rxSdu e.r).channelId
  | .back _ => l.sender.txConfirmationChannel (cfg.txSdu e.x).txConfirmationId ≠
    (cfg.txSdu e.x).channelId

instance (e : Pairing cfg cfg') (l : Link) : (op : LinkOp) → Decidable (Clear e l op)
  | .sender _ => inferInstanceAs (Decidable (_ ∧ _ ∧ Alone ..))
  | .receiver _ => inferInstanceAs (Decidable (_ ∧ _ ∧ Alone ..))
  | .forward _ => inferInstanceAs (Decidable (_ ∧ _ ∧ _ ≠ _))
  | .back _ => inferInstanceAs (Decidable (_ ∧ _ ∧ _ ≠ _))

def ClearFor (e : Pairing cfg cfg') (env env' : Env) : Nat → Link → Prop
  | 0, _ => True
  | k + 1, l => StMinOver b l.sender (cfg.txSdu e.x).channelId ∧
    Guarded (linkStep e env env') (Clear e) l (plainRound e) ∧
    ClearFor e env env' k (run (linkStep e env env') l (plainRound e))

instance ClearFor.decidable (e : Pairing cfg cfg') (env env' : Env) :
    (k : Nat) → (l : Link) → Decidable (ClearFor e env env' k l)
  | 0, _ => inferInstanceAs (Decidable True)
  | k + 1, l =>
    have := ClearFor.decidable e env env' k (run (linkStep e env env') l (plainRound e))
    inferInstanceAs (Decidable (_ ∧ _ ∧ _))

theorem plainRound_round (e : Pairing cfg cfg') (plain : b.txBurstMode = false)
    (plain' : b'.txBurstMode = false) (stMin : StMinOver b l.sender (cfg.txSdu e.x).channelId)
    (clear : Guarded (linkStep e env env') (Clear e) l (plainRound e)) :
    Round (linkStep e env env') (LinkLegal e env env') (Serves e) l (plainRound e) := by
  obtain ⟨sendTurn, sendConfirmation, forward, receiveTurn, receiveConfirmation, back, -⟩ := clear
  refine ⟨⟨⟨sendTurn.1, sendTurn.2.1, .turn sendTurn.2.2⟩,
    ⟨sendConfirmation.1, sendConfirmation.2.1, .confirm⟩, ⟨forward.1, forward.2.1, forward.2.2⟩,
    ⟨receiveTurn.1, receiveTurn.2.1, .turn receiveTurn.2.2⟩,
    ⟨receiveConfirmation.1, receiveConfirmation.2.1, .confirm⟩, ⟨back.1, back.2.1, back.2.2⟩,
    trivial⟩, fun d => ?_⟩
  cases d with
  | sendTurn =>
      exact ⟨[], _, _, rfl, rfl, sendTurn.2.2, hasTurn_plain plain _ _, stMin⟩
  | sendConfirmation => exact ⟨(plainRound e).take 1, _, _, rfl, rfl⟩
  | forward => exact ⟨(plainRound e).take 2, _, _, rfl, _, rfl⟩
  | receiveTurn =>
      exact ⟨(plainRound e).take 3, _, _, rfl, rfl, receiveTurn.2.2, hasTurn_plain plain' _ _⟩
  | receiveConfirmation => exact ⟨(plainRound e).take 4, _, _, rfl, rfl⟩
  | back => exact ⟨(plainRound e).take 5, _, _, rfl, _, rfl⟩

theorem plainRounds (e : Pairing cfg cfg') (plain : b.txBurstMode = false)
    (plain' : b'.txBurstMode = false) : ∀ (k : Nat) (l : Link), ClearFor e env env' k l →
    Rounds (linkStep e env env') (LinkLegal e env env') (Serves e) l
      (List.replicate k (plainRound e)) := by
  intro k
  induction k with
  | zero => exact fun l _ => trivial
  | succ k ih =>
      rintro l ⟨stMin, clear, rest⟩
      exact ⟨plainRound_round e plain plain' stMin clear, ih _ rest⟩

end Schedules

section Progress

/-- How far a transfer is. At the sender: the pieces confirmed, handed over and cleared; at the
receiver: the pieces that have arrived and those allowed, the flow control frames sent and
those confirmed; and the flow control frames handed back. -/
structure Progress where
  confirmed : Nat
  sent : Nat
  cleared : Nat
  arrived : Nat
  allowed : Nat
  granted : Nat
  settled : Nat
  returned : Nat

namespace Progress

def rank (p : Progress) : Nat :=
  p.confirmed + p.sent + p.cleared + p.arrived + p.allowed + p.granted + p.settled + p.returned

structure Le (p p' : Progress) : Prop where
  confirmed : p.confirmed ≤ p'.confirmed
  sent : p.sent ≤ p'.sent
  cleared : p.cleared ≤ p'.cleared
  arrived : p.arrived ≤ p'.arrived
  allowed : p.allowed ≤ p'.allowed
  granted : p.granted ≤ p'.granted
  settled : p.settled ≤ p'.settled
  returned : p.returned ≤ p'.returned

theorem Le.refl (p : Progress) : p.Le p := by constructor <;> exact Nat.le_refl _

theorem Le.further {p p' : Progress} (le : p.Le p') : p.rank < p'.rank ∨ p' = p := by
  obtain ⟨confirmed, sent, cleared, arrived, allowed, granted, settled, returned⟩ := le
  by_cases further : p.rank < p'.rank
  · exact Or.inl further
  · right
    cases p
    cases p'
    simp only [rank, Progress.mk.injEq] at *
    omega

def due (total : Nat) (p : Progress) : Option Duty :=
  if p.confirmed < p.sent then some .sendConfirmation
  else if p.settled < p.granted then some .receiveConfirmation
  else if p.arrived < p.sent then some .forward
  else if p.returned < p.granted then some .back
  else if p.sent < p.cleared then some .sendTurn
  else if p.arrived < total then some .receiveTurn
  else none

def Needs (total : Nat) (p : Progress) : Duty → Prop
  | .sendConfirmation => p.confirmed < p.sent
  | .receiveConfirmation => p.settled < p.granted
  | .forward => p.arrived < p.sent
  | .back => p.returned < p.granted
  | .sendTurn => p.sent ≤ p.confirmed ∧ p.sent < p.cleared
  | .receiveTurn => p.granted ≤ p.settled ∧ p.granted ≤ p.returned ∧
    p.sent ≤ p.arrived ∧ p.cleared ≤ p.sent ∧ p.arrived < total

theorem due_needs {total : Nat} {p : Progress} {d : Duty} (due : p.due total = some d) :
    p.Needs total d := by
  unfold Progress.due at due
  split at due
  · obtain rfl := Option.some.inj due
    assumption
  split at due
  · obtain rfl := Option.some.inj due
    assumption
  split at due
  · obtain rfl := Option.some.inj due
    assumption
  split at due
  · obtain rfl := Option.some.inj due
    assumption
  split at due
  · obtain rfl := Option.some.inj due
    exact ⟨by omega, by assumption⟩
  split at due
  · obtain rfl := Option.some.inj due
    exact ⟨by omega, by omega, by omega, by omega, by assumption⟩
  · cases due

theorem due_none {total : Nat} {p : Progress} (due : p.due total = none) :
    p.sent ≤ p.confirmed ∧ p.sent ≤ p.arrived ∧ p.cleared ≤ p.sent ∧ total ≤ p.arrived := by
  unfold Progress.due at due
  split at due
  · cases due
  split at due
  · cases due
  split at due
  · cases due
  split at due
  · cases due
  split at due
  · cases due
  split at due
  · cases due
  · omega

end Progress

end Progress

section Joined
variable {e : Pairing cfg cfg'} {n : Nat} {fit : Sendable b cfg e.x n}
  {payload : List UInt8} {base base' : List Event} {bs : Nat} {p : Progress} {l : Link}

/-- How far the two ends can be apart. -/
inductive Joined (fit : Sendable b cfg e.x n) (bs : Nat) (p : Progress) : Prop
  | opening (arrived : p.arrived = 0) (cleared : p.cleared = 1) (granted : p.granted = 0)
      (returned : p.returned = 0)
  | cleared (arrived : 0 < p.arrived) (returned : p.returned = p.granted)
      (cleared : p.cleared = p.allowed) (behind : p.arrived ≤ p.sent)
  | returning (arrived : 0 < p.arrived) (returned : p.returned + 1 = p.granted)
      (cleared : p.cleared = p.arrived) (sent : p.sent = p.arrived)
      (unfinished : p.arrived < fit.cut.pieces) (allowed : p.allowed = fit.blockEnd bs p.arrived)

/-- The transfer stands at `p`, at both ends and between them. -/
structure LinkAt (fit : Sendable b cfg e.x n) (payload : List UInt8) (base base' : List Event)
    (bs : Nat) (p : Progress) (l : Link) : Prop where
  sender : SenderAt fit payload base bs p.cleared p.confirmed p.sent l.sender
  receiver : ReceiverAt fit payload base' bs p.arrived p.allowed p.granted p.settled l.receiver
  orderly : Orderly cfg l.sender
  orderly' : Orderly cfg' l.receiver
  forwarded : l.forwarded =
    (sentFrames (cfg.txSdu e.x).channelId base).length + p.arrived
  returned : l.returned =
    (sentFrames (cfg'.rxSdu e.r).channelId base').length + p.returned
  joined : Joined fit bs p

theorem sentFrames_append (c : Nat) (front back : List Event) :
    sentFrames c (front ++ back) = sentFrames c front ++ sentFrames c back :=
  List.filterMap_append

theorem LinkAt.forwards (at' : LinkAt fit payload base base' bs p l) :
    ((sentFrames (cfg.txSdu e.x).channelId l.sender.log)[l.forwarded]? = none ∧
      p.sent ≤ p.arrived) ∨
      ∃ bytes, (sentFrames (cfg.txSdu e.x).channelId l.sender.log)[l.forwarded]? = some bytes ∧
        p.arrived < p.sent ∧ Carries fit payload p.arrived bytes := by
  obtain ⟨events, log, told⟩ := at'.sender.told
  have count := told.count
  rw [at'.forwarded, log, sentFrames_append, List.getElem?_append_right (Nat.le_add_right _ _),
    Nat.add_sub_cancel_left]
  by_cases inside : p.arrived < p.sent
  · have carries := told.frames p.arrived inside
    rw [List.getD_eq_getElem?_getD] at carries
    have bound : p.arrived < (sentFrames (cfg.txSdu e.x).channelId events).length := by omega
    rw [List.getElem?_eq_getElem bound] at carries ⊢
    exact Or.inr ⟨_, rfl, inside, carries⟩
  · exact Or.inl ⟨List.getElem?_eq_none (by omega), by omega⟩

theorem LinkAt.returns (at' : LinkAt fit payload base base' bs p l) :
    ((sentFrames (cfg'.rxSdu e.r).channelId l.receiver.log)[l.returned]? = none ∧
      p.granted ≤ p.returned) ∨
      ∃ bytes, (sentFrames (cfg'.rxSdu e.r).channelId l.receiver.log)[l.returned]? = some bytes ∧
        p.returned < p.granted ∧ Clears (cfg'.rxSdu e.r) bs bytes := by
  obtain ⟨events, log, told⟩ := at'.receiver.told
  obtain ⟨frames, count, clears, account⟩ := told.account
  rw [at'.returned, log, sentFrames_append, List.getElem?_append_right (Nat.le_add_right _ _),
    Nat.add_sub_cancel_left, account.frames]
  by_cases inside : p.returned < p.granted
  · have clear := clears p.returned inside
    rw [List.getD_eq_getElem?_getD] at clear
    have bound : p.returned < frames.length := by omega
    rw [List.getElem?_eq_getElem bound] at clear ⊢
    exact Or.inr ⟨_, rfl, inside, clear⟩
  · exact Or.inl ⟨List.getElem?_eq_none (by omega), by omega⟩

def LeadsTo (e : Pairing cfg cfg') (fit : Sendable b cfg e.x n) (payload : List UInt8)
    (base base' : List Event) (bs : Nat) (p : Progress) (l : Link) (op : LinkOp)
    (l' : Link) : Prop :=
  ∃ p', LinkAt fit payload base base' bs p' l' ∧ p.Le p' ∧
    ∀ d, p.due fit.cut.pieces = some d → Serves e d l op → p' ≠ p

theorem LinkAt.sender_step (at' : LinkAt fit payload base base' bs p l)
    (provides : Provides cfg env e.x n payload base) {op : Op}
    (legal : LinkLegal e env env' l (.sender op)) :
    LeadsTo e fit payload base base' bs p l (.sender op)
      (linkStep e env env' l (.sender op)) := by
  obtain ⟨i, m, confirmed, sent, sender, confirms, sends⟩ := at'.sender.lawful provides
    e.connected at'.orderly legal.timely legal.lawful
  have bounds := sender.phase.bounds
  refine ⟨{ p with confirmed := i, sent := m }, ⟨sender, at'.receiver, at'.orderly.step op,
    at'.orderly', at'.forwarded, at'.returned, ?_⟩, ?_, ?_⟩
  · cases at'.joined with
    | opening arrived cleared granted returned => exact .opening arrived cleared granted returned
    | cleared arrived returned cleared behind =>
        exact .cleared arrived returned cleared (Nat.le_trans behind sent)
    | returning arrived returned cleared sent' unfinished allowed =>
        refine .returning arrived returned cleared ?_ unfinished allowed
        simp only
        omega
  · constructor <;> simp only <;> omega
  · rintro d due serves same
    have needs := Progress.due_needs due
    have confirmed' := congrArg Progress.confirmed same
    have sent' := congrArg Progress.sent same
    cases d with
    | sendConfirmation =>
        obtain rfl := LinkOp.sender.inj serves
        have caught := confirms rfl
        simp only [Progress.Needs] at needs confirmed'
        omega
    | sendTurn =>
        obtain ⟨drives, alone, may⟩ := serves
        simp only [Progress.Needs] at needs sent'
        have further := sends (LinkOp.sender.inj drives) alone (by omega) (by omega) may
        omega
    | receiveTurn => cases serves.1
    | receiveConfirmation => cases serves
    | forward => cases serves.choose_spec
    | back => cases serves.choose_spec

theorem LinkAt.receiver_step (at' : LinkAt fit payload base base' bs p l)
    (grants : Grants env' e n base') (whole : payload.length = n) {op : Op}
    (legal : LinkLegal e env env' l (.receiver op)) :
    LeadsTo e fit payload base base' bs p l (.receiver op)
      (linkStep e env env' l (.receiver op)) := by
  have ahead := at'.sender.phase.bounds
  have bounds := at'.receiver.phase.bounds
  rcases at'.receiver.lawful grants whole at'.orderly' legal.timely' legal.lawful with
    ⟨owes, receiver⟩ | ⟨h, settled, receiver, confirms, idle⟩
  · -- the flow control frame that was due is on its way
    obtain ⟨stop, all, later, unfinished⟩ := at'.receiver.phase.owes owes
    have block := fit.blockEnd_bounds bs unfinished
    have joined : Joined fit bs { p with
        allowed := fit.blockEnd bs p.arrived, granted := p.granted + 1, settled := p.granted } := by
      cases at'.joined with
      | opening arrived => omega
      | cleared arrived returned cleared behind =>
          exact .returning arrived (congrArg (· + 1) returned) (cleared.trans stop)
            (by simp only; omega) unfinished rfl
      | returning arrived returned cleared sent unfinished' allowed => omega
    refine ⟨{ p with
      allowed := fit.blockEnd bs p.arrived
      granted := p.granted + 1
      settled := p.granted }, ⟨at'.sender, receiver, at'.orderly,
        at'.orderly'.step op, at'.forwarded, at'.returned, joined⟩, ?_, ?_⟩
    · constructor <;> simp only <;> omega
    · rintro d - - same
      have grown := congrArg Progress.granted same
      simp only at grown
      omega
  · refine ⟨{ p with settled := h }, ⟨at'.sender, receiver, at'.orderly, at'.orderly'.step op,
      at'.forwarded, at'.returned, ?_⟩, ?_, ?_⟩
    · cases at'.joined with
      | opening arrived cleared granted returned =>
          exact .opening arrived cleared granted returned
      | cleared arrived returned cleared behind =>
          exact .cleared arrived returned cleared behind
      | returning arrived returned cleared sent unfinished allowed =>
          exact .returning arrived returned cleared sent unfinished allowed
    · constructor <;> simp only <;> omega
    · rintro d due serves same
      have needs := Progress.due_needs due
      have settled' := congrArg Progress.settled same
      cases d with
      | receiveConfirmation =>
          obtain rfl := LinkOp.receiver.inj serves
          have caught := confirms rfl
          simp only [Progress.Needs] at needs settled'
          omega
      | receiveTurn =>
          obtain ⟨drives, alone, turn⟩ := serves
          simp only [Progress.Needs] at needs
          refine idle (LinkOp.receiver.inj drives) alone turn ?_
          cases at'.joined with
          | opening arrived cleared => omega
          | cleared arrived returned cleared behind =>
              exact at'.receiver.phase.blocked arrived (by omega) (by omega)
          | returning arrived returned => omega
      | sendTurn => cases serves.1
      | sendConfirmation => cases serves
      | forward => cases serves.choose_spec
      | back => cases serves.choose_spec

theorem LinkAt.forward_step (at' : LinkAt fit payload base base' bs p l)
    (grants : Grants env' e n base') {rest : Mem}
    (legal : LinkLegal e env env' l (.forward rest)) :
    LeadsTo e fit payload base base' bs p l (.forward rest)
      (linkStep e env env' l (.forward rest)) := by
  have ahead := at'.sender.phase.bounds
  have bounds := at'.receiver.phase.bounds
  rcases at'.forwards with ⟨empty, idle⟩ | ⟨bytes, next, inside, carries⟩
  · simp only [linkStep, empty]
    refine ⟨p, at', .refl p, fun d due serves _ => ?_⟩
    have needs := Progress.due_needs due
    cases d with
    | forward =>
        simp only [Progress.Needs] at needs
        omega
    | sendTurn => cases serves.1
    | receiveTurn => cases serves.1
    | sendConfirmation => cases serves
    | receiveConfirmation => cases serves
    | back => cases serves.choose_spec
  · simp only [linkStep, next]
    have confirmed : p.granted = p.settled := by
      rcases at'.receiver.phase.entry with ⟨-, all, -⟩ | ⟨own, -⟩
      · exact all
      · exact absurd own legal.lawful
    have open' : p.arrived = 0 ∨ p.arrived < p.allowed := by
      cases at'.joined with
      | opening arrived => exact Or.inl arrived
      | cleared arrived returned cleared behind => exact Or.inr (by omega)
      | returning arrived returned cleared sent => omega
    have receiver := at'.receiver.receives grants open' confirmed legal.timely' carries
      (read_write_same rest 0 bytes)
    have first (start : p.arrived = 0) : p.allowed = 0 := (at'.receiver.phase.start start).1
    have joined : Joined fit bs { p with
        arrived := p.arrived + 1, allowed := if p.arrived = 0 then 1 else p.allowed } := by
      cases at'.joined with
      | opening arrived cleared granted returned =>
          refine .cleared (Nat.succ_pos _) (returned.trans granted.symm) ?_ (by simp only; omega)
          simp only [arrived, if_true, cleared]
      | cleared arrived returned cleared behind =>
          refine .cleared (Nat.succ_pos _) returned ?_ (by simp only; omega)
          simp only [if_neg (Nat.ne_of_gt arrived), cleared]
      | returning arrived returned cleared sent => omega
    refine ⟨{ p with
      arrived := p.arrived + 1
      allowed := if p.arrived = 0 then 1 else p.allowed }, ⟨at'.sender, receiver, at'.orderly,
        at'.orderly'.step (.rxIndication e.dataPdu (some (received rest bytes))), ?_, at'.returned,
          joined⟩, ?_, ?_⟩
    · simp only [at'.forwarded, Nat.add_assoc]
    · constructor <;> simp only <;> try omega
      split <;> omega
    · rintro d - - same
      have grown := congrArg Progress.arrived same
      simp only at grown
      omega

theorem LinkAt.back_step (at' : LinkAt fit payload base base' bs p l)
    (provides : Provides cfg env e.x n payload base) {rest : Mem}
    (legal : LinkLegal e env env' l (.back rest)) :
    LeadsTo e fit payload base base' bs p l (.back rest)
      (linkStep e env env' l (.back rest)) := by
  have ahead := at'.sender.phase.bounds
  rcases at'.returns with ⟨empty, idle⟩ | ⟨bytes, next, inside, clears⟩
  · simp only [linkStep, empty]
    refine ⟨p, at', .refl p, fun d due serves _ => ?_⟩
    have needs := Progress.due_needs due
    cases d with
    | back =>
        simp only [Progress.Needs] at needs
        omega
    | sendTurn => cases serves.1
    | receiveTurn => cases serves.1
    | sendConfirmation => cases serves
    | receiveConfirmation => cases serves
    | forward => cases serves.choose_spec
  · simp only [linkStep, next]
    cases at'.joined with
    | opening arrived cleared granted => omega
    | cleared arrived returned => omega
    | returning arrived returned cleared sent unfinished allowed =>
    have confirmed : p.sent = p.confirmed := by
      rcases at'.sender.phase.entry with ⟨-, all⟩ | ⟨own, -⟩
      · exact all
      · exact absurd own legal.lawful
    have block := fit.blockEnd_bounds bs unfinished
    have sender := at'.sender
    rw [cleared, ← confirmed, sent] at sender
    obtain ⟨m, further, sender⟩ := sender.receives arrived unfinished provides at'.orderly
      legal.timely clears (read_write_same rest 0 bytes)
    refine ⟨{ p with
      confirmed := p.arrived
      sent := m
      cleared := fit.blockEnd bs p.arrived
      returned := p.returned + 1 }, ⟨sender, at'.receiver,
        at'.orderly.step (.rxIndication e.flowPdu (some (received rest bytes))), at'.orderly',
          at'.forwarded, ?_, .cleared arrived returned allowed.symm further⟩, ?_, ?_⟩
    · simp only [at'.returned, Nat.add_assoc]
    · constructor <;> simp only <;> omega
    · rintro d - - same
      have grown := congrArg Progress.returned same
      simp only at grown
      omega

theorem LinkAt.step (at' : LinkAt fit payload base base' bs p l)
    (provides : Provides cfg env e.x n payload base) (grants : Grants env' e n base')
    {op : LinkOp} (legal : LinkLegal e env env' l op) :
    LeadsTo e fit payload base base' bs p l op (linkStep e env env' l op) := by
  cases op with
  | sender op => exact at'.sender_step provides legal
  | receiver op => exact at'.receiver_step grants provides.whole legal
  | forward rest => exact at'.forward_step grants legal
  | back rest => exact at'.back_step provides legal

theorem LinkAt.through_iff (at' : LinkAt fit payload base base' bs p l) :
    p.due fit.cut.pieces = none ↔ p.confirmed = fit.cut.pieces ∧ p.arrived = fit.cut.pieces := by
  have ahead := at'.sender.phase.bounds
  have bounds := at'.receiver.phase.bounds
  constructor
  · rintro through
    have still := Progress.due_none through
    have pieces := fit.cut.pieces_pos
    cases at'.joined with
    | opening => omega
    | cleared => omega
    | returning => omega
  · rintro ⟨confirmed, arrived⟩
    have settled := (at'.receiver.phase.ended arrived).1
    cases due : p.due fit.cut.pieces with
    | none => rfl
    | some d =>
        have needs := Progress.due_needs due
        cases at'.joined with
        | opening => omega
        | cleared =>
            cases d <;> simp only [Progress.Needs] at needs <;> omega
        | returning => omega

theorem link_advances (fit : Sendable b cfg e.x n) (bs : Nat)
    (provides : Provides cfg env e.x n payload base) (grants : Grants env' e n base') :
    Advancing (linkStep e env env') (LinkLegal e env env') (Serves e)
      (LinkAt fit payload base base' bs) Progress.rank (Progress.due fit.cut.pieces) := by
  refine ⟨fun p l op at' legal => ?_⟩
  obtain ⟨p', there, le, served⟩ := at'.step provides grants legal
  have ahead := there.sender.phase.bounds
  have bounds := there.receiver.phase.bounds
  have confirmed := le.confirmed
  have arrived := le.arrived
  refine ⟨p', there, fun through => ?_, ?_⟩
  · have all := at'.through_iff.mp through
    exact there.through_iff.mpr ⟨by omega, by omega⟩
  · rcases le.further with further | same
    · exact Or.inl further
    · exact Or.inr ⟨same, fun d due serves => served d due serves same⟩

theorem LinkAt.bounded (at' : LinkAt fit payload base base' bs p l) :
    p.rank ≤ 8 * fit.cut.pieces := by
  have ahead := at'.sender.phase.bounds
  have bounds := at'.receiver.phase.bounds
  have returned : p.returned ≤ p.granted := by
    cases at'.joined <;> omega
  rw [Progress.rank]
  omega

end Joined

section Transfers
variable {e : Pairing cfg cfg'} {n : Nat} {fit : Sendable b cfg e.x n} {payload : List UInt8}
  {s s' : State} {bs : Nat} {p : Progress} {l : Link}

def openLink (e : Pairing cfg cfg') (n : Nat) (s s' : State) : Link :=
  let sender := transmit b cfg e.x (some n) s
  { sender
    receiver := s'
    forwarded := (sentFrames (cfg.txSdu e.x).channelId sender.log).length
    returned := (sentFrames (cfg'.rxSdu e.r).channelId s'.log).length }

/-- Channel `c` is idle, and no frame of N-PDU `p` awaits confirmation. -/
structure Vacant (b : Build) (c p : Nat) (s : State) : Prop where
  free : s.txConfirmationChannel p = b.invalidChannel
  running : s.mainState = true
  idle : s.subState c = .idle

theorem receiverAt_start (fit : Sendable b cfg e.x n) (payload : List UInt8)
    (vacant : Vacant b' (cfg'.rxSdu e.r).channelId (cfg'.rxSdu e.r).txConfirmationId s') :
    ReceiverAt fit payload s'.log (getRxParam b' cfg' s' e.r .bs).toNat 0 0 0 0 s' := by
  have pieces := fit.cut.pieces_pos
  refine ⟨vacant.running, rfl, ?_, [], (List.append_nil _).symm, [], rfl,
    fun k before => absurd before (Nat.not_lt_zero k), rfl, rfl, ?_, rfl⟩
  · rw [vacant.idle, vacant.free]
    exact .waiting
  · rw [if_neg (by omega)]
    rfl

/-- What the upper layers have been told by then is right, as far as it goes. -/
structure Intact (e : Pairing cfg cfg') (payload : List UInt8) (first l : Link) : Prop where
  starts : rxStarts (cfg'.rxSdu e.r).channelId
    (l.receiver.log.drop first.receiver.log.length) <+: [payload.length]
  data : rxCopied (cfg'.rxSdu e.r).channelId e.r
    (l.receiver.log.drop first.receiver.log.length) <+: payload
  indication : rxResults (cfg'.rxSdu e.r).channelId
    (l.receiver.log.drop first.receiver.log.length) <+: [.ok]
  confirmation : txResults (cfg.txSdu e.x).channelId
    (l.sender.log.drop first.sender.log.length) <+: [.ok]

/-- The payload has been announced once and handed over as a whole, both upper layers know, and
both channels are idle again. -/
structure Delivered (e : Pairing cfg cfg') (payload : List UInt8) (first l : Link) : Prop where
  starts : rxStarts (cfg'.rxSdu e.r).channelId
    (l.receiver.log.drop first.receiver.log.length) = [payload.length]
  data : rxCopied (cfg'.rxSdu e.r).channelId e.r
    (l.receiver.log.drop first.receiver.log.length) = payload
  indication : rxResults (cfg'.rxSdu e.r).channelId
    (l.receiver.log.drop first.receiver.log.length) = [.ok]
  confirmation : txResults (cfg.txSdu e.x).channelId
    (l.sender.log.drop first.sender.log.length) = [.ok]
  idle : l.sender.subState (cfg.txSdu e.x).channelId = .idle
  idle' : l.receiver.subState (cfg'.rxSdu e.r).channelId = .idle

theorem LinkAt.intact {first : Link} (fit : Sendable b cfg e.x payload.length)
    (at' : LinkAt fit payload first.sender.log first.receiver.log bs p l) :
    Intact e payload first l := by
  obtain ⟨events, log, told⟩ := at'.sender.told
  obtain ⟨events', log', told'⟩ := at'.receiver.told
  obtain ⟨frames, -, -, account⟩ := told'.account
  refine ⟨?_, ?_, ?_, ?_⟩
  · rw [log', List.drop_left, account.starts]
    split
    · exact List.nil_prefix
    · exact List.prefix_refl _
  · rw [log', List.drop_left, account.copied]
    exact List.take_prefix _ _
  · rw [log', List.drop_left, account.results]
    split
    · exact List.prefix_refl _
    · exact List.nil_prefix
  · rw [log, List.drop_left, told.results]
    split
    · exact List.prefix_refl _
    · exact List.nil_prefix

theorem LinkAt.delivered {first : Link} (fit : Sendable b cfg e.x payload.length)
    (at' : LinkAt fit payload first.sender.log first.receiver.log bs p l)
    (through : p.due fit.cut.pieces = none) : Delivered e payload first l := by
  obtain ⟨confirmed, arrived⟩ := at'.through_iff.mp through
  obtain ⟨events, log, told⟩ := at'.sender.told
  obtain ⟨events', log', told'⟩ := at'.receiver.told
  obtain ⟨frames, -, -, account⟩ := told'.account
  have pieces := fit.cut.pieces_pos
  refine ⟨?_, ?_, ?_, ?_, ?_, ?_⟩
  · rw [log', List.drop_left, account.starts, if_neg (by omega)]
  · rw [log', List.drop_left, account.copied]
    exact fit.cut.take_all rfl arrived.ge
  · rw [log', List.drop_left, account.results, if_pos arrived]
  · rw [log, List.drop_left, told.results, if_pos confirmed]
  · exact at'.sender.phase.ended confirmed
  · exact (at'.receiver.phase.ended arrived).2

/-- Take any two builds and configurations that agree on one physical connection with flow
control: address formats 0 to 3, any link length, padding on or off, any BS and STmin, any two
channels. Take any payload the sender accepts, an upper layer that supplies it and one that
grants the buffers for it. In every run in which no timeout expires, the channels carry nothing
else, frames are handed over unchanged and in order, and each is confirmed before its producer is
given one in return, the receiver announces at most one reception, of the right length, and hands
over a prefix of the payload. Once each of the six steps such a transfer consists of has had its
turn in eight rounds a byte, it has handed over all of it, both upper layers have been told so
once, and both channels are idle again. -/
theorem transfer_end_to_end (e : Pairing cfg cfg') (env env' : Env) (payload : List UInt8)
    (ram ram' : State) (before before' : List Op) :
    let s := run (step b cfg env) (start b cfg ram) before
    let s' := run (step b' cfg' env') (start b' cfg' ram') before'
    let first := openLink e payload.length s s'
    TakesRequest b cfg e.x payload.length s →
    s.txConfirmationChannel (cfg.txSdu e.x).txConfirmationId = b.invalidChannel →
    Vacant b' (cfg'.rxSdu e.r).channelId (cfg'.rxSdu e.r).txConfirmationId s' →
    Provides cfg env e.x payload.length payload first.sender.log →
    Grants env' e payload.length first.receiver.log →
    (∀ ops, Guarded (linkStep e env env') (LinkLegal e env env') first ops →
      Intact e payload first (run (linkStep e env env') first ops)) ∧
    ∀ rounds, Rounds (linkStep e env env') (LinkLegal e env env') (Serves e) first rounds →
      8 * payload.length ≤ rounds.length →
        Delivered e payload first (run (linkStep e env env') first rounds.flatten) := by
  intro s s' first accepted free vacant provides grants
  obtain ⟨fit, sender⟩ := senderAt_start accepted free payload
    (getRxParam b' cfg' s' e.r .bs).toNat
  have receiver := receiverAt_start fit payload vacant
  have orderly : Orderly cfg (step b cfg env s (.transmit e.x (some payload.length))) :=
    (run_orderly cfg env ram before).step (.transmit e.x (some payload.length))
  have orderly' : Orderly cfg' first.receiver := run_orderly cfg' env' ram' before'
  have start : LinkAt fit payload first.sender.log first.receiver.log
      (getRxParam b' cfg' s' e.r .bs).toNat ⟨0, 0, 1, 0, 0, 0, 0, 0⟩ first :=
    ⟨sender, receiver, orderly, orderly', rfl, rfl, .opening rfl rfl rfl rfl⟩
  have advances := link_advances fit (getRxParam b' cfg' s' e.r .bs).toNat provides grants
  refine ⟨fun ops legal => ?_, fun rounds fair enough => ?_⟩
  · obtain ⟨p, there, -, -⟩ := advances.run start legal
    exact there.intact fit
  · have most := fit.cut.pieces_le_total
    have whole : fit.cut.total = payload.length := rfl
    obtain ⟨p, there, through⟩ := advances.through (fun p l at' => at'.bounded) start fair
      (show 8 * fit.cut.pieces < _ by simp only [Progress.rank]; omega)
    exact there.delivered fit through

end Transfers

section Node

theorem node_format : (nodeConfig.txSdu 0).addressFormatId ≠ 4 := by decide

def nodePairing : Pairing nodeConfig nodeConfig where
  x := 0
  r := 0
  dataPdu := 0
  flowPdu := 0
  x_lt := by decide
  r_lt := by decide
  dataPdu_lt := by decide
  flowPdu_lt := by decide
  fd := rfl
  format := node_format
  sameFormat := rfl
  samePadding := rfl
  physical := rfl
  waitsForFc := by decide
  sendsFc := by decide
  room := by decide
  dataDlc := fun _ => if_pos (Nat.le_refl _)
  flowDlc := fun _ => if_pos (Nat.le_refl _)
  dataRoute := fun _ _ => ⟨rfl, rfl⟩
  flowRoute := fun _ _ => ⟨rfl, rfl⟩

def streamEnv (payload : List UInt8) : Env :=
  { nodeEnv with
    copyTxData := fun log _ _ =>
      let left := payload.drop (txCopied 0 0 log).length
      (.ok, fun i => left.getD i 0, left.length) }

def nodePayload : List UInt8 := (List.range 20).map UInt8.ofNat

def nodeLink : Link :=
  openLink nodePairing nodePayload.length (start nodeBuild nodeConfig nodeRam)
    (start nodeBuild nodeConfig nodeRam)

theorem streamEnv_provides (payload : List UInt8) {base : List Event}
    (fresh : txCopied 0 0 base = []) :
    Provides nodeConfig (streamEnv payload) 0 payload.length payload base := by
  have taken (events : List Event) : txCopied 0 0 (base ++ events) = txCopied 0 0 events := by
    rw [txCopied, List.flatMap_append, ← txCopied, ← txCopied, fresh, List.nil_append]
  have channel : (nodeConfig.txSdu 0).channelId = 0 := rfl
  refine ⟨rfl, fun events length room => ?_, fun _ _ => rfl⟩
  simp only [channel] at room
  refine ⟨rfl, ?_, ?_⟩
  · simp only [streamEnv, taken, channel]
    refine List.ext_getElem ?_ ?_
    · simp only [read_length, List.length_take, List.length_drop]
      exact (Nat.min_eq_left (by omega)).symm
    · rintro i inside inside'
      simp only [Mem.read, List.getElem_map, List.getElem_range, Nat.zero_add, List.getElem_take]
      rw [List.getD_eq_getElem?_getD,
        List.getElem?_eq_getElem (Nat.lt_of_lt_of_le inside' (List.length_take_le' _ _))]
      rfl
  · simp only [streamEnv, taken, channel, List.length_drop]
    omega

theorem nodeEnv_grants {n : Nat} (small : n ≤ 100) (base : List Event) :
    Grants nodeEnv nodePairing n base :=
  ⟨fun _ _ _ => rfl, fun _ => ⟨rfl, small⟩,
    fun _ _ => ⟨rfl, Nat.le_trans small (Nat.le_add_left _ _)⟩, fun _ _ => rfl⟩

theorem transfer_end_to_end_node :
    Delivered nodePairing nodePayload nodeLink
      (run (linkStep nodePairing (streamEnv nodePayload) nodeEnv) nodeLink
        (List.replicate 160 (plainRound nodePairing)).flatten) := by
  have clear : ClearFor nodePairing (streamEnv nodePayload) nodeEnv 160 nodeLink := by
    decide +kernel
  have rounds := plainRounds nodePairing rfl rfl 160 nodeLink clear
  refine (transfer_end_to_end nodePairing (streamEnv nodePayload) nodeEnv nodePayload nodeRam
    nodeRam [] [] ?_ ?_ ?_ ?_ ?_).2 _ rounds ?_
  · exact show _ ∈ _ by decide +kernel
  · decide +kernel
  · exact ⟨by decide +kernel, by decide +kernel, by decide +kernel⟩
  · exact streamEnv_provides nodePayload (by decide +kernel)
  · exact nodeEnv_grants (by decide +kernel) _
  · decide +kernel

end Node

end AnchorNode.CanTp
