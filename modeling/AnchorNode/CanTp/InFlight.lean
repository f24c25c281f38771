import AnchorNode.CanTp.CurrentFrame

/-! Frames in flight: the CAN interface confirms every accepted frame of an N-PDU exactly
once and in order, but arbitrarily late. Which of them does a confirmation belong to? -/

namespace AnchorNode.CanTp

open AnchorNode.Lib

variable {b : Build} {cfg : Config b} {env : Env} {lapse : Lapse → Prop}

def inFlight (confirmed : Nat → Nat) (log : List Event) (p : Nat) : List SentFrame :=
  (acceptedFrames p log).drop (confirmed p)

/-- Confirmations do not overtake frames, and a channel that waits for an N-PDU recorded for
it waits for the last frame in flight there, which is the most recent one of its transfer. -/
structure LastInFlight (b : Build) (cfg : Config b) (confirmed : Nat → Nat) (s : State) :
    Prop where
  counted : ∀ p, confirmed p ≤ (acceptedFrames p s.log).length
  last : ∀ c < cfg.numberOfChannels, ∀ p, s.txConfirmationChannel p = c →
    (s.view c).WaitsFor b cfg p → ∃ older frame,
      inFlight confirmed s.log p = older ++ [frame] ∧ currentFrame c s.log = some frame

theorem channel_valid {c : Nat} (bound : c < cfg.numberOfChannels) : c ≠ b.invalidChannel := by
  have fit := cfg.channels_fit
  simp only [Build.invalidChannel]
  omega

theorem Move.lastInFlight {s s' : State} {confirmed : Nat → Nat}
    (move : Move b cfg lapse s s') (before : LastInFlight b cfg confirmed s) :
    LastInFlight b cfg confirmed s' := by
  cases move with
  | silent silent =>
      obtain ⟨events, log, noise⟩ := silent.log
      have accepted (p : Nat) : acceptedFrames p s'.log = acceptedFrames p s.log := by
        rw [log, acceptedFrames_append, acceptedFrames_noise noise, List.append_nil]
      constructor
      · intro p
        rw [accepted]
        exact before.counted p
      · intro c bound p entry waits
        rw [silent.view] at waits
        rw [silent.table] at entry
        rw [inFlight, accepted, log, currentFrame_noise noise]
        exact before.last c bound p entry waits
  | channel bound' step becomes =>
      rename_i d events v
      constructor
      · intro p
        rw [becomes.log, acceptedFrames_append, List.length_append]
        exact Nat.le_trans (before.counted p) (Nat.le_add_right _ _)
      · intro c bound p entry waits
        rw [becomes.table] at entry
        by_cases same : c = d
        · subst same
          rw [becomes.view_here] at waits
          obtain ⟨frame, sent, tracked⟩ := step.sent_last (channel_valid bound) waits entry
          refine ⟨inFlight confirmed s.log p, frame, ?_, ?_⟩
          · rw [inFlight, becomes.log, acceptedFrames_append, sent,
              List.drop_append_of_le_length (before.counted p)]
            rfl
          · rw [becomes.log, currentFrame, List.foldl_append]
            exact tracked _
        · rw [becomes.view_elsewhere same] at waits
          have held := step.entries_elsewhere same bound p entry
          have quiet : acceptedFrames p events = [] := by
            by_contra sent
            have free := (step.accepted_free sent).1
            exact channel_valid bound (held.symm.trans free)
          rw [inFlight, becomes.log, acceptedFrames_append, quiet, List.append_nil,
            currentFrame_elsewhere same step.events_here]
          exact before.last c bound p held waits

theorem ChannelStep.entry_kept {now c : Nat} {v v' : View} {events : List Event}
    (step : ChannelStep b cfg lapse now c v events v') (abandoned : ¬ lapse .abandonedFrame)
    (unconfirmed : ¬ lapse .confirmation) {p : Nat} (entry : v.table p ≠ b.invalidChannel) :
    v'.table p = v.table p := by
  have update {q value : Nat} (free : v.table q = b.invalidChannel) :
      Function.update v.table q value p = v.table p := by
    apply Function.update_of_ne
    rintro rfl
    exact entry free
  have release {waiting : Bool} {q : Nat}
      (released : waiting = true → v.table q ≠ b.invalidChannel → lapse .abandonedFrame) :
      releasedTable b waiting v.table q p = v.table p := by
    unfold releasedTable
    split
    · rename_i held
      exact update (by_contra fun taken => abandoned (released held taken))
    · rfl
  cases step with
  | txEnd ch busy released => exact release fun waiting => released (by simpa using waiting)
  | rxEnd ch busy released => exact release fun waiting => released (by simpa using waiting)
  | txSent ready free => exact update free
  | txRefused ch ready free => exact update free
  | fcSent sending free => exact update free
  | fcRefused ch sending free => exact update free
  | txBlockedTimeout accepted blocked lapsed gaveUp => exact absurd gaveUp abandoned
  | txDone waiting pending own complete taken => exact absurd taken unconfirmed
  | txNext waiting pending own more block taken => exact absurd taken unconfirmed
  | txAwaitFlow waiting pending own more block taken => exact absurd taken unconfirmed
  | txSkipFlow ch waiting pending own disabled same length taken => exact absurd taken unconfirmed
  | fcConfirmedClear waiting pending own flow taken => exact absurd taken unconfirmed
  | fcConfirmedWait waiting pending own flow taken => exact absurd taken unconfirmed
  | fcConfirmedOverflow waiting pending own flow taken => exact absurd taken unconfirmed
  | _ => rfl

/-- As long as nothing is abandoned, an N-PDU has a frame in flight only while the table
records it, and then one. -/
structure Unabandoned (b : Build) (cfg : Config b) (confirmed : Nat → Nat) (s : State) :
    Prop where
  consistent : TableConsistent b cfg s
  free : ∀ p, ¬ s.txConfirmationChannel p < cfg.numberOfChannels →
    inFlight confirmed s.log p = []
  single : ∀ p, (inFlight confirmed s.log p).length ≤ 1

theorem Move.unabandoned {s s' : State} {confirmed : Nat → Nat} (move : Move b cfg lapse s s')
    (replace : ¬ lapse .replacedPending) (abandoned : ¬ lapse .abandonedFrame)
    (unconfirmed : ¬ lapse .confirmation) (counted : LastInFlight b cfg confirmed s)
    (before : Unabandoned b cfg confirmed s) : Unabandoned b cfg confirmed s' := by
  have consistent := move.tableConsistent replace before.consistent
  cases move with
  | silent silent =>
      obtain ⟨events, log, noise⟩ := silent.log
      have same (p : Nat) : inFlight confirmed s'.log p = inFlight confirmed s.log p := by
        rw [inFlight, log, acceptedFrames_append, acceptedFrames_noise noise, List.append_nil]
        rfl
      refine ⟨consistent, ?_, ?_⟩
      · intro p free
        rw [same]
        exact before.free p (silent.table ▸ free)
      · intro p
        rw [same]
        exact before.single p
  | channel bound step becomes =>
      rename_i d events v
      have grown (p : Nat) : inFlight confirmed s'.log p =
          inFlight confirmed s.log p ++ acceptedFrames p events := by
        rw [inFlight, becomes.log, acceptedFrames_append,
          List.drop_append_of_le_length (counted.counted p)]
        rfl
      refine ⟨consistent, ?_, ?_⟩
      · intro p free
        rw [becomes.table] at free
        have quiet : acceptedFrames p events = [] := by
          by_contra sent
          exact free ((step.accepted_free sent).2.1 ▸ bound)
        rw [grown, quiet, List.append_nil]
        apply before.free p
        intro inside
        have kept := step.entry_kept abandoned unconfirmed (p := p) (channel_valid inside)
        exact free (kept ▸ inside)
      · intro p
        rw [grown]
        by_cases quiet : acceptedFrames p events = []
        · rw [quiet, List.append_nil]
          exact before.single p
        · obtain ⟨open', -, one⟩ := step.accepted_free quiet
          have empty := before.free p fun inside => channel_valid inside open'
          rw [empty, List.nil_append, one]

section Confirmed
variable {s : State} {p : Nat}

/-- `CanTp_TxConfirmation` finds a channel that waits for a confirmation. -/
def Takes (b : Build) (cfg : Config b) (p : Nat) (s : State) : Prop :=
  s.txConfirmationChannel p < cfg.numberOfChannels ∧
    (s.subState (s.txConfirmationChannel p) = .txWaitForTransmitConfirmation ∨
      s.subState (s.txConfirmationChannel p) = .rxWaitForFcTransmitConfirmation)

theorem confirmFrame_ignored (ignored : ¬ Takes b cfg p s) : confirmFrame b cfg p s = s := by
  simp only [confirmFrame]
  split
  · rename_i bound
    split
    · rename_i waiting
      exact absurd ⟨bound, Or.inr waiting⟩ ignored
    · rename_i waiting
      exact absurd ⟨bound, Or.inl waiting⟩ ignored
    · rfl
  · rfl

theorem fcTxConfirmation_table (cfg : Config b) (c : Nat) (s : State) :
    (fcTxConfirmation b cfg c s).txConfirmationChannel = s.txConfirmationChannel := by
  simp only [fcTxConfirmation]
  split <;> simp [pduRConfirmation]

theorem dataTxConfirmation_table (cfg : Config b) (c : Nat) (s : State) :
    (dataTxConfirmation b cfg c s).txConfirmationChannel = s.txConfirmationChannel := by
  simp only [dataTxConfirmation]
  split
  · simp [pduRConfirmation]
  · split
    · simp
    · simp only [prepareFcRecieve]
      split <;> simp

theorem confirmFrame_table (takes : Takes b cfg p s) :
    (confirmFrame b cfg p s).txConfirmationChannel =
      Function.update s.txConfirmationChannel p b.invalidChannel := by
  simp only [confirmFrame, if_pos takes.1]
  rcases takes.2 with waiting | waiting
  · simp [waiting, dataTxConfirmation_table]
  · simp [waiting, fcTxConfirmation_table]

theorem fcTxConfirmation_elsewhere (cfg : Config b) {c d : Nat} (other : d ≠ c) (s : State) :
    (fcTxConfirmation b cfg c s).subState d = s.subState d ∧
      (fcTxConfirmation b cfg c s).channel d = s.channel d := by
  simp only [fcTxConfirmation]
  split <;> simp [pduRConfirmation, other]

theorem dataTxConfirmation_elsewhere (cfg : Config b) {c d : Nat} (other : d ≠ c) (s : State) :
    (dataTxConfirmation b cfg c s).subState d = s.subState d ∧
      (dataTxConfirmation b cfg c s).channel d = s.channel d := by
  simp only [dataTxConfirmation]
  split
  · simp [pduRConfirmation, other]
  · split
    · simp [other]
    · simp only [prepareFcRecieve]
      split <;> simp [other]

theorem confirmFrame_elsewhere (cfg : Config b) {d : Nat} (other : d ≠ s.txConfirmationChannel p) :
    (confirmFrame b cfg p s).subState d = s.subState d ∧
      (confirmFrame b cfg p s).channel d = s.channel d := by
  simp only [confirmFrame]
  split
  · split
    · have kept := fcTxConfirmation_elsewhere cfg other
        (s.setChannel (s.txConfirmationChannel p) { s.channel (s.txConfirmationChannel p) with
          initialTicks := (getElapsedValue b s 0).1 })
      simpa [other] using kept
    · exact dataTxConfirmation_elsewhere cfg other s
    · exact ⟨rfl, rfl⟩
  · exact ⟨rfl, rfl⟩

theorem confirmFrame_accepted (q : Nat) :
    acceptedFrames q (confirmFrame b cfg p s).log = acceptedFrames q s.log := by
  simp only [confirmFrame]
  split
  · split
    · simp only [fcTxConfirmation]
      split <;> simp [pduRConfirmation, acceptedFrames, Event.accepted?]
    · simp only [dataTxConfirmation]
      split
      · simp [pduRConfirmation, acceptedFrames, Event.accepted?]
      · split
        · simp
        · simp only [prepareFcRecieve]
          split <;> simp
    · rfl
  · rfl

/-- The confirmation of `p` passes the checks and changes channel `c`. -/
def Advances (b : Build) (cfg : Config b) (p c : Nat) (s : State) : Prop :=
  s.mainState = true ∧ p < cfg.numberOfTxPdus ∧
    ((confirmFrame b cfg p s).subState c ≠ s.subState c ∨
      (confirmFrame b cfg p s).channel c ≠ s.channel c)

theorem Advances.takes {c : Nat} (advances : Advances b cfg p c s) :
    Takes b cfg p s ∧ s.txConfirmationChannel p = c := by
  obtain ⟨-, -, changed⟩ := advances
  constructor
  · by_contra ignored
    rw [confirmFrame_ignored ignored] at changed
    simp at changed
  · by_contra other
    have kept := confirmFrame_elsewhere cfg (Ne.symm other)
    rw [kept.1, kept.2] at changed
    simp at changed

theorem Takes.waits (takes : Takes b cfg p s) (own : ¬ Misdirected b cfg s p) :
    (s.view (s.txConfirmationChannel p)).WaitsFor b cfg p := by
  obtain ⟨bound, waiting | waiting⟩ := takes
  · refine Or.inl ⟨waiting, ?_⟩
    by_contra other
    exact own ⟨bound, Or.inl ⟨waiting, fun same => other same.symm⟩⟩
  · refine Or.inr ⟨waiting, ?_⟩
    by_contra other
    exact own ⟨bound, Or.inr ⟨waiting, fun same => other same.symm⟩⟩

theorem WaitsFor.takes {c : Nat} (bound : c < cfg.numberOfChannels)
    (entry : s.txConfirmationChannel p = c) (waits : (s.view c).WaitsFor b cfg p) :
    Takes b cfg p s := by
  subst entry
  exact ⟨bound, waits.imp And.left And.left⟩

theorem confirmFrame_cleared {c : Nat} (bound : c < cfg.numberOfChannels)
    (entry : (confirmFrame b cfg p s).txConfirmationChannel p = c) :
    ¬ ((confirmFrame b cfg p s).view c).WaitsFor b cfg p := by
  intro waits
  by_cases takes : Takes b cfg p s
  · rw [confirmFrame_table takes, Function.update_self] at entry
    exact channel_valid bound entry.symm
  · rw [confirmFrame_ignored takes] at entry waits
    exact takes (WaitsFor.takes bound entry waits)

theorem LastInFlight.popped {confirmed : Nat → Nat} (inv : LastInFlight b cfg confirmed s)
    (room : confirmed p < (acceptedFrames p s.log).length)
    (cleared : ∀ c < cfg.numberOfChannels, s.txConfirmationChannel p = c →
      ¬ (s.view c).WaitsFor b cfg p) :
    LastInFlight b cfg (Function.update confirmed p (confirmed p + 1)) s := by
  constructor
  · intro q
    by_cases same : q = p
    · rw [same, Function.update_self]
      exact room
    · rw [Function.update_of_ne same]
      exact inv.counted q
  · intro c bound q entry waits
    by_cases same : q = p
    · subst same
      exact absurd waits (cleared c bound entry)
    · rw [inFlight, Function.update_of_ne same]
      exact inv.last c bound q entry waits

end Confirmed

section Bus
variable (b : Build) (cfg : Config b) (env : Env)

/-- The node with its CAN interface, which counts the confirmations it has given. -/
structure Bus where
  node : State
  confirmed : Nat → Nat

def busStart (s : State) : Bus := ⟨start b cfg s, fun _ => 0⟩

def busStep (bus : Bus) (op : Op) : Bus where
  node := step b cfg env bus.node op
  confirmed := match op with
    | .txConfirmation p => Function.update bus.confirmed p (bus.confirmed p + 1)
    | _ => bus.confirmed

/-- The frames of `p` in the driver, oldest first: the next confirmation is for the head. -/
def Bus.inFlight (bus : Bus) (p : Nat) : List SentFrame :=
  AnchorNode.CanTp.inFlight bus.confirmed bus.node.log p

/-- Only an accepted frame is confirmed, and only once. -/
def ConfirmsAccepted (bus : Bus) : Op → Prop
  | .txConfirmation p => bus.inFlight p ≠ []
  | _ => True

instance (bus : Bus) : (op : Op) → Decidable (ConfirmsAccepted bus op)
  | .txConfirmation p => inferInstanceAs (Decidable (bus.inFlight p ≠ []))
  | .transmit _ _ | .cancelTransmit _ | .cancelReceive _ | .mainFunction | .rxIndication _ _
  | .changeParameter _ _ _ | .tick | .init | .shutdown => inferInstanceAs (Decidable True)

def Awaited (p : Nat) (s : State) : Prop :=
  s.txConfirmationChannel p < cfg.numberOfChannels ∧
    (s.view (s.txConfirmationChannel p)).WaitsFor b cfg p

instance (p : Nat) (s : State) : Decidable (Awaited b cfg p s) :=
  inferInstanceAs (Decidable (_ ∧ (_ ∧ _ ∨ _ ∧ _)))

/-- The frames of `p` in the driver that nobody awaits any more: their transfer was cancelled,
timed out or replaced, or the entry of the N-PDU was given to another one. -/
def Bus.abandoned (bus : Bus) (p : Nat) : List SentFrame :=
  if Awaited b cfg p bus.node then (bus.inFlight p).dropLast else bus.inFlight p

/-- The frame being confirmed is the most recent one of the transfer on channel `c`, and no
other frame of that channel stays unconfirmed. -/
def ConfirmsOwn (bus : Bus) (p c : Nat) : Prop :=
  ∃ frame rest, bus.inFlight p = frame :: rest ∧ currentFrame c bus.node.log = some frame ∧
    ∀ other ∈ rest, other.ch ≠ c

def ConfirmsOwnFrame (bus : Bus) : Op → Prop
  | .txConfirmation p => ∀ c, Advances b cfg p c bus.node → ConfirmsOwn bus p c
  | _ => True

/-- The confirmation is for the transfer on the channel it changes exactly if no abandoned frame
of the N-PDU is in the driver. -/
def OwnUnlessAbandoned (bus : Bus) : Op → Prop
  | .txConfirmation p => ∀ c, Advances b cfg p c bus.node →
    (ConfirmsOwn bus p c ↔ bus.abandoned b cfg p = [])
  | _ => True

/-- No frame in the driver is abandoned. -/
def NoneAbandoned (bus : Bus) (_ : Op) : Prop :=
  ∀ p < cfg.numberOfTxPdus, bus.abandoned b cfg p = []

end Bus

section Runs

structure NodeOk (b : Build) (cfg : Config b) (confirmed : Nat → Nat) (s : State) : Prop where
  ready : s.mainState = true
  owned : Owned b cfg s
  own : ∀ c < cfg.numberOfChannels, OwnFrame cfg c (currentFrame c s.log) (s.view c)
  last : LastInFlight b cfg confirmed s

theorem Move.nodeOk {s s' : State} {confirmed : Nat → Nat} (move : Move b cfg lapse s s')
    (before : NodeOk b cfg confirmed s) : NodeOk b cfg confirmed s' := by
  refine ⟨?_, move.owned before.owned, fun c => move.ownFrame before.own,
    move.lastInFlight before.last⟩
  cases move with
  | silent silent => exact silent.mainState.trans before.ready
  | channel _ _ becomes => exact becomes.mainState.trans before.ready

theorem Path.nodeOk {s s' : State} {confirmed : Nat → Nat} (path : Path b cfg lapse s s')
    (before : NodeOk b cfg confirmed s) : NodeOk b cfg confirmed s' :=
  path.invariant (NodeOk b cfg confirmed) (fun _ _ move => move.nodeOk) before

theorem Owned.configured {s : State} {c p : Nat} (owned : Owned b cfg s)
    (bound : c < cfg.numberOfChannels) (waits : (s.view c).WaitsFor b cfg p) :
    p < cfg.numberOfTxPdus := by
  rcases waits with ⟨waiting, own⟩ | ⟨waiting, own⟩
  · have busy : (s.view c).sub.state = .transmission := by simp [waiting, SubState.state]
    exact own ▸ cfg.txSdu_confirmation _ ((owned c bound).transmission busy).1
  · have busy : (s.view c).sub.state = .reception := by simp [waiting, SubState.state]
    exact own ▸ cfg.rxSdu_confirmation _ ((owned c bound).reception busy).1

theorem inFlight_room {confirmed : Nat → Nat} {log : List Event} {p : Nat}
    (waiting : inFlight confirmed log p ≠ []) :
    confirmed p < (acceptedFrames p log).length := by
  by_contra beyond
  exact waiting (List.drop_eq_nil_of_le (Nat.le_of_not_lt beyond))

variable {bus : Bus} {p : Nat}

theorem NodeOk.confirmFrame (ok : NodeOk b cfg bus.confirmed bus.node)
    (configured : p < cfg.numberOfTxPdus) (accepted : bus.inFlight p ≠ []) :
    NodeOk b cfg (Function.update bus.confirmed p (bus.confirmed p + 1))
      (CanTp.confirmFrame b cfg p bus.node) := by
  have path : Path b cfg (fun _ => True) bus.node (CanTp.confirmFrame b cfg p bus.node) :=
    confirmFrame_path configured (fun _ => trivial) trivial
  have kept := path.nodeOk ok
  refine ⟨kept.ready, kept.owned, kept.own, kept.last.popped ?_ ?_⟩
  · rw [confirmFrame_accepted]
    exact inFlight_room accepted
  · exact fun c bound entry => confirmFrame_cleared bound entry

theorem busStep_ok (env : Env) {op : Op} (call : op.isCall = true)
    (queue : QueueOk b cfg bus.node.burstQ)
    (ok : NodeOk b cfg bus.confirmed bus.node) (accepted : ConfirmsAccepted bus op) :
    QueueOk b cfg (busStep b cfg env bus op).node.burstQ ∧
      NodeOk b cfg (busStep b cfg env bus op).confirmed (busStep b cfg env bus op).node := by
  have path : Path b cfg (fun _ => True) bus.node (step b cfg env bus.node op) :=
    call_path queue call fun _ _ => trivial
  refine ⟨path.queue queue, ?_⟩
  cases op with
  | txConfirmation p =>
      simp only [busStep, step, txConfirmation, devCheck, ok.ready, if_true]
      by_cases configured : p < cfg.numberOfTxPdus
      · rw [if_neg (Nat.not_le.mpr configured)]
        have confirmed := ok.confirmFrame configured accepted
        have queue' : QueueOk b cfg (CanTp.confirmFrame b cfg p bus.node).burstQ := by
          have first : Path b cfg (fun _ => True) bus.node
              (CanTp.confirmFrame b cfg p bus.node) :=
            confirmFrame_path configured (fun _ => trivial) trivial
          exact first.queue queue
        have burst : Path b cfg (fun _ => True) (CanTp.confirmFrame b cfg p bus.node)
            (burstMainFunction b cfg env (bus.node.txConfirmationChannel p) .txConfirmation
              (CanTp.confirmFrame b cfg p bus.node)) :=
          burstMainFunction_path _ queue' fun _ _ => trivial
        exact burst.nodeOk confirmed
      · rw [if_pos (Nat.le_of_not_lt configured)]
        have reported : Path b cfg (fun _ => True) bus.node
            (bus.node.emit (.reportError .txConfirmation .invalidTxId)) :=
          (emit_silent bus.node _ rfl).path
        have popped := ok.last.popped (p := p) (inFlight_room accepted)
          fun c bound _ waits => configured (ok.owned.configured bound waits)
        exact reported.nodeOk ⟨ok.ready, ok.owned, ok.own, popped⟩
  | _ => exact path.nodeOk ok

theorem mem_acceptedFrames {log : List Event} {frame : SentFrame}
    (member : frame ∈ acceptedFrames p log) : frame.confirmationId = p := by
  obtain ⟨e, -, accepted⟩ := List.mem_filterMap.mp member
  unfold Event.accepted? at accepted
  split at accepted
  · split at accepted
    · rename_i own
      obtain rfl := Option.some.inj accepted
      exact own
    · cases accepted
  · cases accepted

theorem NodeOk.awaited {c : Nat} {frame : SentFrame} (ok : NodeOk b cfg bus.confirmed bus.node)
    (takes : Takes b cfg p bus.node) (entry : bus.node.txConfirmationChannel p = c)
    (current : currentFrame c bus.node.log = some frame) (own : frame.confirmationId = p) :
    Awaited b cfg p bus.node := by
  subst entry
  have named := ((ok.own _ takes.1) frame current).2
  refine ⟨takes.1, ?_⟩
  rcases takes.2 with waiting | waiting
  · refine Or.inl ⟨waiting, Eq.trans (Eq.symm (named _ ?_)) own⟩
    simp [View.confirmationId, State.view, waiting, SubState.state]
  · refine Or.inr ⟨waiting, Eq.trans (Eq.symm (named _ ?_)) own⟩
    simp [View.confirmationId, State.view, waiting, SubState.state]

theorem NodeOk.ownUnlessAbandoned {op : Op} (ok : NodeOk b cfg bus.confirmed bus.node)
    (accepted : ConfirmsAccepted bus op) : OwnUnlessAbandoned b cfg bus op := by
  cases op with
  | txConfirmation p =>
      intro c advances
      obtain ⟨takes, entry⟩ := advances.takes
      by_cases awaited : Awaited b cfg p bus.node
      · obtain ⟨older, last, flight, current⟩ := ok.last.last _ awaited.1 p rfl awaited.2
        rw [entry] at current
        have flight : bus.inFlight p = older ++ [last] := flight
        rw [Bus.abandoned, if_pos awaited, flight, List.dropLast_concat]
        constructor
        · -- a frame behind the confirmed one would be the last, which is of the channel
          rintro ⟨frame, rest, front, -, others⟩
          by_contra some_older
          obtain ⟨oldest, more, rfl⟩ := List.exists_cons_of_ne_nil some_older
          rw [flight, List.cons_append] at front
          obtain ⟨-, rfl⟩ := List.cons.inj front
          have channel := (ok.own _ (entry ▸ takes.1) last current).1
          exact others last (by simp) channel
        · rintro rfl
          exact ⟨last, [], flight, current, by simp⟩
      · rw [Bus.abandoned, if_neg awaited]
        constructor
        · rintro ⟨frame, rest, front, current, -⟩
          have member : frame ∈ bus.inFlight p := by simp [front]
          exact absurd (ok.awaited takes entry current
            (mem_acceptedFrames (List.mem_of_mem_drop member))) awaited
        · exact fun none => absurd none accepted
  | _ => trivial

theorem stepLapse_confirmation {s : State} {op : Op}
    (lapsed : StepLapse b cfg env s op .confirmation) : ∃ p, op = .txConfirmation p := by
  cases op with
  | txConfirmation p => exact ⟨p, rfl⟩
  | mainFunction =>
      have kind := MainLapse.scheduled lapsed
      simp [Scheduled] at kind
  | rxIndication p info =>
      cases info with
      | none => cases lapsed
      | some info =>
          obtain ⟨-, -, lapsed⟩ := lapsed
          revert lapsed
          simp only [IndicationLapse]
          cases getRxContext b cfg s p info with
          | error e => exact fun lapsed => absurd lapsed id
          | ok ctx =>
              simp only [FrameLapse]
              split
              · exact fun lapsed => absurd lapsed id
              · rintro (lapsed | lapsed)
                · exact absurd lapsed id
                · have kind := BurstLapse.scheduled lapsed
                  simp [Scheduled] at kind
  | _ => cases lapsed

theorem Path.unabandoned {s s' : State} {confirmed : Nat → Nat} (path : Path b cfg lapse s s')
    (replace : ¬ lapse .replacedPending) (abandoned : ¬ lapse .abandonedFrame)
    (unconfirmed : ¬ lapse .confirmation) (ok : NodeOk b cfg confirmed s)
    (before : Unabandoned b cfg confirmed s) : Unabandoned b cfg confirmed s' := by
  have both : NodeOk b cfg confirmed s' ∧ Unabandoned b cfg confirmed s' := by
    refine path.invariant (fun s => NodeOk b cfg confirmed s ∧ Unabandoned b cfg confirmed s) ?_
      ⟨ok, before⟩
    rintro s s' move ⟨ok, before⟩
    exact ⟨move.nodeOk ok, move.unabandoned replace abandoned unconfirmed ok.last before⟩
  exact both.2

theorem Unabandoned.takes (before : Unabandoned b cfg bus.confirmed bus.node)
    (configured : p < cfg.numberOfTxPdus) (accepted : bus.inFlight p ≠ []) :
    Takes b cfg p bus.node := by
  have inside : bus.node.txConfirmationChannel p < cfg.numberOfChannels := by
    by_contra outside
    exact accepted (before.free p outside)
  exact WaitsFor.takes inside rfl (before.consistent.waits p configured _ inside rfl)

theorem Unabandoned.popped {s s' : State} {confirmed : Nat → Nat}
    (before : Unabandoned b cfg confirmed s) (consistent : TableConsistent b cfg s')
    (accepted : ∀ q, acceptedFrames q s'.log = acceptedFrames q s.log)
    (table : ∀ q, q ≠ p → s'.txConfirmationChannel q = s.txConfirmationChannel q) :
    Unabandoned b cfg (Function.update confirmed p (confirmed p + 1)) s' := by
  have none : inFlight (Function.update confirmed p (confirmed p + 1)) s'.log p = [] := by
    have single := before.single p
    rw [inFlight, List.length_drop] at single
    rw [inFlight, accepted, Function.update_self]
    exact List.drop_eq_nil_of_le (by omega)
  have others (q : Nat) (other : q ≠ p) :
      inFlight (Function.update confirmed p (confirmed p + 1)) s'.log q =
        inFlight confirmed s.log q := by
    rw [inFlight, accepted, Function.update_of_ne other]
    rfl
  refine ⟨consistent, ?_, ?_⟩
  · intro q free
    by_cases same : q = p
    · rw [same, none]
    · rw [others q same]
      exact before.free q (table q same ▸ free)
  · intro q
    by_cases same : q = p
    · rw [same, none]
      exact Nat.zero_le _
    · rw [others q same]
      exact before.single q

theorem Unabandoned.confirmFrame (before : Unabandoned b cfg bus.confirmed bus.node)
    (configured : p < cfg.numberOfTxPdus) (accepted : bus.inFlight p ≠ []) :
    Unabandoned b cfg (Function.update bus.confirmed p (bus.confirmed p + 1))
      (CanTp.confirmFrame b cfg p bus.node) := by
  have takes := before.takes configured accepted
  have path : Path b cfg (fun l => l ≠ .replacedPending) bus.node
      (CanTp.confirmFrame b cfg p bus.node) :=
    confirmFrame_path configured (fun _ => by simp) (by simp)
  have consistent := path.invariant (TableConsistent b cfg)
    (fun _ _ move => move.tableConsistent (by simp)) before.consistent
  apply before.popped consistent fun q => confirmFrame_accepted q
  intro q other
  rw [confirmFrame_table takes, Function.update_of_ne other]

theorem busStep_unabandoned {op : Op} (call : op.isCall = true)
    (queue : QueueOk b cfg bus.node.burstQ) (ok : NodeOk b cfg bus.confirmed bus.node)
    (before : Unabandoned b cfg bus.confirmed bus.node) (accepted : ConfirmsAccepted bus op)
    (regular : Avoids b cfg env [.abandonedFrame, .replacedPending] bus.node op) :
    Unabandoned b cfg (busStep b cfg env bus op).confirmed (busStep b cfg env bus op).node := by
  have quiet (other : ∀ p, op ≠ .txConfirmation p) :
      Unabandoned b cfg bus.confirmed (step b cfg env bus.node op) := by
    have path : Path b cfg
        (fun l => l ∉ [.abandonedFrame, .replacedPending, .confirmation]) bus.node
        (step b cfg env bus.node op) := by
      refine call_path queue call fun l lapsed => ?_
      simp only [List.mem_cons, List.not_mem_nil, or_false, not_or]
      refine ⟨?_, ?_, ?_⟩
      · rintro rfl
        exact regular .abandonedFrame (by simp) lapsed
      · rintro rfl
        exact regular .replacedPending (by simp) lapsed
      · rintro rfl
        obtain ⟨p, confirmation⟩ := stepLapse_confirmation lapsed
        exact other p confirmation
    exact path.unabandoned (by simp) (by simp) (by simp) ok before
  cases op with
  | txConfirmation p =>
      simp only [busStep, step, txConfirmation, devCheck, ok.ready, if_true]
      by_cases configured : p < cfg.numberOfTxPdus
      · rw [if_neg (Nat.not_le.mpr configured)]
        have first : Path b cfg (fun _ => True) bus.node (CanTp.confirmFrame b cfg p bus.node) :=
          confirmFrame_path configured (fun _ => trivial) trivial
        have burst : Path b cfg
            (fun l => l ∉ [.abandonedFrame, .replacedPending, .confirmation])
            (CanTp.confirmFrame b cfg p bus.node)
            (burstMainFunction b cfg env (bus.node.txConfirmationChannel p) .txConfirmation
              (CanTp.confirmFrame b cfg p bus.node)) := by
          refine burstMainFunction_path _ (first.queue queue) fun l lapsed => ?_
          have kind := BurstLapse.scheduled lapsed
          simp only [List.mem_cons, List.not_mem_nil, or_false, not_or]
          refine ⟨?_, ?_, ?_⟩
          · rintro rfl
            exact regular .abandonedFrame (by simp) ⟨ok.ready, configured, Or.inr (Or.inr lapsed)⟩
          · rintro rfl
            simp [Scheduled] at kind
          · rintro rfl
            simp [Scheduled] at kind
        exact burst.unabandoned (by simp) (by simp) (by simp)
          (ok.confirmFrame configured accepted) (before.confirmFrame configured accepted)
      · rw [if_pos (Nat.le_of_not_lt configured)]
        refine before.popped ⟨before.consistent.range, before.consistent.waits⟩ ?_
          fun _ _ => rfl
        intro q
        simp [acceptedFrames, Event.accepted?]
  | _ => exact quiet (by simp)

theorem Unabandoned.none (before : Unabandoned b cfg bus.confirmed bus.node) (op : Op) :
    NoneAbandoned b cfg bus op := by
  intro p configured
  have single : (bus.inFlight p).length ≤ 1 := before.single p
  by_cases inside : bus.node.txConfirmationChannel p < cfg.numberOfChannels
  · have waits := before.consistent.waits p configured _ inside rfl
    rw [Bus.abandoned, if_pos ⟨inside, waits⟩, ← List.length_eq_zero_iff, List.length_dropLast]
    omega
  · rw [Bus.abandoned, if_neg (fun awaited => inside awaited.1)]
    exact before.free p inside

theorem busStart_ok (cfg : Config b) (s : State) :
    NodeOk b cfg (busStart b cfg s).confirmed (busStart b cfg s).node := by
  refine ⟨rfl, start_owned s, fun c _ => ownFrame_none cfg c _, fun p => Nat.zero_le _, ?_⟩
  intro c bound p entry waits
  have idle : ((start b cfg s).view c).sub = .idle := start_idle cfg s bound
  have waits' : ((start b cfg s).view c).WaitsFor b cfg p := waits
  simp [View.WaitsFor, idle] at waits'

theorem busStart_unabandoned (cfg : Config b) (s : State) :
    Unabandoned b cfg (busStart b cfg s).confirmed (busStart b cfg s).node := by
  have reset := resetModule_tableConsistent cfg { s with log := [] }
  refine ⟨⟨reset.range, reset.waits⟩, fun p _ => rfl, fun p => Nat.zero_le _⟩

theorem run_ownUnlessAbandoned {ops : List Op} (calls : ∀ op ∈ ops, op.isCall = true)
    (queue : QueueOk b cfg bus.node.burstQ) (ok : NodeOk b cfg bus.confirmed bus.node)
    (canIf : Guarded (busStep b cfg env) ConfirmsAccepted bus ops) :
    Guarded (busStep b cfg env) (OwnUnlessAbandoned b cfg) bus ops := by
  -- `NodeOk` carries the run, and the claim on each call is read off it before the call
  induction ops generalizing bus with
  | nil => trivial
  | cons op ops ih =>
      have next := busStep_ok env (calls op (by simp)) queue ok canIf.1
      exact ⟨ok.ownUnlessAbandoned canIf.1,
        ih (fun o member => calls o (by simp [member])) next.1 next.2 canIf.2⟩

theorem run_noneAbandoned {ops : List Op} (calls : ∀ op ∈ ops, op.isCall = true)
    (queue : QueueOk b cfg bus.node.burstQ) (ok : NodeOk b cfg bus.confirmed bus.node)
    (before : Unabandoned b cfg bus.confirmed bus.node)
    (canIf : Guarded (busStep b cfg env) ConfirmsAccepted bus ops)
    (kept : Guarded (step b cfg env) (Avoids b cfg env [.abandonedFrame, .replacedPending])
      bus.node ops) :
    Guarded (busStep b cfg env) (NoneAbandoned b cfg) bus ops := by
  -- beside `NodeOk`, no frame is in flight that the table does not record
  induction ops generalizing bus with
  | nil => trivial
  | cons op ops ih =>
      have call := calls op (by simp)
      have next := busStep_ok env call queue ok canIf.1
      have next' := busStep_unabandoned call queue ok before canIf.1 kept.1
      exact ⟨before.none op,
        ih (fun o member => calls o (by simp [member])) next.1 next.2 next' canIf.2 kept.2⟩

end Runs

def cancelledRun : List Op :=
  [.transmit 0 (some 5), .mainFunction, .cancelTransmit 0, .txConfirmation 0,
    .transmit 0 (some 7), .mainFunction, .txConfirmation 0]

def cancelledBus : Bus :=
  run (busStep nodeBuild nodeConfig nodeEnv) (busStart nodeBuild nodeConfig nodeRam)
    [.transmit 0 (some 5), .mainFunction, .cancelTransmit 0, .transmit 0 (some 7), .mainFunction]

end AnchorNode.CanTp
