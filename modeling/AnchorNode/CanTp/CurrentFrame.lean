import AnchorNode.CanTp.Observation
import AnchorNode.CanTp.PendingTable

/-! The frames the CAN interface accepts, and the most recent one of the transfer on a channel. -/

namespace AnchorNode.CanTp

open AnchorNode.Lib

section Frames

def Event.accepted? (p : Nat) : Event → Option SentFrame
  | .canIfTransmit frame .ok => if frame.confirmationId = p then some frame else none
  | _ => none

def acceptedFrames (p : Nat) (log : List Event) : List SentFrame :=
  log.filterMap (Event.accepted? p)

def trackFrame (c : Nat) (t : Option SentFrame) : Event → Option SentFrame
  | .canIfTransmit frame .ok => if frame.ch = c then some frame else t
  | .transmitOk d _ _ => if d = c then none else t
  | .startOfReception d .. => if d = c then none else t
  | .rxIndication d .. => if d = c then none else t
  | .txConfirmation d .. => if d = c then none else t
  | _ => t

def currentFrame (c : Nat) (log : List Event) : Option SentFrame := log.foldl (trackFrame c) none

theorem acceptedFrames_append (p : Nat) (front back : List Event) :
    acceptedFrames p (front ++ back) = acceptedFrames p front ++ acceptedFrames p back :=
  List.filterMap_append

theorem acceptedFrames_noise {events : List Event} (noise : ∀ e ∈ events, e.isNoise = true)
    (p : Nat) : acceptedFrames p events = [] := by
  rw [acceptedFrames, List.filterMap_eq_nil_iff]
  intro e member
  have quiet := noise e member
  cases e <;> simp_all [Event.accepted?, Event.isNoise]

theorem currentFrame_noise {c : Nat} {log events : List Event}
    (noise : ∀ e ∈ events, e.isNoise = true) :
    currentFrame c (log ++ events) = currentFrame c log := by
  rw [currentFrame, List.foldl_append]
  apply foldl_ignored
  intro e member
  have quiet := noise e member
  cases e <;> simp_all [trackFrame, Event.isNoise]

theorem currentFrame_elsewhere {c d : Nat} {log events : List Event} (other : c ≠ d)
    (here : ∀ e ∈ events, e.channel? = some d) :
    currentFrame c (log ++ events) = currentFrame c log := by
  rw [currentFrame, List.foldl_append]
  apply foldl_ignored
  intro e member
  have channel := here e member
  cases e with
  | canIfTransmit frame result => cases result <;> simp_all [trackFrame, Event.channel?, Ne.symm]
  | _ => simp_all [trackFrame, Event.channel?, Ne.symm]

end Frames

variable {b : Build} {cfg : Config b} {env : Env} {lapse : Lapse → Prop}

theorem ChannelStep.accepted_free {now c : Nat} {v v' : View} {events : List Event}
    (step : ChannelStep b cfg lapse now c v events v') {p : Nat}
    (sent : acceptedFrames p events ≠ []) : v.table p = b.invalidChannel ∧ v'.table p = c ∧
      (acceptedFrames p events).length = 1 := by
  cases step with
  | txSent ready free built =>
      have own : (cfg.txSdu v.ch.activeSduId).txConfirmationId = p := by
        by_contra other
        simp [acceptedFrames, Event.accepted?, built.confirmation, sentChannel, other] at sent
      refine ⟨own ▸ free, ?_, ?_⟩
      · rw [← own]
        exact Function.update_self _ _ _
      · simp [acceptedFrames, Event.accepted?, built.confirmation, sentChannel, own]
  | fcSent sending free wait built =>
      have own : (cfg.rxSdu v.ch.activeSduId).txConfirmationId = p := by
        by_contra other
        simp [acceptedFrames, Event.accepted?, built.confirmation, other] at sent
      refine ⟨own ▸ free, ?_, ?_⟩
      · rw [← own]
        exact Function.update_self _ _ _
      · simp [acceptedFrames, Event.accepted?, built.confirmation, own]
  | rxBrief ch accepted ended =>
      obtain ⟨-, -, ⟨-, rfl⟩ | ⟨-, -, rfl, -⟩⟩ := accepted <;>
        obtain ⟨-, -, rfl⟩ | ⟨-, rfl⟩ | ⟨-, _, _, _, _, rfl, -⟩ := ended <;>
        simp [acceptedFrames, Event.accepted?] at sent
  | rxFirst accepted =>
      obtain ⟨-, -, ⟨-, rfl⟩ | ⟨-, -, rfl, -⟩⟩ := accepted <;>
        simp [acceptedFrames, Event.accepted?] at sent
  | rxOverflow accepted =>
      obtain ⟨-, -, ⟨-, rfl⟩ | ⟨-, -, rfl, -⟩⟩ := accepted <;>
        simp [acceptedFrames, Event.accepted?] at sent
  | _ => simp [acceptedFrames, Event.accepted?] at sent

theorem ChannelStep.sent_last {now c : Nat} {v v' : View} {events : List Event}
    (step : ChannelStep b cfg lapse now c v events v') (valid : c ≠ b.invalidChannel) {p : Nat}
    (waits : v'.WaitsFor b cfg p) (entry : v'.table p = c) :
    ∃ frame, acceptedFrames p events = [frame] ∧
      ∀ t, events.foldl (trackFrame c) t = some frame := by
  cases step with
  | txSendFailed ready free =>
      rcases waits with ⟨-, own⟩ | ⟨sub, -⟩
      · have unrecorded : v.table p = b.invalidChannel := own ▸ free
        exact absurd (entry.symm.trans unrecorded) valid
      · cases sub
  | txSent ready free built =>
      rename_i frame
      rcases waits with ⟨-, own⟩ | ⟨sub, -⟩
      · refine ⟨frame, ?_, ?_⟩
        · have same : frame.confirmationId = p := built.confirmation.trans own
          simp [acceptedFrames, Event.accepted?, same]
        · simp [trackFrame, built.channel]
      · cases sub
  | fcSent sending free wait built =>
      rename_i frame
      rcases waits with ⟨sub, -⟩ | ⟨-, own⟩
      · cases sub
      · refine ⟨frame, ?_, ?_⟩
        · have same : frame.confirmationId = p := built.confirmation.trans own
          simp [acceptedFrames, Event.accepted?, same]
        · simp [trackFrame, built.channel]
  | txPrepare accepted => simp [View.WaitsFor, accepted] at waits
  | txBuffer status waiting => rcases waiting with sub | sub <;> simp [View.WaitsFor, sub] at waits
  | txBlockedTimeout accepted => simp [View.WaitsFor, accepted] at waits
  | txFlowWait waiting => simp [View.WaitsFor, waiting] at waits
  | rxDoubleIndication idle => simp [View.WaitsFor, idle] at waits
  | fcPrepare ch sending => simp [View.WaitsFor, sending] at waits
  | fcConfirmedWait waiting =>
      by_cases left : v.ch.sduLengthRemaining > 0 <;> simp [View.WaitsFor, left] at waits
  | rxConsecutive data room sub ch waiting active length remaining more sn rxDl flow sized next =>
      rcases next with rfl | rfl <;> simp [View.WaitsFor] at waits
  | _ => simp [View.WaitsFor] at waits

def View.confirmationId (cfg : Config b) (v : View) : Option Nat :=
  match v.sub.state with
  | .idle => none
  | .transmission => some (cfg.txSdu v.ch.activeSduId).txConfirmationId
  | .reception => some (cfg.rxSdu v.ch.activeSduId).txConfirmationId

def OwnFrame (cfg : Config b) (c : Nat) (t : Option SentFrame) (v : View) : Prop :=
  ∀ frame, t = some frame → frame.ch = c ∧
    ∀ p, v.confirmationId cfg = some p → frame.confirmationId = p

theorem ownFrame_none (cfg : Config b) (c : Nat) (v : View) : OwnFrame cfg c none v :=
  fun _ sent => nomatch sent

theorem OwnFrame.within {c : Nat} {t : Option SentFrame} {v v' : View} (own : OwnFrame cfg c t v)
    (state : v'.sub.state = v.sub.state ∨ v'.sub.state = .idle)
    (active : v'.ch.activeSduId = v.ch.activeSduId ∨ v'.sub.state = .idle) :
    OwnFrame cfg c t v' := by
  intro frame sent
  obtain ⟨channel, ids⟩ := own frame sent
  refine ⟨channel, fun p named => ids p ?_⟩
  have busy : v'.sub.state ≠ .idle := by
    intro idle
    simp [View.confirmationId, idle] at named
  rw [← named, View.confirmationId, View.confirmationId, state.resolve_right busy,
    active.resolve_right busy]

theorem ownFrame_sent {c : Nat} {t : Option SentFrame} {v : View} {frame : SentFrame}
    (channel : frame.ch = c) (id : v.confirmationId cfg = some frame.confirmationId) :
    OwnFrame cfg c (trackFrame c t (.canIfTransmit frame .ok)) v := by
  intro other sent
  simp only [trackFrame, channel, if_true, Option.some.injEq] at sent
  subst sent
  refine ⟨channel, fun p active => ?_⟩
  rw [id] at active
  exact Option.some.inj active

theorem ChannelStep.ownFrame {now c : Nat} {v v' : View} {events : List Event}
    {t : Option SentFrame} (step : ChannelStep b cfg lapse now c v events v')
    (own : OwnFrame cfg c t v) : OwnFrame cfg c (events.foldl (trackFrame c) t) v' := by
  cases step with
  | txSent ready free built =>
      refine ownFrame_sent built.channel ?_
      simp [View.confirmationId, SubState.state, built.confirmation]
  | fcSent sending free wait built =>
      refine ownFrame_sent built.channel ?_
      simp [View.confirmationId, SubState.state, built.confirmation]
  | txPrepare accepted => exact own.within (Or.inl rfl) (Or.inl rfl)
  | txBuffer status waiting => exact own.within (Or.inl rfl) (Or.inl rfl)
  | txFlowWait waiting => exact own.within (Or.inl rfl) (Or.inl rfl)
  | txSendFailed ready free =>
      exact own.within (Or.inl (by rw [ready.transmission]; rfl)) (Or.inl rfl)
  | txNext waiting =>
      exact own.within (Or.inl (by simp [waiting, SubState.state])) (Or.inl (by simp))
  | txAwaitFlow waiting =>
      exact own.within (Or.inl (by simp [waiting, SubState.state])) (Or.inl (by simp))
  | txSkipFlow ch waiting pending own' disabled same =>
      exact own.within (Or.inl (by simp [waiting, SubState.state])) (Or.inl same)
  | txFlowClear x bs stMin waiting =>
      exact own.within (Or.inl (by simp [waiting, SubState.state]))
        (Or.inl (by simp [setTxBlockInfo_active]))
  | idleTouch ch idle => exact own.within (Or.inr rfl) (Or.inr rfl)
  | fcPrepare ch sending active => exact own.within (Or.inl rfl) (Or.inl active)
  | fcSkipped ch sending flow flowSame active =>
      exact own.within (Or.inl (by simp [sending, SubState.state])) (Or.inl active)
  | fcConfirmedClear waiting =>
      exact own.within (Or.inl (by simp [waiting, SubState.state])) (Or.inl rfl)
  | fcConfirmedWait waiting =>
      refine own.within ?_ (Or.inl rfl)
      simp only
      split
      · exact Or.inl (by simp [waiting, SubState.state])
      · exact Or.inr rfl
  | rxConsecutive data room sub ch waiting active length remaining more sn rxDl flow sized next =>
      refine own.within (Or.inl ?_) (Or.inl active)
      rcases next with rfl | rfl <;> simp [waiting, SubState.state]
  | rxBrief ch accepted ended =>
      obtain ⟨-, -, rfl⟩ | ⟨-, rfl⟩ | ⟨-, _, _, _, _, rfl, -⟩ := ended <;>
        simpa [trackFrame] using ownFrame_none cfg c _
  | rxFirst accepted => simpa [trackFrame] using ownFrame_none cfg c _
  | rxOverflow accepted => simpa [trackFrame] using ownFrame_none cfg c _
  | _ =>
      simp only [List.foldl, trackFrame, if_true]
      exact ownFrame_none cfg c _

theorem Move.ownFrame {s s' : State} (move : Move b cfg lapse s s')
    (before : ∀ c < cfg.numberOfChannels, OwnFrame cfg c (currentFrame c s.log) (s.view c))
    {c : Nat} (bound : c < cfg.numberOfChannels) :
    OwnFrame cfg c (currentFrame c s'.log) (s'.view c) := by
  cases move with
  | silent silent =>
      obtain ⟨events, log, noise⟩ := silent.log
      rw [log, currentFrame_noise noise, silent.view]
      exact before c bound
  | channel bound' step becomes =>
      rename_i d events v
      by_cases same : c = d
      · subst same
        rw [becomes.log, becomes.view_here, currentFrame, List.foldl_append]
        exact step.ownFrame (before c bound)
      · rw [becomes.log, currentFrame_elsewhere same step.events_here,
          becomes.view_elsewhere same]
        exact (before c bound).within (Or.inl rfl) (Or.inl rfl)

end AnchorNode.CanTp
