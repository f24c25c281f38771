import AnchorNode.CanTp.Ownership
import AnchorNode.Lib.Ledger

/-! Transmit confirmations: every accepted request is confirmed exactly once. -/

namespace AnchorNode.CanTp

open AnchorNode.Lib

variable {b : Build} {cfg : Config b} {env : Env} {lapse : Lapse → Prop}

/-- What an event says about the requests for TX SDU `x`. -/
def txMark (x : Nat) : Event → Option Mark
  | .transmitOk _ y _ => if y = x then some .opened else none
  | .txConfirmation _ y _ _ => if y = x then some .closed else none
  | _ => none

def txMarks (x : Nat) (log : List Event) : List Mark := log.filterMap (txMark x)

theorem txMarks_noise {events : List Event} (noise : ∀ e ∈ events, e.isNoise = true) (x : Nat) :
    txMarks x events = [] := by
  rw [txMarks, List.filterMap_eq_nil_iff]
  intro e member
  have quiet := noise e member
  cases e <;> simp_all [txMark, Event.isNoise]

def View.transmits (v : View) (x : Nat) : Bool :=
  decide (v.sub.state = .transmission ∧ v.ch.activeSduId = x)

def transmitting (b : Build) (cfg : Config b) (s : State) (x : Nat) : Bool :=
  (s.view (cfg.txSdu x).channelId).transmits x

def Tallied (x : Nat) (v : View) (events : List Event) (v' : View) : Prop :=
  Tallies (v.transmits x) (txMarks x events) (v'.transmits x)

theorem txMarks_request (c n x y : Nat) :
    txMarks x [.transmitOk c y n] = if y = x then [.opened] else [] := by
  by_cases same : y = x <;> simp [txMarks, txMark, same]

theorem txMarks_confirmation (c id x y : Nat) (result : StdReturn) :
    txMarks x [.txConfirmation c y id result] = if y = x then [.closed] else [] := by
  by_cases same : y = x <;> simp [txMarks, txMark, same]

theorem txMarks_append (x : Nat) (front back : List Event) :
    txMarks x (front ++ back) = txMarks x front ++ txMarks x back := List.filterMap_append

theorem tallied_keep {x : Nat} {v v' : View} {events : List Event}
    (before : v.sub.state = .transmission) (after : v'.sub.state = .transmission)
    (same : v'.ch.activeSduId = v.ch.activeSduId) (quiet : txMarks x events = []) :
    Tallied x v events v' := by
  have unchanged : v'.transmits x = v.transmits x := by
    simp [View.transmits, before, after, same]
  rw [Tallied, quiet, unchanged]
  exact Tallies.keep _

theorem tallied_other {x : Nat} {v v' : View} {events : List Event}
    (before : v.sub.state ≠ .transmission) (after : v'.sub.state ≠ .transmission)
    (quiet : txMarks x events = []) : Tallied x v events v' := by
  have first : v.transmits x = false := by simp [View.transmits, before]
  have second : v'.transmits x = false := by simp [View.transmits, after]
  rw [Tallied, quiet, first, second]
  exact Tallies.keep _

theorem tallied_end {x : Nat} {v v' : View} {events : List Event}
    (busy : v.sub.state = .transmission) (idle : v'.sub = .idle)
    (marks : txMarks x events = if v.ch.activeSduId = x then [.closed] else []) :
    Tallied x v events v' := by
  have ended : v'.transmits x = false := by simp [View.transmits, idle, SubState.state]
  have active : v.transmits x = decide (v.ch.activeSduId = x) := by
    simp [View.transmits, busy]
  rw [Tallied, marks, ended, active]
  exact Tallies.close _

theorem txMarks_accepts {c r : Nat} {v : View} {replaced : List Event}
    (accepts : Accepts b cfg lapse c r v replaced) (x : Nat) : txMarks x replaced = [] := by
  obtain ⟨-, -, ⟨-, rfl⟩ | ⟨-, -, rfl, -⟩⟩ := accepts
  · rfl
  · rfl

theorem txMarks_brief {c r id n : Nat} {answer : BufReq} {rest : List Event}
    (ended : BriefEnd lapse c r id n answer rest) (x : Nat) : txMarks x rest = [] := by
  obtain ⟨-, -, rfl⟩ | ⟨-, rfl⟩ | ⟨-, _, _, _, _, rfl, -⟩ := ended
  · rfl
  · rfl
  · rfl

theorem Accepts.not_transmission {c r : Nat} {v : View} {replaced : List Event}
    (accepts : Accepts b cfg lapse c r v replaced) : v.sub.state ≠ .transmission := by
  obtain ⟨-, -, ⟨idle, -⟩ | ⟨reception, -⟩⟩ := accepts
  · simp [idle, SubState.state]
  · simp [reception]

theorem ChannelStep.tallied {now c : Nat} {v v' : View} {events : List Event}
    (step : ChannelStep b cfg lapse now c v events v')
    (blocked : ¬ lapse .blockedTimeout) (foreign : ¬ lapse .foreignConfirmation)
    (dropped : ¬ lapse .droppedTransmission) (x : Nat) : Tallied x v events v' := by
  cases step with
  | accept idle configured own positive short active =>
      have before : v.transmits x = false := by simp [View.transmits, idle, SubState.state]
      rw [Tallied, txMarks_request, before]
      simp only [View.transmits, active, SubState.state, true_and]
      exact Tallies.open _
  | txPrepare accepted =>
      exact tallied_keep (by simp [accepted, SubState.state]) (by simp [accepted, SubState.state])
        rfl rfl
  | txBuffer status waiting =>
      have busy : v.sub.state = .transmission := by
        rcases waiting with sub | sub <;> simp [sub, SubState.state]
      exact tallied_keep busy busy rfl rfl
  | txEnd ch busy => exact tallied_end busy rfl (txMarks_confirmation ..)
  | txSendFailed ready => exact tallied_keep ready.transmission rfl rfl rfl
  | txSent ready => exact tallied_keep ready.transmission rfl rfl rfl
  | txRefused ch ready => exact tallied_end ready.transmission rfl (txMarks_confirmation ..)
  | txBlockedTimeout accepted busy lapsed => exact absurd lapsed blocked
  | txDone waiting =>
      exact tallied_end (by simp [waiting, SubState.state]) rfl (txMarks_confirmation ..)
  | txNext waiting =>
      exact tallied_keep (by simp [waiting, SubState.state]) rfl (by simp) rfl
  | txAwaitFlow waiting =>
      exact tallied_keep (by simp [waiting, SubState.state]) rfl (by simp) rfl
  | txSkipFlow ch waiting pending own disabled same =>
      exact tallied_keep (by simp [waiting, SubState.state]) rfl same rfl
  | txFlowWait waiting =>
      exact tallied_keep (by simp [waiting, SubState.state]) (by simp [waiting, SubState.state])
        rfl rfl
  | txFlowClear y bs stMin waiting =>
      exact tallied_keep (by simp [waiting, SubState.state]) rfl (by simp) rfl
  | txForeignConfirmation y ch waiting own lapsed => exact absurd lapsed foreign
  | txDropped r ch waiting own lapsed => exact absurd lapsed dropped
  | rxForeignIndication r ch waiting =>
      exact tallied_other (by simp [waiting, SubState.state]) (by simp [SubState.state]) rfl
  | rxEnd ch busy => exact tallied_other (by simp [busy]) (by simp [SubState.state]) rfl
  | rxDoubleIndication idle =>
      exact tallied_other (by simp [idle, SubState.state]) (by simp [idle, SubState.state]) rfl
  | idleTouch ch idle =>
      exact tallied_other (by simp [idle, SubState.state]) (by simp [SubState.state]) rfl
  | fcPrepare ch sending =>
      exact tallied_other (by simp [sending, SubState.state]) (by simp [sending, SubState.state])
        rfl
  | fcSent sending =>
      exact tallied_other (by simp [sending, SubState.state]) (by simp [SubState.state]) rfl
  | fcRefused ch sending =>
      exact tallied_other (by simp [sending, SubState.state]) (by simp [SubState.state]) rfl
  | fcSkipped ch sending =>
      exact tallied_other (by simp [sending, SubState.state]) (by simp [SubState.state]) rfl
  | fcConfirmedClear waiting =>
      exact tallied_other (by simp [waiting, SubState.state]) (by simp [SubState.state]) rfl
  | fcConfirmedWait waiting =>
      refine tallied_other (by simp [waiting, SubState.state]) ?_ rfl
      simp only
      split <;> simp [SubState.state]
  | fcConfirmedOverflow waiting =>
      exact tallied_other (by simp [waiting, SubState.state]) (by simp [SubState.state]) rfl
  | rxBrief ch accepted ended =>
      refine tallied_other accepted.not_transmission (by simp [SubState.state]) ?_
      rw [txMarks_append, txMarks_accepts accepted]
      exact txMarks_brief ended x
  | rxFirst accepted =>
      refine tallied_other accepted.not_transmission (by simp [SubState.state]) ?_
      rw [txMarks_append, txMarks_accepts accepted]
      rfl
  | rxOverflow accepted =>
      refine tallied_other accepted.not_transmission (by simp [SubState.state]) ?_
      rw [txMarks_append, txMarks_accepts accepted]
      rfl
  | rxConsecutive data room sub ch waiting active length remaining more sn rxDl flow sized next =>
      refine tallied_other (by simp [waiting, SubState.state]) ?_ rfl
      rcases next with rfl | rfl <;> simp [SubState.state]
  | rxLast data room ch waiting =>
      exact tallied_other (by simp [waiting, SubState.state]) (by simp [SubState.state]) rfl
  | rxCopyFailed ch waiting =>
      exact tallied_other (by simp [waiting, SubState.state]) (by simp [SubState.state]) rfl

def Event.TxAddressed (b : Build) (cfg : Config b) (c : Nat) : Event → Prop
  | .transmitOk d x _ => d = c ∧ (cfg.txSdu x).channelId = c
  | .txConfirmation d x id _ =>
    d = c ∧ (cfg.txSdu x).channelId = c ∧ id = (cfg.txSdu x).pduRPduHandleId
  | _ => True

theorem ChannelStep.tx_addressed {now c : Nat} {v v' : View} {events : List Event}
    (step : ChannelStep b cfg lapse now c v events v') (owned : OwnedView b cfg c v) :
    ∀ e ∈ events, e.TxAddressed b cfg c := by
  have transmission (busy : v.sub.state = .transmission) :
      (cfg.txSdu v.ch.activeSduId).channelId = c := (owned.transmission busy).2
  cases step with
  | accept idle configured own => simpa [Event.TxAddressed] using own
  | txEnd ch busy => simpa [Event.TxAddressed] using transmission busy
  | txRefused ch ready => simpa [Event.TxAddressed] using transmission ready.transmission
  | txBlockedTimeout accepted =>
      simpa [Event.TxAddressed] using transmission (by simp [accepted, SubState.state])
  | txDone waiting =>
      simpa [Event.TxAddressed] using transmission (by simp [waiting, SubState.state])
  | txForeignConfirmation x ch waiting own => simpa [Event.TxAddressed] using own
  | rxBrief ch accepted ended =>
      obtain ⟨-, -, ⟨-, rfl⟩ | ⟨-, -, rfl, -⟩⟩ := accepted <;>
        obtain ⟨-, -, rfl⟩ | ⟨-, rfl⟩ | ⟨-, _, _, _, _, rfl, -⟩ := ended <;>
        simp [Event.TxAddressed]
  | rxFirst accepted =>
      obtain ⟨-, -, ⟨-, rfl⟩ | ⟨-, -, rfl, -⟩⟩ := accepted <;> simp [Event.TxAddressed]
  | rxOverflow accepted =>
      obtain ⟨-, -, ⟨-, rfl⟩ | ⟨-, -, rfl, -⟩⟩ := accepted <;> simp [Event.TxAddressed]
  | _ => simp [Event.TxAddressed]

theorem txMarks_elsewhere {c x : Nat} {events : List Event}
    (addressed : ∀ e ∈ events, e.TxAddressed b cfg c) (other : (cfg.txSdu x).channelId ≠ c) :
    txMarks x events = [] := by
  rw [txMarks, List.filterMap_eq_nil_iff]
  intro e member
  have own := addressed e member
  cases e <;> simp only [txMark, Event.TxAddressed, ite_eq_right_iff, reduceCtorEq, imp_false]
    at own ⊢
  · rintro rfl
    exact other own.2
  · rintro rfl
    exact other own.2.1

/-- Every accepted request of every TX SDU has been confirmed once, with the SDU's own
handle, except for the one that is still outstanding. -/
structure ConfirmedOnce (b : Build) (cfg : Config b) (s : State) : Prop where
  once : ∀ x < cfg.numberOfTxSdus,
    balance (txMarks x s.log) = some (transmitting b cfg s x)
  handle : ∀ c x id result, .txConfirmation c x id result ∈ s.log →
    id = (cfg.txSdu x).pduRPduHandleId

theorem Move.confirmedOnce {s s' : State} (move : Move b cfg lapse s s')
    (blocked : ¬ lapse .blockedTimeout) (foreign : ¬ lapse .foreignConfirmation)
    (dropped : ¬ lapse .droppedTransmission) (owned : Owned b cfg s)
    (before : ConfirmedOnce b cfg s) : ConfirmedOnce b cfg s' := by
  cases move with
  | silent silent =>
      obtain ⟨events, log, noise⟩ := silent.log
      constructor
      · intro x configured
        rw [log, txMarks_append, txMarks_noise noise, List.append_nil, before.once x configured]
        simp only [transmitting, silent.view]
      · intro c x id result member
        rw [log, List.mem_append] at member
        rcases member with old | new
        · exact before.handle c x id result old
        · have quiet := noise _ new
          simp [Event.isNoise] at quiet
  | channel bound step becomes =>
      rename_i d events v
      have addressed := step.tx_addressed (owned d bound)
      constructor
      · intro x configured
        rw [becomes.log, txMarks_append]
        refine Tallies.balance (before.once x configured) ?_
        by_cases here : (cfg.txSdu x).channelId = d
        · subst here
          have tallied := step.tallied blocked foreign dropped x
          simpa only [transmitting, becomes.view_here, Tallied] using tallied
        · rw [txMarks_elsewhere addressed here]
          simp only [transmitting, becomes.view_elsewhere here]
          exact Tallies.keep _
      · intro c x id result member
        rw [becomes.log, List.mem_append] at member
        rcases member with old | new
        · exact before.handle c x id result old
        · exact (addressed _ new).2.2

theorem start_confirmedOnce (s : State) : ConfirmedOnce b cfg (start b cfg s) := by
  constructor
  · intro x configured
    have idle := start_idle cfg s (cfg.txSdu_channel x configured)
    have quiet : transmitting b cfg (start b cfg s) x = false := by
      simp [transmitting, View.transmits, State.view, idle, SubState.state]
    rw [quiet]
    rfl
  · simp [start, init, resetModule]

/-- In every run without a blocked request timing out and without frames of one SDU ending
the transmission of another, each accepted request is confirmed exactly once, by the time
its channel is idle again. -/
theorem transmit_confirmed_once (b : Build) (cfg : Config b) (env : Env) (s : State)
    (ops : List Op) (calls : ∀ op ∈ ops, op.isCall = true)
    (regular : Guarded (step b cfg env)
      (Avoids b cfg env [.blockedTimeout, .foreignConfirmation, .droppedTransmission])
      (start b cfg s) ops) :
    ConfirmedOnce b cfg (run (step b cfg env) (start b cfg s) ops) ∧
      ∀ x < cfg.numberOfTxSdus,
        (run (step b cfg env) (start b cfg s) ops).subState (cfg.txSdu x).channelId = .idle →
          balance (txMarks x (run (step b cfg env) (start b cfg s) ops).log) = some false := by
  have invariant : Owned b cfg (run (step b cfg env) (start b cfg s) ops) ∧
      ConfirmedOnce b cfg (run (step b cfg env) (start b cfg s) ops) := by
    refine run_calls _ (fun s => Owned b cfg s ∧ ConfirmedOnce b cfg s) ?_ (start_queue s)
      ⟨start_owned s, start_confirmedOnce s⟩ calls regular
    rintro s s' move ⟨owned, once⟩
    exact ⟨move.owned owned, move.confirmedOnce (by simp) (by simp) (by simp) owned once⟩
  refine ⟨invariant.2, ?_⟩
  intro x configured idle
  rw [invariant.2.once x configured]
  simp [transmitting, View.transmits, State.view, idle, SubState.state]

theorem transmit_confirmed_once_single :
    (∀ op ∈ [Op.transmit 0 (some 5), .mainFunction, .txConfirmation 0], op.isCall = true) ∧
      ConfirmedOnce nodeBuild nodeConfig (run (step nodeBuild nodeConfig nodeEnv)
        (start nodeBuild nodeConfig nodeRam)
        [.transmit 0 (some 5), .mainFunction, .txConfirmation 0]) :=
  ⟨by decide, (transmit_confirmed_once nodeBuild nodeConfig nodeEnv nodeRam _ (by decide)
    (by decide +kernel)).1⟩

/-- A malformed consecutive frame of RX SDU 0 ends the transmission of TX SDU 0, which waits
for flow control on the same channel, without confirming it. -/
theorem dropped_transmission_unconfirmed :
    ¬ ConfirmedOnce nodeBuild nodeConfig (run (step nodeBuild nodeConfig nodeEnv)
      (start nodeBuild nodeConfig nodeRam)
      [.transmit 0 (some 20), .mainFunction, .txConfirmation 0,
        .rxIndication 0 (nodeFrame [0x21])]) := by
  intro confirmed
  have once := confirmed.once 0 (by decide)
  revert once
  decide +kernel

end AnchorNode.CanTp
