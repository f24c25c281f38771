import AnchorNode.CanTp.Ownership
import AnchorNode.Lib.Ledger

/-! Receive indications: every reception the upper layer was told of is ended exactly once. -/

namespace AnchorNode.CanTp

open AnchorNode.Lib

variable {b : Build} {cfg : Config b} {env : Env} {lapse : Lapse → Prop}

def BufReq.holds (answer : BufReq) : Prop := answer = .ok ∨ answer = .ovfl

instance (answer : BufReq) : Decidable answer.holds := inferInstanceAs (Decidable (_ ∨ _))

/-- What an event says about the receptions of RX SDU `r`. -/
def rxMark (r : Nat) : Event → Option Mark
  | .startOfReception _ q _ _ answer _ =>
    if q = r then some (if answer.holds then .opened else .refused) else none
  | .rxIndication _ q _ _ => if q = r then some .closed else none
  | _ => none

def rxMarks (r : Nat) (log : List Event) : List Mark := log.filterMap (rxMark r)

theorem rxMarks_noise {events : List Event} (noise : ∀ e ∈ events, e.isNoise = true) (r : Nat) :
    rxMarks r events = [] := by
  rw [rxMarks, List.filterMap_eq_nil_iff]
  intro e member
  have quiet := noise e member
  cases e <;> simp_all [rxMark, Event.isNoise]

theorem rxMarks_append (r : Nat) (front back : List Event) :
    rxMarks r (front ++ back) = rxMarks r front ++ rxMarks r back := List.filterMap_append

theorem rxMarks_indication (c id r q : Nat) (result : StdReturn) :
    rxMarks r [.rxIndication c q id result] = if q = r then [.closed] else [] := by
  by_cases same : q = r <;> simp [rxMarks, rxMark, same]

theorem rxMarks_start (c id n size r q : Nat) (answer : BufReq) :
    rxMarks r [.startOfReception c q id n answer size] =
      if q = r then [if answer.holds then .opened else .refused] else [] := by
  by_cases same : q = r <;> simp [rxMarks, rxMark, same]

def View.receives (v : View) (r : Nat) : Bool :=
  decide (v.sub.state = .reception ∧ v.ch.activeSduId = r)

def receiving (b : Build) (cfg : Config b) (s : State) (r : Nat) : Bool :=
  (s.view (cfg.rxSdu r).channelId).receives r

def RxTallied (r : Nat) (v : View) (events : List Event) (v' : View) : Prop :=
  Tallies (v.receives r) (rxMarks r events) (v'.receives r)

section Tallied
variable {c q r : Nat} {v v' : View} {events : List Event}

theorem receives_other (other : v.sub.state ≠ .reception) : v.receives r = false := by
  simp [View.receives, other]

theorem receives_busy (busy : v.sub.state = .reception) :
    v.receives r = decide (v.ch.activeSduId = r) := by
  simp [View.receives, busy]

theorem rxTallied_keep (before : v.sub.state = .reception) (after : v'.sub.state = .reception)
    (same : v'.ch.activeSduId = v.ch.activeSduId) (quiet : rxMarks r events = []) :
    RxTallied r v events v' := by
  rw [RxTallied, quiet, receives_busy before, receives_busy after, same]
  exact Tallies.keep _

theorem rxTallied_other (before : v.sub.state ≠ .reception) (after : v'.sub.state ≠ .reception)
    (quiet : rxMarks r events = []) : RxTallied r v events v' := by
  rw [RxTallied, quiet, receives_other before, receives_other after]
  exact Tallies.keep _

theorem rxTallied_end (busy : v.sub.state = .reception) (idle : v'.sub.state ≠ .reception)
    (marks : rxMarks r events = if v.ch.activeSduId = r then [.closed] else []) :
    RxTallied r v events v' := by
  rw [RxTallied, marks, receives_busy busy, receives_other idle]
  exact Tallies.close _

theorem Accepts.tallies {replaced : List Event} (accepts : Accepts b cfg lapse c q v replaced)
    (r : Nat) : Tallies (v.receives r) (rxMarks r replaced) false := by
  obtain ⟨-, -, ⟨idle, rfl⟩ | ⟨reception, active, rfl, -⟩⟩ := accepts
  · rw [receives_other (by simp [idle, SubState.state])]
    exact Tallies.keep _
  · rw [receives_busy reception, active, rxMarks_indication]
    exact Tallies.close _

theorem BriefEnd.tallies {id n : Nat} {answer : BufReq} {rest : List Event}
    (ended : BriefEnd lapse c q id n answer rest) (r : Nat) :
    Tallies (decide (q = r ∧ answer.holds)) (rxMarks r rest) false := by
  have closed (held : answer.holds) (marks : List Mark)
      (right : marks = if q = r then [.closed] else []) :
      Tallies (decide (q = r ∧ answer.holds)) marks false := by
    simp only [held, and_true, right]
    exact Tallies.close _
  obtain ⟨notOk, notOvfl, rfl⟩ | ⟨held, rfl⟩ | ⟨taken, _, _, _, _, rfl, -⟩ := ended
  · simp only [BufReq.holds, notOk, notOvfl, or_self, and_false, decide_false]
    exact Tallies.keep _
  · exact closed held _ (rxMarks_indication ..)
  · exact closed (Or.inl taken) _ (rxMarks_indication ..)

theorem rxTallied_start {id n size : Nat} {answer : BufReq} {replaced rest : List Event}
    (accepts : Accepts b cfg lapse c q v replaced)
    (ended : Tallies (decide (q = r ∧ answer.holds)) (rxMarks r rest) (v'.receives r)) :
    RxTallied r v (replaced ++ .startOfReception c q id n answer size :: rest) v' := by
  rw [RxTallied, rxMarks_append, ← List.singleton_append, rxMarks_append, rxMarks_start]
  exact (accepts.tallies r).trans ((Tallies.attempt _ _).trans ended)

end Tallied

def View.WaitRoundOk (v : View) : Prop :=
  v.sub = .rxWaitForFcTransmitConfirmation → v.ch.flowStatus = .wait →
    0 < v.ch.sduLengthRemaining

theorem ChannelStep.waitRoundOk {now c : Nat} {v v' : View} {events : List Event}
    (step : ChannelStep b cfg lapse now c v events v') (before : v.WaitRoundOk) :
    v'.WaitRoundOk := by
  cases step with
  | fcSent sending free wait => exact fun _ waiting => wait waiting
  | txPrepare accepted => exact fun waiting => by simp [accepted] at waiting
  | txBuffer status waiting => exact before
  | txBlockedTimeout => exact before
  | txFlowWait waiting => exact fun flow => by simp [waiting] at flow
  | rxDoubleIndication => exact before
  | fcPrepare ch sending => exact fun waiting => by simp [sending] at waiting
  | fcConfirmedWait waiting =>
      intro again
      simp only at again
      split at again <;> simp at again
  | rxConsecutive data room sub ch waiting active length remaining more sn rxDl flow sized next =>
      rcases next with rfl | rfl <;> exact fun waiting => by simp at waiting
  | _ => exact fun waiting => by simp at waiting

theorem ChannelStep.rxTallied {now c : Nat} {v v' : View} {events : List Event}
    (step : ChannelStep b cfg lapse now c v events v')
    (double : ¬ lapse .doubleIndication) (foreign : ¬ lapse .foreignIndication)
    (dropped : ¬ lapse .droppedTransmission) (round : v.WaitRoundOk) (r : Nat) :
    RxTallied r v events v' := by
  cases step with
  | txDropped q ch waiting own lapsed => exact absurd lapsed dropped
  | rxForeignIndication q ch waiting own lapsed => exact absurd lapsed foreign
  | rxDoubleIndication idle lapsed => exact absurd lapsed double
  | rxEnd ch busy => exact rxTallied_end busy (by simp [SubState.state]) (rxMarks_indication ..)
  | fcPrepare ch sending active =>
      exact rxTallied_keep (by simp [sending, SubState.state]) (by simp [sending, SubState.state])
        active rfl
  | fcSent sending => exact rxTallied_keep (by simp [sending, SubState.state]) rfl rfl rfl
  | fcRefused ch sending =>
      exact rxTallied_end (by simp [sending, SubState.state]) (by simp [SubState.state])
        (rxMarks_indication ..)
  | fcSkipped ch sending flow flowSame active =>
      exact rxTallied_keep (by simp [sending, SubState.state]) rfl active rfl
  | fcConfirmedClear waiting =>
      exact rxTallied_keep (by simp [waiting, SubState.state]) rfl rfl rfl
  | fcConfirmedWait waiting pending own flow =>
      refine rxTallied_keep (by simp [waiting, SubState.state]) ?_ rfl rfl
      simp only [gt_iff_lt, if_pos (round waiting flow)]
      rfl
  | fcConfirmedOverflow waiting =>
      exact rxTallied_end (by simp [waiting, SubState.state]) (by simp [SubState.state])
        (rxMarks_indication ..)
  | rxBrief ch accepted ended =>
      refine rxTallied_start accepted ?_
      rw [receives_other (by simp [SubState.state])]
      exact ended.tallies r
  | rxFirst accepted active =>
      refine rxTallied_start accepted ?_
      rw [receives_busy (by rfl)]
      simp only [active, BufReq.holds, true_or, and_true]
      exact Tallies.keep _
  | rxOverflow accepted active =>
      refine rxTallied_start accepted ?_
      rw [receives_busy (by rfl)]
      simp only [active, BufReq.holds, or_true, and_true]
      exact Tallies.keep _
  | rxConsecutive data room sub ch waiting active length remaining more sn rxDl flow sized next =>
      refine rxTallied_keep (by simp [waiting, SubState.state]) ?_ active rfl
      rcases next with rfl | rfl <;> rfl
  | rxLast data room ch waiting =>
      exact rxTallied_end (by simp [waiting, SubState.state]) (by simp [SubState.state])
        (rxMarks_indication ..)
  | rxCopyFailed ch waiting =>
      exact rxTallied_end (by simp [waiting, SubState.state]) (by simp [SubState.state])
        (rxMarks_indication ..)
  | txPrepare accepted =>
      exact rxTallied_other (by simp [accepted, SubState.state])
        (by simp [accepted, SubState.state]) rfl
  | txBuffer status waiting =>
      have busy : v.sub.state ≠ .reception := by
        rcases waiting with sub | sub <;> simp [sub, SubState.state]
      exact rxTallied_other busy busy rfl
  | txBlockedTimeout accepted =>
      exact rxTallied_other (by simp [accepted, SubState.state])
        (by simp [accepted, SubState.state]) rfl
  | txFlowWait waiting =>
      exact rxTallied_other (by simp [waiting, SubState.state])
        (by simp [waiting, SubState.state]) rfl
  | accept idle =>
      exact rxTallied_other (by simp [idle, SubState.state]) (by simp [SubState.state]) rfl
  | txEnd ch busy => exact rxTallied_other (by simp [busy]) (by simp [SubState.state]) rfl
  | txSendFailed ready =>
      exact rxTallied_other (by simp [ready.transmission]) (by simp [SubState.state]) rfl
  | txSent ready =>
      exact rxTallied_other (by simp [ready.transmission]) (by simp [SubState.state]) rfl
  | txRefused ch ready =>
      exact rxTallied_other (by simp [ready.transmission]) (by simp [SubState.state]) rfl
  | txDone waiting =>
      exact rxTallied_other (by simp [waiting, SubState.state]) (by simp [SubState.state]) rfl
  | txNext waiting =>
      exact rxTallied_other (by simp [waiting, SubState.state]) (by simp [SubState.state]) rfl
  | txAwaitFlow waiting =>
      exact rxTallied_other (by simp [waiting, SubState.state]) (by simp [SubState.state]) rfl
  | txSkipFlow ch waiting =>
      exact rxTallied_other (by simp [waiting, SubState.state]) (by simp [SubState.state]) rfl
  | txFlowClear x bs stMin waiting =>
      exact rxTallied_other (by simp [waiting, SubState.state]) (by simp [SubState.state]) rfl
  | txForeignConfirmation x ch waiting =>
      exact rxTallied_other (by simp [waiting, SubState.state]) (by simp [SubState.state]) rfl
  | idleTouch ch idle =>
      exact rxTallied_other (by simp [idle, SubState.state]) (by simp [SubState.state]) rfl

def Event.RxAddressed (b : Build) (cfg : Config b) (c : Nat) : Event → Prop
  | .startOfReception d r id _ _ _ =>
    d = c ∧ (cfg.rxSdu r).channelId = c ∧ id = (cfg.rxSdu r).pduRPduHandleId
  | .rxIndication d r id _ =>
    d = c ∧ (cfg.rxSdu r).channelId = c ∧ id = (cfg.rxSdu r).pduRPduHandleId
  | _ => True

theorem Accepts.addressed {c r : Nat} {v : View} {replaced : List Event}
    (accepts : Accepts b cfg lapse c r v replaced) : ∀ e ∈ replaced, e.RxAddressed b cfg c := by
  obtain ⟨-, own, ⟨-, rfl⟩ | ⟨-, -, rfl, -⟩⟩ := accepts
  · simp
  · simpa [Event.RxAddressed] using own

theorem BriefEnd.addressed {c r n : Nat} {answer : BufReq} {rest : List Event}
    (own : (cfg.rxSdu r).channelId = c)
    (ended : BriefEnd lapse c r (cfg.rxSdu r).pduRPduHandleId n answer rest) :
    ∀ e ∈ rest, e.RxAddressed b cfg c := by
  obtain ⟨-, -, rfl⟩ | ⟨-, rfl⟩ | ⟨-, _, _, _, _, rfl, -⟩ := ended
  · simp
  · simpa [Event.RxAddressed] using own
  · simpa [Event.RxAddressed] using own

theorem ChannelStep.rx_addressed {now c : Nat} {v v' : View} {events : List Event}
    (step : ChannelStep b cfg lapse now c v events v') (double : ¬ lapse .doubleIndication)
    (owned : OwnedView b cfg c v) : ∀ e ∈ events, e.RxAddressed b cfg c := by
  have reception (busy : v.sub.state = .reception) :
      (cfg.rxSdu v.ch.activeSduId).channelId = c := (owned.reception busy).2
  cases step with
  | txDropped r ch waiting own => simpa [Event.RxAddressed] using own
  | rxForeignIndication r ch waiting own => simpa [Event.RxAddressed] using own
  | rxDoubleIndication idle lapsed => exact absurd lapsed double
  | rxEnd ch busy => simpa [Event.RxAddressed] using reception busy
  | fcRefused ch sending =>
      simpa [Event.RxAddressed] using reception (by simp [sending, SubState.state])
  | fcConfirmedOverflow waiting =>
      simpa [Event.RxAddressed] using reception (by simp [waiting, SubState.state])
  | rxLast data room ch waiting =>
      simpa [Event.RxAddressed] using reception (by simp [waiting, SubState.state])
  | rxCopyFailed ch waiting =>
      simpa [Event.RxAddressed] using reception (by simp [waiting, SubState.state])
  | rxBrief ch accepted ended =>
      simp only [List.mem_append, List.mem_cons]
      rintro e (old | rfl | new)
      · exact accepted.addressed e old
      · exact ⟨rfl, accepted.2.1, rfl⟩
      · exact ended.addressed accepted.2.1 e new
  | rxFirst accepted =>
      simp only [List.mem_append, List.mem_cons, List.not_mem_nil, or_false]
      rintro e (old | rfl | rfl)
      · exact accepted.addressed e old
      · exact ⟨rfl, accepted.2.1, rfl⟩
      · trivial
  | rxOverflow accepted =>
      simp only [List.mem_append, List.mem_cons, List.not_mem_nil, or_false]
      rintro e (old | rfl)
      · exact accepted.addressed e old
      · exact ⟨rfl, accepted.2.1, rfl⟩
  | _ => simp [Event.RxAddressed]

theorem rxMarks_elsewhere {c r : Nat} {events : List Event}
    (addressed : ∀ e ∈ events, e.RxAddressed b cfg c) (other : (cfg.rxSdu r).channelId ≠ c) :
    rxMarks r events = [] := by
  rw [rxMarks, List.filterMap_eq_nil_iff]
  intro e member
  have own := addressed e member
  cases e <;> simp only [rxMark, Event.RxAddressed, ite_eq_right_iff, reduceCtorEq, imp_false]
    at own ⊢
  · rintro ⟨rfl, -⟩
    exact other own.2.1
  · rintro rfl
    exact other own.2.1

/-- Every reception of every RX SDU that the upper layer holds has been indicated once, with
the SDU's own handle, except for the one that is still open. -/
structure IndicatedOnce (b : Build) (cfg : Config b) (s : State) : Prop where
  once : ∀ r < cfg.numberOfRxSdus, balance (rxMarks r s.log) = some (receiving b cfg s r)
  handle : ∀ c r id result, .rxIndication c r id result ∈ s.log →
    id = (cfg.rxSdu r).pduRPduHandleId

def WaitRoundsOk (b : Build) (cfg : Config b) (s : State) : Prop :=
  ∀ c < cfg.numberOfChannels, (s.view c).WaitRoundOk

theorem Move.waitRoundsOk {s s' : State} (move : Move b cfg lapse s s')
    (before : WaitRoundsOk b cfg s) : WaitRoundsOk b cfg s' := by
  intro c bound
  cases move with
  | silent silent => exact silent.view c ▸ before c bound
  | channel bound' step becomes =>
      rename_i d events v
      by_cases same : c = d
      · subst same
        exact becomes.view_here ▸ step.waitRoundOk (before c bound)
      · rw [becomes.view_elsewhere same]
        exact before c bound

theorem Move.indicatedOnce {s s' : State} (move : Move b cfg lapse s s')
    (double : ¬ lapse .doubleIndication) (foreign : ¬ lapse .foreignIndication)
    (dropped : ¬ lapse .droppedTransmission) (owned : Owned b cfg s)
    (rounds : WaitRoundsOk b cfg s) (before : IndicatedOnce b cfg s) :
    IndicatedOnce b cfg s' := by
  cases move with
  | silent silent =>
      obtain ⟨events, log, noise⟩ := silent.log
      constructor
      · intro r configured
        rw [log, rxMarks_append, rxMarks_noise noise, List.append_nil, before.once r configured]
        simp only [receiving, silent.view]
      · intro c r id result member
        rw [log, List.mem_append] at member
        rcases member with old | new
        · exact before.handle c r id result old
        · have quiet := noise _ new
          simp [Event.isNoise] at quiet
  | channel bound step becomes =>
      rename_i d events v
      have addressed := step.rx_addressed double (owned d bound)
      constructor
      · intro r configured
        rw [becomes.log, rxMarks_append]
        refine Tallies.balance (before.once r configured) ?_
        by_cases here : (cfg.rxSdu r).channelId = d
        · subst here
          have tallied := step.rxTallied double foreign dropped (rounds _ bound) r
          simpa only [receiving, becomes.view_here, RxTallied] using tallied
        · rw [rxMarks_elsewhere addressed here]
          simp only [receiving, becomes.view_elsewhere here]
          exact Tallies.keep _
      · intro c r id result member
        rw [becomes.log, List.mem_append] at member
        rcases member with old | new
        · exact before.handle c r id result old
        · exact (addressed _ new).2.2

theorem start_indicatedOnce (s : State) : IndicatedOnce b cfg (start b cfg s) := by
  constructor
  · intro r configured
    have idle := start_idle cfg s (cfg.rxSdu_channel r configured)
    have quiet : receiving b cfg (start b cfg s) r = false := by
      simp [receiving, View.receives, State.view, idle, SubState.state]
    rw [quiet]
    rfl
  · simp [start, init, resetModule]

theorem start_waitRoundsOk (s : State) : WaitRoundsOk b cfg (start b cfg s) := by
  intro c bound waiting
  have idle : (start b cfg s).subState c = .idle := start_idle cfg s bound
  simp [State.view, idle] at waiting

/-- In every run in which no reception is indicated twice in one flow control round and no
malformed frame ends the transfer of another SDU, each reception the upper layer holds is
indicated exactly once, by the time its channel is idle again. -/
theorem reception_indicated_once (b : Build) (cfg : Config b) (env : Env) (s : State)
    (ops : List Op) (calls : ∀ op ∈ ops, op.isCall = true)
    (regular : Guarded (step b cfg env)
      (Avoids b cfg env [.doubleIndication, .foreignIndication, .droppedTransmission])
      (start b cfg s) ops) :
    IndicatedOnce b cfg (run (step b cfg env) (start b cfg s) ops) ∧
      ∀ r < cfg.numberOfRxSdus,
        (run (step b cfg env) (start b cfg s) ops).subState (cfg.rxSdu r).channelId = .idle →
          balance (rxMarks r (run (step b cfg env) (start b cfg s) ops).log) = some false := by
  have invariant : Owned b cfg (run (step b cfg env) (start b cfg s) ops) ∧
      WaitRoundsOk b cfg (run (step b cfg env) (start b cfg s) ops) ∧
      IndicatedOnce b cfg (run (step b cfg env) (start b cfg s) ops) := by
    refine run_calls _
      (fun s => Owned b cfg s ∧ WaitRoundsOk b cfg s ∧ IndicatedOnce b cfg s) ?_
      (start_queue s) ⟨start_owned s, start_waitRoundsOk s, start_indicatedOnce s⟩ calls regular
    rintro s s' move ⟨owned, rounds, once⟩
    exact ⟨move.owned owned, move.waitRoundsOk rounds,
      move.indicatedOnce (by simp) (by simp) (by simp) owned rounds once⟩
  refine ⟨invariant.2.2, ?_⟩
  intro r configured idle
  rw [invariant.2.2.once r configured]
  simp [receiving, View.receives, State.view, idle, SubState.state]

theorem reception_indicated_once_segmented :
    IndicatedOnce nodeBuild nodeConfig (run (step nodeBuild nodeConfig nodeEnv)
      (start nodeBuild nodeConfig nodeRam)
      [.rxIndication 0 (nodeFrame [0x10, 12, 1, 2, 3, 4, 5, 6]), .mainFunction,
        .txConfirmation 2, .rxIndication 0 (nodeFrame [0x21, 7, 8, 9, 10, 11, 12, 13])]) :=
  (reception_indicated_once nodeBuild nodeConfig nodeEnv nodeRam _ (by decide)
    (by decide +kernel)).1

/-- With `FcWaitMax` 0, a refused poll for buffer space ends the reception and the wait
round that follows in the same call ends it again. -/
theorem refused_poll_indicated_twice :
    ¬ IndicatedOnce nodeBuild { nodeConfig with param := fun _ => ⟨0, 0, 0⟩ }
      (run (step nodeBuild { nodeConfig with param := fun _ => ⟨0, 0, 0⟩ }
          { nodeEnv with
            copyRxData := fun _ _ bytes => (if bytes.isEmpty then .notOk else .ok, 100) })
        (start nodeBuild { nodeConfig with param := fun _ => ⟨0, 0, 0⟩ } nodeRam)
        [.rxIndication 0 (nodeFrame [0x10, 20, 1, 2, 3, 4, 5, 6]), .mainFunction]) := by
  intro indicated
  have once := indicated.once 0 (by decide)
  revert once
  decide +kernel

end AnchorNode.CanTp
