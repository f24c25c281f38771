import AnchorNode.CanTp.Carried
import AnchorNode.CanTp.Observation

/-! Accounting of a reception: what was announced, what was copied and what remains. -/

namespace AnchorNode.CanTp

open AnchorNode.Lib

/-- What the interface log shows of a reception. -/
structure Reception where
  sdu : Nat
  announced : Nat
  copied : Nat
  sequence : List Nat
  deriving DecidableEq, Repr

inductive RxSeen where
  | none
  | running (reception : Reception)
  | finished (reception : Reception)
  deriving DecidableEq, Repr

def RxSeen.update (f : Reception → Reception) : RxSeen → RxSeen
  | .running reception => .running (f reception)
  | t => t

def RxSeen.finish : RxSeen → RxSeen
  | .running reception => .finished reception
  | t => t

/-- A reception runs from the `StartOfReception` the upper layer accepts to its indication. -/
def trackReception (c : Nat) (t : RxSeen) : Event → RxSeen
  | .transmitOk d _ _ => if d = c then .none else t
  | .startOfReception d r _ n answer _ =>
    if d = c then if answer = .ok then .running ⟨r, n, 0, []⟩ else .none else t
  | .copyRxData d _ _ data _ _ =>
    if d = c then t.update fun reception =>
      { reception with copied := reception.copied + data.length }
    else t
  | .consecutiveFrame d _ sn =>
    if d = c then t.update fun reception =>
      { reception with sequence := reception.sequence ++ [sn] }
    else t
  | .rxIndication d _ _ result =>
    if d = c then if result = .ok then t.finish else .none else t
  | _ => t

def receptionSeen (c : Nat) (log : List Event) : RxSeen := log.foldl (trackReception c) .none

def InSequence (sequence : List Nat) : Prop :=
  sequence = (List.range sequence.length).map fun i => (i + 1) % 16

/-- No more is copied than was announced, each accepted consecutive frame carries the next
sequence number, and the end is only reported once everything was copied. -/
def AllowedReception (c : Nat) (t : RxSeen) : Event → Prop
  | .copyRxData d r _ data _ _ =>
    d = c → data ≠ [] → ∃ reception, t = .running reception ∧ reception.sdu = r ∧
      reception.copied + data.length ≤ reception.announced
  | .consecutiveFrame d r sn =>
    d = c → ∃ reception, t = .running reception ∧ reception.sdu = r ∧
      sn = (reception.sequence.length + 1) % 16
  | .rxIndication d r _ .ok =>
    d = c → ∃ reception, t = .running reception ∧ reception.sdu = r ∧
      reception.copied = reception.announced ∧ InSequence reception.sequence
  | _ => True

/-- The fields of the channel add up with what the log shows. -/
structure Accounts (b : Build) (ch : Channel) (reception : Reception) : Prop where
  sdu : reception.sdu = ch.activeSduId
  announced : reception.announced = ch.sduLength
  remaining : reception.copied + ch.sduLengthRemaining = reception.announced
  small : reception.announced < 2 ^ b.lengthBits
  sn : ch.sn = (reception.sequence.length + 1) % 16
  sequence : InSequence reception.sequence
  rxDl : 8 ≤ getRxDl b ch ∧ getRxDl b ch ≤ 64

/-- The state of the channel for what the log shows: a reception the upper layer accepted
is in progress, has been indicated, or there is none and at most an overflow to report. -/
def ReceptionRel (b : Build) : RxSeen → View → Prop
  | .running reception, v =>
    v.sub.state = .reception ∧ v.ch.flowStatus ≠ .overflow ∧ Accounts b v.ch reception ∧
      (v.sub = .rxWaitForFcTransmitConfirmation → v.ch.flowStatus = .wait →
        0 < v.ch.sduLengthRemaining)
  | .finished reception, v =>
    v.sub = .idle ∧ (reception.sequence ≠ [] → v.ch.sduLengthRemaining = 0)
  | .none, v =>
    v.sub.state = .reception →
      v.ch.flowStatus = .overflow ∧ v.sub ≠ .rxWaitForConsecutiveFrame

theorem inSequence_append {sequence : List Nat} (ordered : InSequence sequence) :
    InSequence (sequence ++ [(sequence.length + 1) % 16]) := by
  have length : (sequence ++ [(sequence.length + 1) % 16]).length = sequence.length + 1 := by simp
  rw [InSequence, length, List.range_succ, List.map_append, ← ordered]
  rfl

variable {b : Build} {cfg : Config b} {env : Env} {lapse : Lapse → Prop}

theorem ReceptionRel.transmission {t : RxSeen} {v : View} (related : ReceptionRel b t v)
    (busy : v.sub.state = .transmission) : t = .none := by
  cases t with
  | none => rfl
  | running reception => simp [related.1] at busy
  | finished reception => simp [related.1, SubState.state] at busy

theorem ReceptionRel.reception {t : RxSeen} {v : View} (related : ReceptionRel b t v)
    (busy : v.sub.state = .reception) (flow : v.ch.flowStatus ≠ .overflow) :
    ∃ reception, t = .running reception ∧ Accounts b v.ch reception := by
  cases t with
  | none => exact absurd (related busy).1 flow
  | running reception => exact ⟨reception, rfl, related.2.2.1⟩
  | finished reception => simp [related.1, SubState.state] at busy

theorem ReceptionRel.waiting {t : RxSeen} {v : View} (related : ReceptionRel b t v)
    (waiting : v.sub = .rxWaitForConsecutiveFrame) :
    ∃ reception, t = .running reception ∧ v.ch.flowStatus ≠ .overflow ∧
      Accounts b v.ch reception := by
  have busy : v.sub.state = .reception := by simp [waiting, SubState.state]
  cases t with
  | none => exact absurd waiting (related busy).2
  | running reception => exact ⟨reception, rfl, related.2.1, related.2.2.1⟩
  | finished reception => simp [related.1] at waiting

theorem receptionRel_idle {v : View} (idle : v.sub = .idle) : ReceptionRel b .none v := by
  intro busy
  simp [idle, SubState.state] at busy

theorem receptionRel_transmission {v : View} (busy : v.sub.state = .transmission) :
    ReceptionRel b .none v := by
  intro reception
  simp [busy] at reception

structure SameAccount (ch ch' : Channel) : Prop where
  active : ch'.activeSduId = ch.activeSduId
  length : ch'.sduLength = ch.sduLength
  remaining : ch'.sduLengthRemaining = ch.sduLengthRemaining
  sn : ch'.sn = ch.sn
  rxDl : ch'.rxDl = ch.rxDl

theorem Accounts.of_same {ch ch' : Channel} {reception : Reception}
    (accounts : Accounts b ch reception) (same : SameAccount ch ch') :
    Accounts b ch' reception := by
  obtain ⟨sdu, announced, remaining, small, sn, sequence, rxDl⟩ := accounts
  have dl : getRxDl b ch' = getRxDl b ch := by simp [getRxDl, same.rxDl]
  refine ⟨?_, ?_, ?_, small, ?_, sequence, ?_⟩
  · rw [same.active]
    exact sdu
  · rw [same.length]
    exact announced
  · rw [same.remaining]
    exact remaining
  · rw [same.sn]
    exact sn
  · rw [dl]
    exact rxDl

theorem ReceptionRel.keep {t : RxSeen} {v v' : View} (related : ReceptionRel b t v)
    (before : v.sub.state = .reception) (after : v'.sub.state = .reception)
    (same : SameAccount v.ch v'.ch)
    (flow : v'.ch.flowStatus = .overflow ↔ v.ch.flowStatus = .overflow)
    (next : v.ch.flowStatus = .overflow → v'.sub ≠ .rxWaitForConsecutiveFrame)
    (wait : v'.sub = .rxWaitForFcTransmitConfirmation → v'.ch.flowStatus = .wait →
      0 < v'.ch.sduLengthRemaining) :
    ReceptionRel b t v' := by
  cases t with
  | none =>
      intro _
      have overflow := (related before).1
      exact ⟨flow.mpr overflow, next overflow⟩
  | running reception =>
      obtain ⟨-, running, accounts, -⟩ := related
      exact ⟨after, fun overflow => running (flow.mp overflow), accounts.of_same same, wait⟩
  | finished reception => simp [related.1, SubState.state] at before

theorem Accounts.copy {ch ch' : Channel} {reception : Reception} {n : Nat}
    (accounts : Accounts b ch reception) (sized : n ≤ ch.sduLengthRemaining)
    (active : ch'.activeSduId = ch.activeSduId) (length : ch'.sduLength = ch.sduLength)
    (remaining : ch'.sduLengthRemaining = b.subLength ch.sduLengthRemaining n)
    (sn : ch'.sn = (ch.sn + 1) % 16) (rxDl : ch'.rxDl = ch.rxDl) :
    Accounts b ch' { reception with
      copied := reception.copied + n, sequence := reception.sequence ++ [ch.sn] } := by
  obtain ⟨sdu, announced, total, small, number, sequence, dl⟩ := accounts
  have same : getRxDl b ch' = getRxDl b ch := by simp [getRxDl, rxDl]
  rw [subLength_le (by omega) sized] at remaining
  refine ⟨?_, ?_, ?_, small, ?_, ?_, ?_⟩
  · rw [active]
    exact sdu
  · rw [length]
    exact announced
  · simp only [remaining]
    omega
  · simp only [sn, number, List.length_append, List.length_singleton]
    omega
  · rw [number]
    exact inSequence_append sequence
  · rw [same]
    exact dl

theorem Accepts.receptionTraces {c r : Nat} {v : View} {replaced : List Event} {t : RxSeen}
    (accepts : Accepts b cfg lapse c r v replaced) :
    Traces (trackReception c) (AllowedReception c) t replaced := by
  obtain ⟨-, -, ⟨-, rfl⟩ | ⟨-, -, rfl, -⟩⟩ := accepts
  · trivial
  · exact ⟨trivial, trivial⟩

theorem BriefEnd.receptionTraces {c r id n : Nat} {answer : BufReq} {rest : List Event}
    {v : View} (size : Nat) (t : RxSeen) (ended : BriefEnd lapse c r id n answer rest)
    (sized : ¬ lapse .missizedFrame) (idle : v.sub = .idle) :
    Traces (trackReception c) (AllowedReception c) t
        (.startOfReception c r id n answer size :: rest) ∧
      ReceptionRel b
        ((Event.startOfReception c r id n answer size :: rest).foldl (trackReception c) t) v := by
  rcases ended with ⟨refused, -, rfl⟩ | ⟨-, rfl⟩ | ⟨rfl, data, copied, room, result, rfl, all, part⟩
  · simp only [Traces, AllowedReception, List.foldl, trackReception, if_true, refused, if_false]
    exact ⟨⟨trivial, trivial⟩, receptionRel_idle idle⟩
  · simp only [Traces, AllowedReception, List.foldl, trackReception, if_true]
    exact ⟨⟨trivial, trivial, trivial⟩, receptionRel_idle idle⟩
  · have bound := part.resolve_right sized
    cases result with
    | ok =>
        have whole := all rfl
        simp only [Traces, AllowedReception, List.foldl, trackReception, if_true, RxSeen.update,
          RxSeen.finish, Nat.zero_add]
        refine ⟨⟨trivial, ?_, ?_, trivial⟩, idle, ?_⟩
        · exact fun _ _ => ⟨_, rfl, rfl, by simpa using bound⟩
        · exact fun _ => ⟨_, rfl, rfl, whole, rfl⟩
        · simp
    | notOk =>
        simp only [Traces, AllowedReception, List.foldl, trackReception, if_true, RxSeen.update]
        refine ⟨⟨trivial, ?_, trivial, trivial⟩, receptionRel_idle idle⟩
        exact fun _ _ => ⟨_, rfl, rfl, by simpa using bound⟩

theorem ReceptionRel.transmit {c : Nat} {t : RxSeen} {v v' : View} {events : List Event}
    (related : ReceptionRel b t v) (before : v.sub.state = .transmission)
    (after : v'.sub.state ≠ .reception)
    (quiet : ∀ e ∈ events, trackReception c .none e = .none ∧ AllowedReception c .none e) :
    Traces (trackReception c) (AllowedReception c) t events ∧
      ReceptionRel b (events.foldl (trackReception c) t) v' := by
  obtain rfl := related.transmission before
  have ignored := traces_ignored quiet
  rw [ignored.2]
  exact ⟨ignored.1, fun reception => absurd reception after⟩

theorem receptionRel_ended {c r id : Nat} {t : RxSeen} {v : View} (idle : v.sub = .idle) :
    Traces (trackReception c) (AllowedReception c) t [.rxIndication c r id .notOk] ∧
      ReceptionRel b ([Event.rxIndication c r id .notOk].foldl (trackReception c) t) v := by
  simp only [Traces, AllowedReception, List.foldl, trackReception, if_true]
  exact ⟨⟨trivial, trivial⟩, receptionRel_idle idle⟩

theorem ChannelStep.reception {now c : Nat} {v v' : View} {events : List Event} {t : RxSeen}
    (step : ChannelStep b cfg lapse now c v events v') (sized : ¬ lapse .missizedFrame)
    (related : ReceptionRel b t v) :
    Traces (trackReception c) (AllowedReception c) t events ∧
      ReceptionRel b (events.foldl (trackReception c) t) v' := by
  cases step with
  | accept idle =>
      simp only [Traces, AllowedReception, List.foldl, trackReception, if_true]
      exact ⟨⟨trivial, trivial⟩, receptionRel_transmission rfl⟩
  | txPrepare accepted =>
      have busy : v.sub.state = .transmission := by simp [accepted, SubState.state]
      exact related.transmit busy (by simp [busy]) (by simp)
  | txBuffer status waiting =>
      have busy : v.sub.state = .transmission := by
        rcases waiting with sub | sub <;> simp [sub, SubState.state]
      exact related.transmit busy (by simp [busy]) (by simp)
  | txEnd ch busy =>
      exact related.transmit busy (by simp [SubState.state])
        (by simp [trackReception, AllowedReception])
  | txSendFailed ready =>
      exact related.transmit ready.transmission (by simp [SubState.state]) (by simp)
  | txSent ready =>
      exact related.transmit ready.transmission (by simp [SubState.state])
        (by simp [trackReception, AllowedReception])
  | txRefused ch ready =>
      exact related.transmit ready.transmission (by simp [SubState.state])
        (by simp [trackReception, AllowedReception])
  | txBlockedTimeout accepted =>
      have busy : v.sub.state = .transmission := by simp [accepted, SubState.state]
      exact related.transmit busy (by simp [busy]) (by simp [trackReception, AllowedReception])
  | txDone waiting =>
      exact related.transmit (by simp [waiting, SubState.state]) (by simp [SubState.state])
        (by simp [trackReception, AllowedReception])
  | txNext waiting =>
      exact related.transmit (by simp [waiting, SubState.state]) (by simp [SubState.state])
        (by simp)
  | txAwaitFlow waiting =>
      exact related.transmit (by simp [waiting, SubState.state]) (by simp [SubState.state])
        (by simp)
  | txSkipFlow ch waiting =>
      exact related.transmit (by simp [waiting, SubState.state]) (by simp [SubState.state])
        (by simp)
  | txFlowWait waiting =>
      have busy : v.sub.state = .transmission := by simp [waiting, SubState.state]
      exact related.transmit busy (by simp [busy]) (by simp)
  | txFlowClear x bs stMin waiting =>
      exact related.transmit (by simp [waiting, SubState.state]) (by simp [SubState.state])
        (by simp [trackReception, AllowedReception])
  | txForeignConfirmation x ch waiting =>
      exact related.transmit (by simp [waiting, SubState.state]) (by simp [SubState.state])
        (by simp [trackReception, AllowedReception])
  | txDropped r ch waiting => exact receptionRel_ended rfl
  | rxForeignIndication r ch waiting => exact receptionRel_ended rfl
  | rxEnd ch busy => exact receptionRel_ended rfl
  | rxDoubleIndication idle => exact receptionRel_ended idle
  | idleTouch ch idle remaining =>
      refine ⟨trivial, ?_⟩
      cases t with
      | none => exact receptionRel_idle rfl
      | running reception =>
          have busy := related.1
          simp [idle, SubState.state] at busy
      | finished reception => exact ⟨rfl, fun segmented => remaining.trans (related.2 segmented)⟩
  | fcPrepare ch sending active length remaining sn rxDl flow =>
      have busy : v.sub.state = .reception := by simp [sending, SubState.state]
      exact ⟨trivial, related.keep busy busy ⟨active, length, remaining, sn, rxDl⟩ flow
        (by simp [sending]) (by simp [sending])⟩
  | fcSent sending free wait built =>
      have busy : v.sub.state = .reception := by simp [sending, SubState.state]
      exact ⟨⟨trivial, trivial⟩, related.keep busy rfl ⟨rfl, rfl, rfl, rfl, rfl⟩ Iff.rfl
        (by simp) fun _ => wait⟩
  | fcRefused ch sending free built =>
      simp only [Traces, AllowedReception, List.foldl, trackReception, if_true]
      exact ⟨⟨trivial, trivial, trivial⟩, receptionRel_idle rfl⟩
  | fcSkipped ch sending flow flowSame active length remaining sn rxDl =>
      have busy : v.sub.state = .reception := by simp [sending, SubState.state]
      exact ⟨trivial, related.keep busy rfl ⟨active, length, remaining, sn, rxDl⟩
        (by rw [flowSame]) (fun overflow => absurd overflow flow) (by simp)⟩
  | fcConfirmedClear waiting pending own flow =>
      have busy : v.sub.state = .reception := by simp [waiting, SubState.state]
      exact ⟨trivial, related.keep busy rfl ⟨rfl, rfl, rfl, rfl, rfl⟩ Iff.rfl
        (by simp [flow]) (by simp)⟩
  | fcConfirmedWait waiting pending own flow =>
      have busy : v.sub.state = .reception := by simp [waiting, SubState.state]
      refine ⟨trivial, ?_⟩
      have left : 0 < v.ch.sduLengthRemaining := by
        cases t with
        | none => simp [(related busy).1] at flow
        | running reception => exact related.2.2.2 waiting flow
        | finished reception => simp [related.1, SubState.state] at busy
      simp only [left, if_true]
      exact related.keep busy rfl ⟨rfl, rfl, rfl, rfl, rfl⟩ Iff.rfl (by simp) (by simp)
  | fcConfirmedOverflow waiting => exact receptionRel_ended rfl
  | rxBrief ch accepted ended =>
      rw [traces_append, List.foldl_append]
      have whole (t : RxSeen) (size : Nat) :=
        ended.receptionTraces (b := b) (v := ⟨.idle, ch, v.table⟩) size t sized rfl
      exact ⟨⟨accepted.receptionTraces, (whole _ _).1⟩, (whole _ _).2⟩
  | rxFirst accepted active length remaining sn flow sizes =>
      obtain ⟨part, small, rxDl⟩ := sizes.resolve_right sized
      rw [traces_append, List.foldl_append]
      simp only [Traces, AllowedReception, List.foldl, trackReception, if_true, RxSeen.update,
        Nat.zero_add]
      refine ⟨⟨accepted.receptionTraces, trivial, ?_, trivial⟩, rfl, by simp [flow], ?_, by simp⟩
      · exact fun _ _ => ⟨_, rfl, rfl, by simpa using part⟩
      · refine ⟨active.symm, length.symm, ?_, small, sn, rfl, rxDl⟩
        rw [remaining, subLength_le small part]
        exact Nat.add_sub_cancel' part
  | rxOverflow accepted active flow =>
      rw [traces_append, List.foldl_append]
      simp only [Traces, AllowedReception, List.foldl, trackReception, if_true]
      exact ⟨⟨accepted.receptionTraces, trivial, trivial⟩, fun _ => ⟨flow, by simp⟩⟩
  | rxConsecutive data room sub ch waiting active length remaining more sn rxDl flow sized' next =>
      obtain ⟨reception, rfl, running, accounts⟩ := related.waiting waiting
      have copied := accounts.copy sized' active length remaining sn rxDl
      have room : reception.copied + data.length ≤ reception.announced := by
        have := accounts.remaining
        omega
      have busy : sub.state = .reception := by rcases next with rfl | rfl <;> rfl
      simp only [Traces, AllowedReception, List.foldl, trackReception, if_true, RxSeen.update]
      refine ⟨⟨?_, ?_, trivial⟩, busy, ?_, copied, ?_⟩
      · exact fun _ _ => ⟨_, rfl, accounts.sdu, room⟩
      · exact fun _ => ⟨_, rfl, accounts.sdu, accounts.sn⟩
      · rcases flow with flow | flow
        · simp [flow]
        · rwa [flow]
      · rcases next with rfl | rfl <;> simp
  | rxLast data room ch waiting remaining last sized' =>
      obtain ⟨reception, rfl, running, accounts⟩ := related.waiting waiting
      have total := accounts.remaining
      rw [subLength_le (by have := accounts.small; omega) sized', last] at remaining
      simp only [Traces, AllowedReception, List.foldl, trackReception, if_true, RxSeen.update,
        RxSeen.finish]
      refine ⟨⟨?_, ?_, ?_, trivial⟩, rfl, fun _ => last⟩
      · exact fun _ _ => ⟨_, rfl, accounts.sdu, by omega⟩
      · exact fun _ => ⟨_, rfl, accounts.sdu, accounts.sn⟩
      · refine fun _ => ⟨_, rfl, accounts.sdu, by simp only; omega, ?_⟩
        rw [accounts.sn]
        exact inSequence_append accounts.sequence
  | rxCopyFailed ch waiting sized' =>
      obtain ⟨reception, rfl, running, accounts⟩ := related.waiting waiting
      have total := accounts.remaining
      simp only [Traces, AllowedReception, List.foldl, trackReception, if_true, RxSeen.update]
      refine ⟨⟨?_, trivial, trivial⟩, receptionRel_idle rfl⟩
      exact fun _ _ => ⟨_, rfl, accounts.sdu, by omega⟩

def receptionObserver (b : Build) (cfg : Config b) {lapse : Lapse → Prop} (c : Nat)
    (sized : ¬ lapse .missizedFrame) : ChannelObserver b cfg lapse c RxSeen where
  start := .none
  track := trackReception c
  allowed := AllowedReception c
  Rel := fun _ t v => ReceptionRel b t v
  elsewhere := by
    intro t e other
    cases e with
    | rxIndication d r id result =>
        have away : d ≠ c := by simpa [Event.channel?] using other
        cases result <;> simp [trackReception, AllowedReception, away]
    | _ => simp_all [trackReception, AllowedReception, Event.channel?]
  noise := by
    intro t e quiet
    cases e with
    | copyRxData d r id data answer size =>
        obtain rfl : data = [] := by simpa [Event.isNoise] using quiet
        cases t <;> simp [trackReception, AllowedReception, RxSeen.update]
    | _ => simp_all [trackReception, AllowedReception, Event.isNoise]
  later := fun _ related => related
  others := by
    intro now t v table entries related
    cases t <;> exact related
  step := fun step _ related => step.reception sized related

theorem step_sized (sound : SoundLengthCheck b) (s : State) {op : Op}
    (frame : op.frameLength < invalidDl) : Avoids b cfg env [.missizedFrame] s op := by
  intro l member
  obtain rfl : l = .missizedFrame := by simpa using member
  cases op with
  | mainFunction =>
      intro lapsed
      have kind := MainLapse.scheduled lapsed
      simp [Scheduled] at kind
  | txConfirmation p =>
      rintro ⟨-, -, wrong | ⟨wrong, -⟩ | lapsed⟩
      · cases wrong
      · cases wrong
      · have kind := BurstLapse.scheduled lapsed
        simp [Scheduled] at kind
  | rxIndication p info =>
      cases info with
      | none => exact fun lapsed => lapsed
      | some info =>
          rintro ⟨-, -, lapsed⟩
          revert lapsed
          simp only [IndicationLapse]
          cases getRxContext b cfg s p info with
          | error e => exact fun lapsed => lapsed
          | ok ctx =>
              simp only [FrameLapse]
              split
              · exact fun lapsed => lapsed
              · rintro (⟨-, unsound⟩ | lapsed)
                · exact unsound ⟨sound, frame⟩
                · have kind := BurstLapse.scheduled lapsed
                  simp [Scheduled] at kind
  | _ => exact fun lapsed => lapsed

theorem run_sized (sound : SoundLengthCheck b) {ops : List Op}
    (frames : ∀ op ∈ ops, op.frameLength < invalidDl) (s : State) :
    Guarded (step b cfg env) (Avoids b cfg env [.missizedFrame]) s ops := by
  induction ops generalizing s with
  | nil => trivial
  | cons op ops ih =>
      exact ⟨step_sized sound s (frames op (by simp)),
        ih (fun o member => frames o (by simp [member])) _⟩

/-- On channel `c` nothing was copied or indicated that the announced lengths and sequence
numbers do not account for, and the fields of the channel agree with the log. -/
structure ReceptionAccounted (b : Build) (c : Nat) (s : State) : Prop where
  allowed : Traces (trackReception c) (AllowedReception c) .none s.log
  fields : ReceptionRel b (receptionSeen c s.log) (s.view c)

theorem receptionAccounted_run (sound : SoundLengthCheck b) (s : State) {ops : List Op}
    (calls : ∀ op ∈ ops, op.isCall = true) (frames : ∀ op ∈ ops, op.frameLength < invalidDl)
    {c : Nat} (bound : c < cfg.numberOfChannels) :
    ReceptionAccounted b c (run (step b cfg env) (start b cfg s) ops) := by
  have idle : ((start b cfg s).view c).sub = .idle := start_idle cfg s bound
  have sizes : Guarded (step b cfg env) (Avoids b cfg env [.missizedFrame]) (start b cfg s) ops :=
    run_sized sound frames _
  have observed := observed_run (receptionObserver b cfg c (by simp)) bound s
    (receptionRel_idle (b := b) idle) calls sizes
  exact ⟨observed.traces, observed.related⟩

/-- Against every sender: in every reachable state the bytes copied of a reception and the
remaining length add up to the announced one, no more is ever copied, the sequence numbers
are consecutive, and the positive indication comes when all was copied. Every call takes the
announced length, the sequence number and the bytes it copies from the frame it delivers. -/
theorem reception_accounted (b : Build) (cfg : Config b) (env : Env) (s : State)
    (ops : List Op) (sound : SoundLengthCheck b) (calls : ∀ op ∈ ops, op.isCall = true)
    (frames : ∀ op ∈ ops, op.frameLength < invalidDl) :
    (∀ c < cfg.numberOfChannels,
      ReceptionAccounted b c (run (step b cfg env) (start b cfg s) ops)) ∧
    ∀ op, op.isCall = true → op.frameLength < invalidDl →
      Reads (op.Carries cfg) (run (step b cfg env) (start b cfg s) ops)
        (step b cfg env (run (step b cfg env) (start b cfg s) ops) op) := by
  have accounted : ∀ c < cfg.numberOfChannels,
      ReceptionAccounted b c (run (step b cfg env) (start b cfg s) ops) :=
    fun c bound => receptionAccounted_run sound s calls frames bound
  refine ⟨accounted, ?_⟩
  intro op call frame
  apply step_carries sound call frame
  intro c bound waiting
  obtain ⟨reception, -, -, accounts⟩ := (accounted c bound).fields.waiting waiting
  exact accounts.rxDl

def segmentedReception : List Op :=
  [.rxIndication 0 (nodeFrame [0x10, 20, 1, 2, 3, 4, 5, 6]), .mainFunction, .txConfirmation 2,
    .rxIndication 0 (nodeFrame [0x21, 7, 8, 9, 10, 11, 12, 13])]

def lastFrame : Op := .rxIndication 0 (nodeFrame [0x22, 14, 15, 16, 17, 18, 19, 20])

theorem reception_accounted_segmented :
    receptionSeen 0 (run (step nodeBuild nodeConfig nodeEnv) (start nodeBuild nodeConfig nodeRam)
        (segmentedReception ++ [lastFrame])).log = .finished ⟨0, 20, 20, [1, 2]⟩ ∧
    ReceptionAccounted nodeBuild 0
      (run (step nodeBuild nodeConfig nodeEnv) (start nodeBuild nodeConfig nodeRam)
        (segmentedReception ++ [lastFrame])) ∧
    Reads (lastFrame.Carries nodeConfig)
      (run (step nodeBuild nodeConfig nodeEnv) (start nodeBuild nodeConfig nodeRam)
        segmentedReception)
      (step nodeBuild nodeConfig nodeEnv
        (run (step nodeBuild nodeConfig nodeEnv) (start nodeBuild nodeConfig nodeRam)
          segmentedReception) lastFrame) :=
  ⟨by decide +kernel,
    (reception_accounted nodeBuild nodeConfig nodeEnv nodeRam _ nodeBuild_sound (by decide)
      (by decide)).1 0 (by decide),
    (reception_accounted nodeBuild nodeConfig nodeEnv nodeRam segmentedReception nodeBuild_sound
      (by decide) (by decide)).2 lastFrame rfl (by decide)⟩

end AnchorNode.CanTp
