import AnchorNode.CanTp.Ownership
import AnchorNode.Lib.Observer

/-! Observers of one channel: an automaton that reads the interface log of the module and
whose state stays related to the fields of the channel along every run. -/

namespace AnchorNode.CanTp

open AnchorNode.Lib

/-- An observer of channel `c`: it ignores what does not concern the channel, its relation
to the channel survives the passing of time and the table entries other channels set, and
every step of the channel keeps it. -/
structure ChannelObserver (b : Build) (cfg : Config b) (lapse : Lapse → Prop) (c : Nat)
    (T : Type) where
  start : T
  track : T → Event → T
  allowed : T → Event → Prop
  Rel : Nat → T → View → Prop
  elsewhere : ∀ t e, e.channel? ≠ some c → track t e = t ∧ allowed t e
  noise : ∀ t e, e.isNoise = true → track t e = t ∧ allowed t e
  later : ∀ {now now' t v}, now ≤ now' → Rel now t v → Rel now' t v
  others : ∀ {now t v} (table : Nat → Nat), (∀ p, table p = c → v.table p = c) →
    Rel now t v → Rel now t { v with table }
  step : ∀ {now t v v' events}, ChannelStep b cfg lapse now c v events v' →
    OwnedView b cfg c v → Rel now t v →
      Traces track allowed t events ∧ Rel now (events.foldl track t) v'

variable {b : Build} {cfg : Config b} {env : Env} {lapse : Lapse → Prop}

def ChannelObserver.seen {c : Nat} {T : Type} (observer : ChannelObserver b cfg lapse c T)
    (log : List Event) : T :=
  log.foldl observer.track observer.start

/-- The log was allowed throughout, and the channel is as the observer expects. -/
structure Observed {c : Nat} {T : Type} (observer : ChannelObserver b cfg lapse c T)
    (s : State) : Prop where
  traces : Traces observer.track observer.allowed observer.start s.log
  related : observer.Rel s.ticks (observer.seen s.log) (s.view c)

theorem Accepts.events {c r : Nat} {v : View} {replaced : List Event}
    (accepts : Accepts b cfg lapse c r v replaced) : ∀ e ∈ replaced, e.channel? = some c := by
  obtain ⟨-, -, ⟨-, rfl⟩ | ⟨-, -, rfl, -⟩⟩ := accepts
  · simp
  · simp [Event.channel?]

theorem BriefEnd.events {c r id n : Nat} {answer : BufReq} {rest : List Event}
    (ended : BriefEnd lapse c r id n answer rest) : ∀ e ∈ rest, e.channel? = some c := by
  obtain ⟨-, -, rfl⟩ | ⟨-, rfl⟩ | ⟨-, _, _, _, _, rfl, -⟩ := ended
  · simp
  · simp [Event.channel?]
  · simp [Event.channel?]

theorem ChannelStep.events_here {now c : Nat} {v v' : View} {events : List Event}
    (step : ChannelStep b cfg lapse now c v events v') : ∀ e ∈ events, e.channel? = some c := by
  cases step with
  | txSent ready free built => simp [Event.channel?, built.channel]
  | txRefused ch ready free built => simp [Event.channel?, built.channel]
  | fcSent sending free wait built => simp [Event.channel?, built.channel]
  | fcRefused ch sending free built => simp [Event.channel?, built.channel]
  | rxBrief ch accepted ended =>
      have first := accepted.events
      have last := ended.events
      grind [Event.channel?]
  | rxFirst accepted =>
      have first := accepted.events
      grind [Event.channel?]
  | rxOverflow accepted =>
      have first := accepted.events
      grind [Event.channel?]
  | _ => simp [Event.channel?]

theorem ChannelStep.entries_elsewhere {now c d : Nat} {v v' : View} {events : List Event}
    (step : ChannelStep b cfg lapse now d v events v') (other : c ≠ d)
    (bound : c < cfg.numberOfChannels) (p : Nat) (entry : v'.table p = c) : v.table p = c := by
  have valid : c ≠ b.invalidChannel := by
    have := cfg.channels_fit
    simp only [Build.invalidChannel]
    omega
  have update {table : Nat → Nat} {q value : Nat} (own : value ≠ c)
      (entry : Function.update table q value p = c) : table p = c := by
    by_cases same : p = q
    · rw [same, Function.update_self] at entry
      exact absurd entry own
    · rwa [Function.update_of_ne same] at entry
  have release {waiting : Bool} {table : Nat → Nat} {q : Nat}
      (entry : releasedTable b waiting table q p = c) : table p = c := by
    unfold releasedTable at entry
    split at entry
    · exact update valid.symm entry
    · exact entry
  cases step with
  | txEnd => exact release entry
  | rxEnd => exact release entry
  | txSent => exact update other.symm entry
  | fcSent => exact update other.symm entry
  | txRefused => exact update valid.symm entry
  | txBlockedTimeout => exact update valid.symm entry
  | txDone => exact update valid.symm entry
  | txNext => exact update valid.symm entry
  | txAwaitFlow => exact update valid.symm entry
  | txSkipFlow => exact update valid.symm entry
  | fcRefused => exact update valid.symm entry
  | fcConfirmedClear => exact update valid.symm entry
  | fcConfirmedWait => exact update valid.symm entry
  | fcConfirmedOverflow => exact update valid.symm entry
  | _ => exact entry

variable {c : Nat} {T : Type} (observer : ChannelObserver b cfg lapse c T)

theorem seen_append (front back : List Event) :
    observer.seen (front ++ back) = back.foldl observer.track (observer.seen front) :=
  List.foldl_append

theorem Move.observed {s s' : State} (move : Move b cfg lapse s s')
    (bound : c < cfg.numberOfChannels) (owned : Owned b cfg s)
    (before : Observed observer s) : Observed observer s' := by
  cases move with
  | silent silent =>
      obtain ⟨events, log, noise⟩ := silent.log
      have ignored := traces_ignored (t := observer.seen s.log) fun e member =>
        observer.noise _ e (noise e member)
      constructor
      · rw [log, traces_append]
        exact ⟨before.traces, ignored.1⟩
      · rw [log, seen_append, ignored.2, silent.view]
        exact observer.later silent.ticks before.related
  | channel bound' step becomes =>
      rename_i d events v
      by_cases same : c = d
      · subst same
        have kept := observer.step step (owned c bound) before.related
        constructor
        · rw [becomes.log, traces_append]
          exact ⟨before.traces, kept.1⟩
        · rw [becomes.log, seen_append, becomes.view_here, becomes.ticks]
          exact kept.2
      · have ignored := traces_ignored (t := observer.seen s.log) fun e (member : e ∈ events) =>
          observer.elsewhere _ e (by simp [step.events_here e member, Ne.symm same])
        constructor
        · rw [becomes.log, traces_append]
          exact ⟨before.traces, ignored.1⟩
        · rw [becomes.log, seen_append, ignored.2, becomes.view_elsewhere same, becomes.ticks]
          exact observer.others v.table
            (step.entries_elsewhere same bound) before.related

theorem observed_run {forbidden : List Lapse}
    (observer : ChannelObserver b cfg (fun l => l ∉ forbidden) c T)
    (bound : c < cfg.numberOfChannels) (s : State)
    (initial : observer.Rel (start b cfg s).ticks observer.start ((start b cfg s).view c))
    {ops : List Op} (calls : ∀ op ∈ ops, op.isCall = true)
    (avoids : Guarded (step b cfg env) (Avoids b cfg env forbidden) (start b cfg s) ops) :
    Observed observer (run (step b cfg env) (start b cfg s) ops) := by
  have invariant : Owned b cfg (run (step b cfg env) (start b cfg s) ops) ∧
      Observed observer (run (step b cfg env) (start b cfg s) ops) := by
    refine run_calls forbidden (fun s => Owned b cfg s ∧ Observed observer s) ?_
      (start_queue s) ⟨start_owned s, trivial, initial⟩ calls avoids
    rintro s s' move ⟨owned, observed⟩
    exact ⟨move.owned owned, move.observed observer bound owned observed⟩
  exact invariant.2

end AnchorNode.CanTp
