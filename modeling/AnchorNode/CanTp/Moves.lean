import AnchorNode.CanTp.ChannelStep

/-! Moves of the whole module, their paths, and the invariant of the burst queue. -/

namespace AnchorNode.CanTp

open AnchorNode.Lib

section Moves
variable (b : Build) (cfg : Config b)

def QueueOk (q : BurstQ) : Prop :=
  q.head < 256 ∧ q.tail < 256 ∧
    ∀ k, 0 < k → k ≤ (q.tail + 256 - q.head) % 256 →
      q.queue (u8 (q.head + k) % b.burstQueueSize) < cfg.numberOfChannels

/-- Nothing of any transfer changes. -/
structure Silent (s s' : State) : Prop where
  subState : s'.subState = s.subState
  channel : s'.channel = s.channel
  table : s'.txConfirmationChannel = s.txConfirmationChannel
  log : ∃ events, s'.log = s.log ++ events ∧ ∀ e ∈ events, e.isNoise = true
  ticks : s.ticks ≤ s'.ticks
  queue : QueueOk b cfg s.burstQ → QueueOk b cfg s'.burstQ
  mainState : s'.mainState = s.mainState

/-- Channel `c` takes the values of `v`, and `events` are logged. -/
structure Becomes (s s' : State) (c : Nat) (v : View) (events : List Event) : Prop where
  subState : s'.subState = Function.update s.subState c v.sub
  channel : s'.channel = Function.update s.channel c v.ch
  table : s'.txConfirmationChannel = v.table
  log : s'.log = s.log ++ events
  ticks : s'.ticks = s.ticks
  queue : s'.burstQ = s.burstQ
  mainState : s'.mainState = s.mainState

inductive Move (lapse : Lapse → Prop) : State → State → Prop
  | silent {s s' : State} (silent : Silent b cfg s s') : Move lapse s s'
  | channel {s s' : State} {c : Nat} {events : List Event} {v : View}
      (bound : c < cfg.numberOfChannels)
      (step : ChannelStep b cfg lapse s.ticks c (s.view c) events v)
      (becomes : Becomes s s' c v events) : Move lapse s s'

def Path (lapse : Lapse → Prop) : State → State → Prop :=
  Relation.ReflTransGen (Move b cfg lapse)

end Moves

variable {b : Build} {cfg : Config b} {lapse : Lapse → Prop}

theorem Path.refl (s : State) : Path b cfg lapse s s := Relation.ReflTransGen.refl

theorem Path.trans {s s' s'' : State} (first : Path b cfg lapse s s')
    (second : Path b cfg lapse s' s'') : Path b cfg lapse s s'' :=
  Relation.ReflTransGen.trans first second

theorem Move.path {s s' : State} (move : Move b cfg lapse s s') : Path b cfg lapse s s' :=
  Relation.ReflTransGen.single move

theorem Silent.view {s s' : State} (silent : Silent b cfg s s') (c : Nat) :
    s'.view c = s.view c := by
  simp [State.view, silent.subState, silent.channel, silent.table]

theorem Becomes.view_here {s s' : State} {c : Nat} {v : View} {events : List Event}
    (becomes : Becomes s s' c v events) : s'.view c = v := by
  simp [State.view, becomes.subState, becomes.channel, becomes.table]

theorem Becomes.view_elsewhere {s s' : State} {c d : Nat} {v : View} {events : List Event}
    (becomes : Becomes s s' c v events) (other : d ≠ c) :
    s'.view d = { s.view d with table := v.table } := by
  simp [State.view, becomes.subState, becomes.channel, becomes.table, other]

theorem Path.invariant (Inv : State → Prop)
    (preserved : ∀ s s', Move b cfg lapse s s' → Inv s → Inv s') {s s' : State}
    (path : Path b cfg lapse s s') (initial : Inv s) : Inv s' := by
  induction path with
  | refl => exact initial
  | tail _ move ih => exact preserved _ _ move ih

theorem Silent.path {s s' : State} (silent : Silent b cfg s s') : Path b cfg lapse s s' :=
  (Move.silent silent).path

theorem emit_silent (s : State) (e : Event) (noise : e.isNoise = true) :
    Silent b cfg s (s.emit e) where
  subState := rfl
  channel := rfl
  table := rfl
  log := ⟨[e], rfl, by simpa using noise⟩
  ticks := Nat.le_refl _
  queue := id
  mainState := rfl

theorem emit_path {s s' : State} (e : Event) (noise : e.isNoise = true)
    (path : Path b cfg lapse s s') : Path b cfg lapse s (s'.emit e) :=
  path.trans (emit_silent s' e noise).path

theorem log_silent (s : State) (events : List Event) (noise : ∀ e ∈ events, e.isNoise = true) :
    Silent b cfg s { s with log := s.log ++ events } where
  subState := rfl
  channel := rfl
  table := rfl
  log := ⟨events, rfl, noise⟩
  ticks := Nat.le_refl _
  queue := id
  mainState := rfl

theorem burstQ_silent (s : State) (q : BurstQ)
    (kept : QueueOk b cfg s.burstQ → QueueOk b cfg q) :
    Silent b cfg s { s with burstQ := q } where
  subState := rfl
  channel := rfl
  table := rfl
  log := ⟨[], by simp, by simp⟩
  ticks := Nat.le_refl _
  queue := kept
  mainState := rfl

theorem no_noise : ∀ e ∈ ([] : List Event), e.isNoise = true := by
  simp

theorem report_noise (api : ApiId) (error : ErrorId) :
    ∀ e ∈ [Event.reportRunTimeError api error], e.isNoise = true := by
  simp [Event.isNoise]

theorem step_path {s s' : State} {c : Nat} {events : List Event} {v : View}
    (before after : List Event) (bound : c < cfg.numberOfChannels)
    (step : ChannelStep b cfg lapse s.ticks c (s.view c) events v)
    (becomes : Becomes s s' c v (before ++ (events ++ after)))
    (quietBefore : ∀ e ∈ before, e.isNoise = true)
    (quietAfter : ∀ e ∈ after, e.isNoise = true) :
    Path b cfg lapse s s' := by
  have start : Path b cfg lapse s { s with log := s.log ++ before } :=
    (log_silent s before quietBefore).path
  have moved : Move b cfg lapse { s with log := s.log ++ before }
      { s' with log := s.log ++ before ++ events } := by
    refine Move.channel bound step ?_
    exact ⟨becomes.subState, becomes.channel, becomes.table, rfl, becomes.ticks, becomes.queue,
      becomes.mainState⟩
  have finish : Silent b cfg { s' with log := s.log ++ before ++ events } s' := by
    refine ⟨rfl, rfl, rfl, ⟨after, ?_, quietAfter⟩, Nat.le_refl _, id, rfl⟩
    rw [becomes.log]
    simp only [List.append_assoc]
  exact (start.trans moved.path).trans finish.path

section Queue

theorem putInQ_ok {q q' : BurstQ} {c : Nat} (bound : c < cfg.numberOfChannels)
    (put : putInQ b q c = some q') (ok : QueueOk b cfg q) : QueueOk b cfg q' := by
  obtain ⟨head, tail, waiting⟩ := ok
  simp only [putInQ] at put
  split at put
  · obtain rfl := Option.some.inj put
    refine ⟨head, Nat.mod_lt _ (by decide), ?_⟩
    intro k positive inside
    simp only [u8] at inside ⊢
    by_cases slot : (q.head + k) % 256 % b.burstQueueSize =
        (q.tail + 1) % 256 % b.burstQueueSize
    · rw [slot, Function.update_self]
      exact bound
    · rw [Function.update_of_ne slot]
      -- a slot other than the new one was already waiting before
      refine waiting k positive ?_
      by_contra beyond
      exact slot (by congr 1; omega)
  · cases put

theorem getFromQ_ok {q q' : BurstQ} {c : Nat} (got : getFromQ b q = some (c, q'))
    (ok : QueueOk b cfg q) : c < cfg.numberOfChannels ∧ QueueOk b cfg q' := by
  obtain ⟨head, tail, waiting⟩ := ok
  simp only [getFromQ] at got
  split at got
  · rename_i filled
    simp only [Option.some.injEq, Prod.mk.injEq] at got
    obtain ⟨rfl, rfl⟩ := got
    refine ⟨waiting 1 (by decide) (by omega), Nat.mod_lt _ (by decide), tail, ?_⟩
    intro k positive inside
    have shifted := waiting (k + 1) (by omega) (by simp only [u8] at inside; omega)
    have index : u8 (u8 (q.head + 1) + k) = u8 (q.head + (k + 1)) := by
      simp only [u8]
      omega
    simpa only [index] using shifted
  · cases got

end Queue

end AnchorNode.CanTp
