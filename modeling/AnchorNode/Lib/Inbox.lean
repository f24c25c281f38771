import Mathlib.Tactic

/-! Things that arrive, wait in a queue with a flag that says so, and are taken out of it and
reported one after the other, as a record of them sees it. -/

namespace AnchorNode.Lib

/-- What has arrived, what has been reported, what the queue still shows and from which index,
and whether the flag is up; with what is reported of a thing, and what the queue shows of it. -/
structure Inbox (S α β γ : Type) where
  arrived : S → List α
  reported : S → List β
  queue : S → List γ
  index : S → Nat
  flag : S → Prop
  report : α → β
  shown : α → γ

namespace Inbox

variable {S α β γ : Type} (x : Inbox S α β γ)

/-- What has arrived and is not reported yet. -/
def unreported (s : S) : List α := (x.arrived s).drop (x.reported s).length

/-- The reports are those of the first arrivals, in order, and the queue holds all the others but
at most one. -/
structure Sound (s : S) : Prop where
  order : x.reported s = ((x.arrived s).take (x.reported s).length).map x.report
  behind : ∃ hand, hand.length ≤ 1 ∧ (x.unreported s).map x.shown = hand ++ x.queue s

/-- Everything that is not reported is in the queue. -/
def Settled (s : S) : Prop := (x.unreported s).map x.shown = x.queue s

/-- Everything that is not reported is in the queue, and the flag says so. -/
def Calm (s : S) : Prop := x.Settled s ∧ (x.queue s = [] ∨ x.flag s)

/-- `a` has been taken out of the queue and is the next one to be reported. -/
def InHand (a : α) (s : S) : Prop :=
  ∃ others, x.unreported s = a :: others ∧ others.map x.shown = x.queue s

/-- `c` is at the head of the queue. -/
def Head (c : γ) (s : S) : Prop := ∃ rest, x.queue s = c :: rest

/-- So many are still to be taken out, and if there are more then the flag says so. -/
def Counted (n : Nat) (s : S) : Prop :=
  n ≤ (x.queue s).length ∧ ((x.queue s).length ≤ n ∨ x.flag s)

/-- Something may have arrived, and nothing else has happened. -/
structure Grows (s s' : S) : Prop where
  more : ∃ more, x.arrived s' = x.arrived s ++ more ∧ x.queue s' = x.queue s ++ more.map x.shown ∧
    (more ≠ [] → x.flag s')
  reported : x.reported s' = x.reported s
  index : x.index s' = x.index s
  flag : x.flag s → x.flag s'

variable {x} {s s' s'' : S} {a : α} {n : Nat}

theorem Sound.reported_le (sound : x.Sound s) :
    (x.reported s).length ≤ (x.arrived s).length := by
  have lengths := congrArg List.length sound.order
  rw [List.length_map, List.length_take] at lengths
  omega

theorem Settled.sound (settled : x.Settled s)
    (order : x.reported s = ((x.arrived s).take (x.reported s).length).map x.report) :
    x.Sound s :=
  ⟨order, [], Nat.zero_le 1, settled⟩

theorem Grows.refl (s : S) : x.Grows s s :=
  ⟨⟨[], by simp, by simp, fun some => absurd rfl some⟩, rfl, rfl, id⟩

theorem Grows.trans (first : x.Grows s s') (second : x.Grows s' s'') : x.Grows s s'' := by
  obtain ⟨more, arrived, queue, flagged⟩ := first.more
  obtain ⟨more', arrived', queue', flagged'⟩ := second.more
  refine ⟨⟨more ++ more', ?_, ?_, ?_⟩, second.reported.trans first.reported,
    second.index.trans first.index, second.flag ∘ first.flag⟩
  · rw [arrived', arrived, List.append_assoc]
  · rw [queue', queue, List.map_append, List.append_assoc]
  · intro some
    by_cases none : more' = []
    · subst none
      exact second.flag (flagged (by simpa using some))
    · exact flagged' none

theorem Sound.same (sound : x.Sound s) (arrived : x.arrived s' = x.arrived s)
    (reported : x.reported s' = x.reported s) (queue : x.queue s' = x.queue s) : x.Sound s' := by
  obtain ⟨order, behind⟩ := sound
  constructor
  · rw [reported, arrived]
    exact order
  · rw [queue, unreported, reported, arrived]
    exact behind

theorem Grows.same (arrived : x.arrived s' = x.arrived s) (reported : x.reported s' = x.reported s)
    (queue : x.queue s' = x.queue s) (index : x.index s' = x.index s)
    (flag : x.flag s → x.flag s') : x.Grows s s' :=
  ⟨⟨[], by simp [arrived], by simp [queue], fun some => absurd rfl some⟩, reported, index, flag⟩

section Growth
variable (sound : x.Sound s) (growth : x.Grows s s')
include sound growth

theorem Grows.unreported : ∃ more, x.unreported s' = x.unreported s ++ more ∧
    x.queue s' = x.queue s ++ more.map x.shown ∧ (more ≠ [] → x.flag s') := by
  obtain ⟨more, arrived, queue, flagged⟩ := growth.more
  refine ⟨more, ?_, queue, flagged⟩
  rw [Inbox.unreported, growth.reported, arrived, List.drop_append_of_le_length sound.reported_le,
    Inbox.unreported]

theorem Sound.grows : x.Sound s' := by
  obtain ⟨more, unreported, queue, -⟩ := growth.unreported sound
  obtain ⟨hand, one, behind⟩ := sound.behind
  constructor
  · obtain ⟨more', arrived, -⟩ := growth.more
    rw [growth.reported, arrived, List.take_append_of_le_length sound.reported_le]
    exact sound.order
  · exact ⟨hand, one, by rw [unreported, queue, List.map_append, behind, List.append_assoc]⟩

theorem Settled.grows (settled : x.Settled s) : x.Settled s' := by
  obtain ⟨more, unreported, queue, -⟩ := growth.unreported sound
  rw [Settled, unreported, queue, List.map_append, settled]

theorem Calm.grows (calm : x.Calm s) : x.Calm s' := by
  refine ⟨calm.1.grows sound growth, ?_⟩
  obtain ⟨more, -, queue, flagged⟩ := growth.unreported sound
  by_cases none : more = []
  · rcases calm.2 with empty | up
    · exact Or.inl (by rw [queue, empty, none]; rfl)
    · exact Or.inr (growth.flag up)
  · exact Or.inr (flagged none)

theorem InHand.grows (hand : x.InHand a s) : x.InHand a s' := by
  obtain ⟨others, unreported, shown⟩ := hand
  obtain ⟨more, unreported', queue, -⟩ := growth.unreported sound
  exact ⟨others ++ more, by rw [unreported', unreported, List.cons_append],
    by rw [List.map_append, shown, queue]⟩

theorem Head.grows {c : γ} (head : x.Head c s) : x.Head c s' := by
  obtain ⟨rest, queue⟩ := head
  obtain ⟨more, -, grown, -⟩ := growth.unreported sound
  exact ⟨rest ++ more.map x.shown, by rw [grown, queue, List.cons_append]⟩

theorem Counted.grows (counted : x.Counted n s) : x.Counted n s' := by
  obtain ⟨more, -, queue, flagged⟩ := growth.unreported sound
  rw [Counted, queue, List.length_append]
  by_cases none : more = []
  · subst none
    simpa using ⟨counted.1, counted.2.imp_right growth.flag⟩
  · exact ⟨Nat.le_add_right_of_le counted.1, Or.inr (flagged none)⟩

end Growth

theorem Counted.all (s : S) : x.Counted (x.queue s).length s := ⟨le_refl _, Or.inl (le_refl _)⟩

theorem Counted.head (counted : x.Counted (n + 1) s) : ∃ c, x.Head c s := by
  cases queue : x.queue s with
  | nil => simp [Counted, queue] at counted
  | cons c rest => exact ⟨c, rest, queue⟩

theorem Counted.calm (counted : x.Counted 0 s) (settled : x.Settled s) : x.Calm s :=
  ⟨settled, counted.2.imp_left fun empty => List.length_eq_zero_iff.mp (Nat.le_zero.mp empty)⟩

theorem Settled.take (settled : x.Settled s) (sound : x.Sound s) {c : γ} {rest : List γ}
    (head : x.queue s = c :: rest) (arrived : x.arrived s' = x.arrived s)
    (reported : x.reported s' = x.reported s) (queue : x.queue s' = rest) :
    ∃ a, x.shown a = c ∧ x.InHand a s' ∧ x.Sound s' := by
  have same : x.unreported s' = x.unreported s := by
    rw [Inbox.unreported, Inbox.unreported, arrived, reported]
  rw [Settled, head] at settled
  obtain ⟨a, others, list, shown, tail⟩ := List.map_eq_cons_iff.mp settled
  refine ⟨a, shown, ⟨others, same.trans list, tail.trans queue.symm⟩, ?_, [c], le_refl _, ?_⟩
  · rw [arrived, reported]
    exact sound.order
  · rw [same, settled, queue]
    rfl

theorem Counted.take (counted : x.Counted (n + 1) s) {c : γ} {rest : List γ}
    (head : x.queue s = c :: rest) (queue : x.queue s' = rest)
    (flag : x.flag s → x.flag s') : x.Counted n s' := by
  rw [Counted, head, List.length_cons] at counted
  rw [Counted, queue]
  exact ⟨by omega, counted.2.imp (by omega) flag⟩

theorem InHand.deliver (hand : x.InHand a s) (sound : x.Sound s)
    (arrived : x.arrived s' = x.arrived s)
    (reported : x.reported s' = x.reported s ++ [x.report a])
    (queue : x.queue s' = x.queue s) : x.Settled s' ∧ x.Sound s' := by
  obtain ⟨others, list, shown⟩ := hand
  have rest : x.unreported s' = others := by
    rw [Inbox.unreported, arrived, reported, List.length_append, List.length_singleton,
      ← List.drop_drop, ← Inbox.unreported, list]
    rfl
  have settled : x.Settled s' := by rw [Settled, rest, shown, queue]
  refine ⟨settled, settled.sound ?_⟩
  have next : (x.arrived s)[(x.reported s).length]? = some a := by
    have head := congrArg List.head? list
    rwa [Inbox.unreported, List.head?_drop, List.head?_cons] at head
  rw [arrived, reported, List.length_append, List.length_singleton, List.take_add_one, next,
    List.map_append, ← sound.order]
  rfl

end Inbox

end AnchorNode.Lib
