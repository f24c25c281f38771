import Mathlib.Tactic

/-! Observers: what a deterministic automaton reading an event log has seen, and which
events it allows next. -/

namespace AnchorNode.Lib

variable {T E : Type}

/-- Every event of the list is allowed in the state the earlier ones lead to. -/
def Traces (track : T → E → T) (allowed : T → E → Prop) : T → List E → Prop
  | _, [] => True
  | t, e :: es => allowed t e ∧ Traces track allowed (track t e) es

instance Traces.decidable (track : T → E → T) (allowed : T → E → Prop)
    [∀ t e, Decidable (allowed t e)] : (t : T) → (events : List E) →
      Decidable (Traces track allowed t events)
  | _, [] => inferInstanceAs (Decidable True)
  | t, e :: es =>
    have := Traces.decidable track allowed (track t e) es
    inferInstanceAs (Decidable (allowed t e ∧ Traces track allowed (track t e) es))

theorem traces_append (track : T → E → T) (allowed : T → E → Prop) (t : T) (front back : List E) :
    Traces track allowed t (front ++ back) ↔
      Traces track allowed t front ∧ Traces track allowed (front.foldl track t) back := by
  induction front generalizing t with
  | nil => simp [Traces]
  | cons e es ih => simp [Traces, ih, and_assoc]

theorem traces_always {track : T → E → T} {allowed : T → E → Prop} {events : List E}
    (always : ∀ e ∈ events, ∀ t, allowed t e) (t : T) : Traces track allowed t events := by
  induction events generalizing t with
  | nil => trivial
  | cons e es ih =>
      exact ⟨always e (by simp) t, ih (fun e member => always e (by simp [member])) _⟩

theorem foldl_ignored {track : T → E → T} {t : T} {events : List E}
    (ignored : ∀ e ∈ events, track t e = t) : events.foldl track t = t := by
  induction events with
  | nil => rfl
  | cons e es ih =>
      rw [List.foldl_cons, ignored e (by simp)]
      exact ih fun e member => ignored e (by simp [member])

theorem traces_ignored {track : T → E → T} {allowed : T → E → Prop} {t : T} {events : List E}
    (ignored : ∀ e ∈ events, track t e = t ∧ allowed t e) :
    Traces track allowed t events ∧ events.foldl track t = t := by
  refine ⟨?_, foldl_ignored fun e member => (ignored e member).1⟩
  induction events with
  | nil => trivial
  | cons e es ih =>
      have first := ignored e (by simp)
      simp only [Traces, first.1]
      exact ⟨first.2, ih fun e member => ignored e (by simp [member])⟩

section Logs
variable {N : Type} {track : T → N → T} {allowed : T → N → Prop} {note : E → N}

/-- A log has got new events, and an observer that reads them as `note` allows them all. -/
structure Extends (track : T → N → T) (allowed : T → N → Prop) (note : E → N) (before after : T)
    (log log' new : List E) : Prop where
  log : log' = log ++ new
  sound : Traces track allowed before (new.map note)
  seen : (new.map note).foldl track before = after

theorem Extends.refl (t : T) (log : List E) : Extends track allowed note t t log log [] :=
  ⟨by simp, trivial, rfl⟩

theorem Extends.trans {a b c : T} {log log' log'' first second : List E}
    (early : Extends track allowed note a b log log' first)
    (late : Extends track allowed note b c log' log'' second) :
    Extends track allowed note a c log log'' (first ++ second) := by
  constructor
  · rw [late.log, early.log, List.append_assoc]
  · rw [List.map_append, traces_append, early.seen]
    exact ⟨early.sound, late.sound⟩
  · rw [List.map_append, List.foldl_append, early.seen]
    exact late.seen

theorem Extends.event {t : T} {log log' : List E} {e : E} (added : log' = log ++ [e])
    (sound : allowed t (note e)) :
    Extends track allowed note t (track t (note e)) log log' [e] :=
  ⟨added, ⟨sound, trivial⟩, rfl⟩

theorem Extends.ignored {t : T} {log log' new : List E} (added : log' = log ++ new)
    (ignored : ∀ e ∈ new, track t (note e) = t ∧ allowed t (note e)) :
    Extends track allowed note t t log log' new := by
  have quiet : ∀ n ∈ new.map note, track t n = t ∧ allowed t n := by
    intro n member
    obtain ⟨e, inside, rfl⟩ := List.mem_map.mp member
    exact ignored e inside
  obtain ⟨sound, unchanged⟩ := traces_ignored quiet
  exact ⟨added, sound, unchanged⟩

end Logs

section Views
variable {S V : Type} {log : S → List E} {neutral : E → Bool} {view : S → V} {s t u : S}

/-- All events between two states are neutral, and what is viewed stays as it is. -/
structure Undisturbed (log : S → List E) (neutral : E → Bool) (view : S → V) (s t : S) : Prop where
  log : ∃ new, log t = log s ++ new ∧ ∀ e ∈ new, neutral e = true
  view : view t = view s

theorem Undisturbed.refl (s : S) : Undisturbed log neutral view s s :=
  ⟨⟨[], by simp, by simp⟩, rfl⟩

theorem Undisturbed.trans (early : Undisturbed log neutral view s t)
    (late : Undisturbed log neutral view t u) : Undisturbed log neutral view s u := by
  obtain ⟨first, before, quiet⟩ := early.log
  obtain ⟨second, after, quiet'⟩ := late.log
  refine ⟨⟨first ++ second, ?_, ?_⟩, late.view.trans early.view⟩
  · rw [after, before, List.append_assoc]
  · intro e member
    rcases List.mem_append.mp member with old | new
    · exact quiet e old
    · exact quiet' e new

theorem Undisturbed.event {e : E} (quiet : neutral e = true) (added : log t = log s ++ [e])
    (kept : view t = view s) : Undisturbed log neutral view s t :=
  ⟨⟨[e], added, by simpa using quiet⟩, kept⟩

theorem Undisturbed.same (added : log t = log s) (kept : view t = view s) :
    Undisturbed log neutral view s t := ⟨⟨[], by simp [added], by simp⟩, kept⟩

end Views

/-- A trace allows each of its events where it occurs. -/
theorem Traces.allows {track : T → E → T} {allowed : T → E → Prop} {t : T} {front back : List E}
    {e : E} (traces : Traces track allowed t (front ++ e :: back)) :
    allowed (front.foldl track t) e :=
  ((traces_append track allowed t front (e :: back)).mp traces).2.1

section Recorded
variable {allowed : List E → E → Prop} {log front back : List E} {e : E}

/-- Every event of the log is allowed after those in front of it. -/
def Recorded (allowed : List E → E → Prop) (log : List E) : Prop :=
  Traces (fun log e => log ++ [e]) allowed [] log

theorem foldl_snoc (front back : List E) :
    back.foldl (fun log e => log ++ [e]) front = front ++ back := by
  induction back generalizing front with
  | nil => rw [List.append_nil, List.foldl_nil]
  | cons e es ih => rw [List.foldl_cons, ih, List.append_assoc, List.singleton_append]

theorem recorded_append : Recorded allowed (log ++ [e]) ↔ Recorded allowed log ∧ allowed log e := by
  rw [Recorded, traces_append, foldl_snoc, List.nil_append]
  simp [Traces, Recorded]

theorem Recorded.allows (recorded : Recorded allowed (front ++ e :: back)) : allowed front e := by
  have allows := Traces.allows recorded
  rwa [foldl_snoc, List.nil_append] at allows

theorem Recorded.always (recorded : Recorded allowed log)
    (always : ∀ e ∈ back, ∀ log, allowed log e) : Recorded allowed (log ++ back) := by
  induction back generalizing log with
  | nil => rwa [List.append_nil]
  | cons e es ih =>
      rw [List.append_cons]
      apply ih (recorded_append.mpr ⟨recorded, always e (by simp) log⟩)
      exact fun f member => always f (by simp [member])

end Recorded

end AnchorNode.Lib
