import AnchorNode.Lib.Run

/-! Programs that put questions to shared state, with the steps of others between any two
questions, and the rules for what such a program achieves as long as the others keep to what it
relies on. -/

namespace AnchorNode.Lib

/-- A program; question `q` is answered by an `A q`. -/
inductive Prog (Q : Type) (A : Q → Type) (α : Type) where
  | done (result : α)
  | ask (q : Q) (next : A q → Prog Q A α)

namespace Prog

variable {Q : Type} {A : Q → Type} {α β : Type}

protected def bind : Prog Q A α → (α → Prog Q A β) → Prog Q A β
  | done a, f => f a
  | ask q next, f => ask q fun a => (next a).bind f

instance : Monad (Prog Q A) where
  pure := done
  bind := Prog.bind

def question (q : Q) : Prog Q A (A q) := ask q done

/-- One program after the other, for every element of a list. -/
def each (f : β → Prog Q A Unit) : List β → Prog Q A Unit
  | [] => done ()
  | b :: bs => (f b).bind fun _ => each f bs

def ended : Prog Q A α → Bool
  | done _ => true
  | ask _ _ => false

section Equations
variable (q : Q) (next : A q → Prog Q A α) (a : α) (f : α → Prog Q A β)

@[simp] theorem pure_eq : (pure a : Prog Q A α) = done a := rfl
@[simp] theorem done_bind : (done a >>= f) = f a := rfl
@[simp] theorem ask_bind : (ask q next >>= f) = ask q fun a => next a >>= f := rfl
@[simp] theorem question_bind (g : A q → Prog Q A β) : (question q >>= g) = ask q g := rfl

theorem bind_done (p : Prog Q A α) : p >>= done = p := by
  induction p with
  | done a => rfl
  | ask q next ih => exact congrArg (ask q) (funext ih)

theorem bind_bind {γ : Type} (p : Prog Q A α) (f : α → Prog Q A β) (g : β → Prog Q A γ) :
    p >>= f >>= g = p >>= fun a => f a >>= g := by
  induction p with
  | done a => rfl
  | ask q next ih => exact congrArg (ask q) (funext ih)

instance : LawfulMonad (Prog Q A) :=
  LawfulMonad.mk' _ bind_done (fun _ _ => rfl) bind_bind

end Equations

end Prog

/-- Shared state that answers questions. What it answers and becomes may depend on a choice of
its own; `allowed` says which choices are considered. -/
structure Resource (Q : Type) (A : Q → Type) (S C : Type) where
  perform : S → (q : Q) → C → A q × S
  allowed : S → Q → C → Prop

/-- What a program relies on of the others, and what it guarantees them. -/
structure Terms (S : Type) where
  rely : S → S → Prop
  guar : S → S → Prop
  refl : ∀ s, rely s s
  trans : ∀ {s s' s''}, rely s s' → rely s' s'' → rely s s''

variable {Q : Type} {A : Q → Type} {S C α β : Type}

section Rules
variable {r : Resource Q A S C} {t : Terms S}

/-- With steps of the others before each of its questions, the program keeps its guarantee, and
`post` holds of its result whenever it has ended. -/
def Meets (r : Resource Q A S C) (t : Terms S) (post : α → S → Prop) : Prog Q A α → S → Prop
  | .done a, s => ∀ s', t.rely s s' → post a s'
  | .ask q next, s => ∀ s', t.rely s s' → ∀ c, r.allowed s' q c →
      t.guar s' (r.perform s' q c).2 ∧
        Meets r t post (next (r.perform s' q c).1) (r.perform s' q c).2

/-- No step of the others makes `P` false. -/
def Stable (t : Terms S) (P : S → Prop) : Prop := ∀ s s', P s → t.rely s s' → P s'

def Triple (r : Resource Q A S C) (t : Terms S) (pre : S → Prop) (p : Prog Q A α)
    (post : α → S → Prop) : Prop :=
  ∀ s, pre s → Meets r t post p s

theorem Stable.and {P P' : S → Prop} (stable : Stable t P) (stable' : Stable t P') :
    Stable t fun s => P s ∧ P' s :=
  fun s s' holds others => ⟨stable s s' holds.1 others, stable' s s' holds.2 others⟩

theorem Meets.later {post : α → S → Prop} {p : Prog Q A α} {s s' : S}
    (meets : Meets r t post p s) (others : t.rely s s') : Meets r t post p s' := by
  cases p with
  | done a => exact fun s'' after => meets s'' (t.trans others after)
  | ask q next => exact fun s'' after => meets s'' (t.trans others after)

theorem Meets.mono {post post' : α → S → Prop} (weaker : ∀ a s, post a s → post' a s)
    {p : Prog Q A α} {s : S} (meets : Meets r t post p s) : Meets r t post' p s := by
  induction p generalizing s with
  | done a => exact fun s' others => weaker a s' (meets s' others)
  | ask q next ih =>
      intro s' others c allowed
      obtain ⟨kept, rest⟩ := meets s' others c allowed
      exact ⟨kept, ih _ rest⟩

theorem Meets.weaken {t' : Terms S} (rely : ∀ s s', t'.rely s s' → t.rely s s')
    (guar : ∀ s s', t.guar s s' → t'.guar s s') {post : α → S → Prop} {p : Prog Q A α} {s : S}
    (meets : Meets r t post p s) : Meets r t' post p s := by
  induction p generalizing s with
  | done a => exact fun s' others => meets s' (rely s s' others)
  | ask q next ih =>
      intro s' others c allowed
      obtain ⟨kept, rest⟩ := meets s' (rely s s' others) c allowed
      exact ⟨guar _ _ kept, ih _ rest⟩

theorem Meets.bind {mid : α → S → Prop} {post : β → S → Prop} {f : α → Prog Q A β}
    (rest : ∀ a s, mid a s → Meets r t post (f a) s) {p : Prog Q A α} {s : S}
    (meets : Meets r t mid p s) : Meets r t post (p >>= f) s := by
  induction p generalizing s with
  | done a => exact rest a s (meets s (t.refl s))
  | ask q next ih =>
      intro s' others c allowed
      obtain ⟨kept, first⟩ := meets s' others c allowed
      exact ⟨kept, ih _ first⟩

/-- What neither the others nor the program itself can make false still holds at the end. -/
theorem Meets.frame {post : α → S → Prop} {J : S → Prop} (stable : Stable t J)
    (own : ∀ s s', J s → t.guar s s' → J s') {p : Prog Q A α} {s : S}
    (meets : Meets r t post p s) (holds : J s) : Meets r t (fun a s => post a s ∧ J s) p s := by
  induction p generalizing s with
  | done a => exact fun s' others => ⟨meets s' others, stable s s' holds others⟩
  | ask q next ih =>
      intro s' others c allowed
      obtain ⟨kept, rest⟩ := meets s' others c allowed
      exact ⟨kept, ih _ rest (own s' _ (stable s s' holds others) kept)⟩

variable {pre mid' : S → Prop} {post : α → S → Prop}

theorem triple_done {a : α} (stable : Stable t pre) (enough : ∀ s, pre s → post a s) :
    Triple r t pre (.done a) post :=
  fun s holds s' others => enough s' (stable s s' holds others)

theorem triple_ask {q : Q} {next : A q → Prog Q A α} {mid : A q → S → Prop}
    (stable : Stable t pre)
    (step : ∀ s c, pre s → r.allowed s q c →
      t.guar s (r.perform s q c).2 ∧ mid (r.perform s q c).1 (r.perform s q c).2)
    (rest : ∀ a, Triple r t (mid a) (next a) post) : Triple r t pre (.ask q next) post := by
  intro s holds s' others c allowed
  obtain ⟨kept, reached⟩ := step s' c (stable s s' holds others) allowed
  exact ⟨kept, rest _ _ reached⟩

theorem triple_question {q : Q} {post : A q → S → Prop} (stable : Stable t pre)
    (stable_post : ∀ a, Stable t (post a))
    (step : ∀ s c, pre s → r.allowed s q c →
      t.guar s (r.perform s q c).2 ∧ post (r.perform s q c).1 (r.perform s q c).2) :
    Triple r t pre (.question q) post :=
  triple_ask stable step fun a => triple_done (stable_post a) fun _ holds => holds

theorem triple_weaken {t' : Terms S} {p : Prog Q A α} (triple : Triple r t pre p post)
    (rely : ∀ s s', t'.rely s s' → t.rely s s') (guar : ∀ s s', t.guar s s' → t'.guar s s') :
    Triple r t' pre p post :=
  fun s holds => (triple s holds).weaken rely guar

theorem triple_bind {p : Prog Q A α} {f : α → Prog Q A β} {mid : α → S → Prop}
    {post : β → S → Prop} (first : Triple r t pre p mid)
    (rest : ∀ a, Triple r t (mid a) (f a) post) : Triple r t pre (p >>= f) post :=
  fun s holds => (first s holds).bind rest

theorem triple_mono {pre' : S → Prop} {post' : α → S → Prop} {p : Prog Q A α}
    (triple : Triple r t pre p post) (stronger : ∀ s, pre' s → pre s)
    (weaker : ∀ a s, post a s → post' a s) : Triple r t pre' p post' :=
  fun s holds => (triple s (stronger s holds)).mono weaker

theorem triple_frame {J : S → Prop} {p : Prog Q A α} (triple : Triple r t pre p post)
    (stable : Stable t J) (own : ∀ s s', J s → t.guar s s' → J s') :
    Triple r t (fun s => pre s ∧ J s) p (fun a s => post a s ∧ J s) :=
  fun s holds => (triple s holds.1).frame stable own holds.2

end Rules

/-- Programs that run side by side on one shared state. -/
structure Threads (I Q : Type) (A : Q → Type) (S : Type) where
  shared : S
  programs : I → Prog Q A Unit

/-- What happens next: a program puts its next question, the shared state changes by itself, or
a program that has ended is started again. -/
inductive Turn (I C M B : Type) where
  | step (i : I) (choice : C)
  | move (m : M)
  | start (i : I) (b : B)

/-- What the programs are, how the shared state changes by itself, and which changes and starts
are considered. -/
structure Setting (I Q : Type) (A : Q → Type) (S C M B : Type) extends Resource Q A S C where
  moved : S → M → S
  possible : S → M → Prop
  body : I → B → Prog Q A Unit
  startable : S → I → B → Prop

section Concurrency
variable {I M B : Type} (e : Setting I Q A S C M B)

def Threads.turn [DecidableEq I] (w : Threads I Q A S) : Turn I C M B → Threads I Q A S
  | .step i c => match w.programs i with
    | .done _ => w
    | .ask q next =>
      let (a, s) := e.perform w.shared q c
      ⟨s, Function.update w.programs i (next a)⟩
  | .move m => { w with shared := e.moved w.shared m }
  | .start i b => match w.programs i with
    | .done _ => { w with programs := Function.update w.programs i (e.body i b) }
    | .ask _ _ => w

def Threads.permitted (w : Threads I Q A S) : Turn I C M B → Prop
  | .step i c => match w.programs i with
    | .done _ => True
    | .ask q _ => e.allowed w.shared q c
  | .move m => e.possible w.shared m
  | .start i b => match w.programs i with
    | .done _ => e.startable w.shared i b
    | .ask _ _ => True

/-- While a program of higher rank is under way, no other goes on or starts. -/
def Threads.nested (rank : I → Nat) (w : Threads I Q A S) : Turn I C M B → Prop
  | .step i _ => ∀ j, rank i < rank j → (w.programs j).ended = true
  | .move _ => True
  | .start i _ => ∀ j, rank i < rank j → (w.programs j).ended = true

/-- A turn that is considered, and that no program of higher rank stands in the way of. -/
def Threads.orderly (rank : I → Nat) (w : Threads I Q A S) (next : Turn I C M B) : Prop :=
  w.permitted e next ∧ w.nested rank next

/-- Programs whose terms fit together, and whose bodies lead from one idle state to the next. -/
structure Cooperates (terms : I → Terms S) (idle : I → S → Prop) (inv : S → Prop) : Prop where
  others : ∀ i j, i ≠ j → ∀ s s', inv s → (terms j).guar s s' → (terms i).rely s s'
  kept : ∀ i s s', inv s → (terms i).guar s s' → inv s'
  moves : ∀ i s m, inv s → e.possible s m → (terms i).rely s (e.moved s m)
  moves_kept : ∀ s m, inv s → e.possible s m → inv (e.moved s m)
  starts : ∀ i b, Triple e.toResource (terms i) (fun s => idle i s ∧ inv s ∧ e.startable s i b)
    (e.body i b) (fun _ => idle i)

/-- The invariant holds, and every program is where its terms allow it to be. -/
def Threads.Fine (terms : I → Terms S) (idle : I → S → Prop) (inv : S → Prop)
    (w : Threads I Q A S) : Prop :=
  inv w.shared ∧ ∀ i, Meets e.toResource (terms i) (fun _ => idle i) (w.programs i) w.shared

section Decidable
variable {e} {w : Threads I Q A S}

theorem Threads.permitted_step_done {i : I} {a : Unit} (ended : w.programs i = .done a) (c : C) :
    w.permitted e (.step i c) := by
  simp only [permitted, ended]

theorem Threads.permitted_step_ask {i : I} {q : Q} {next : A q → Prog Q A Unit}
    (asks : w.programs i = .ask q next) (c : C) :
    e.allowed w.shared q c ↔ w.permitted e (.step i c) := by
  simp only [permitted, asks]

theorem Threads.permitted_start_done {i : I} {a : Unit} (ended : w.programs i = .done a) (b : B) :
    e.startable w.shared i b ↔ w.permitted e (.start i b) := by
  simp only [permitted, ended]

theorem Threads.permitted_start_ask {i : I} {q : Q} {next : A q → Prog Q A Unit}
    (asks : w.programs i = .ask q next) (b : B) : w.permitted e (.start i b) := by
  simp only [permitted, asks]

end Decidable

instance Threads.permitted.decidable [∀ s q c, Decidable (e.allowed s q c)]
    [∀ s m, Decidable (e.possible s m)] [∀ s i b, Decidable (e.startable s i b)]
    (w : Threads I Q A S) : (next : Turn I C M B) → Decidable (w.permitted e next)
  | .step i c => match program : w.programs i with
    | .done _ => .isTrue (permitted_step_done program c)
    | .ask q _ =>
      @decidable_of_iff _ (e.allowed w.shared q c) (permitted_step_ask program c) inferInstance
  | .move m => inferInstanceAs (Decidable (e.possible w.shared m))
  | .start i b => match program : w.programs i with
    | .done _ =>
      @decidable_of_iff _ (e.startable w.shared i b) (permitted_start_done program b) inferInstance
    | .ask _ _ => .isTrue (permitted_start_ask program b)

instance Threads.nested.decidable [Fintype I] (rank : I → Nat) (w : Threads I Q A S) :
    (next : Turn I C M B) → Decidable (w.nested rank next)
  | .step i _ => inferInstanceAs (Decidable (∀ j, rank i < rank j → (w.programs j).ended = true))
  | .move _ => inferInstanceAs (Decidable True)
  | .start i _ => inferInstanceAs (Decidable (∀ j, rank i < rank j → (w.programs j).ended = true))

instance Threads.orderly.decidable [Fintype I] [∀ s q c, Decidable (e.allowed s q c)]
    [∀ s m, Decidable (e.possible s m)] [∀ s i b, Decidable (e.startable s i b)] (rank : I → Nat)
    (w : Threads I Q A S) (next : Turn I C M B) : Decidable (w.orderly e rank next) :=
  inferInstanceAs (Decidable (_ ∧ _))

variable {e} {terms : I → Terms S} {idle : I → S → Prop} {inv : S → Prop}
  {w : Threads I Q A S}

theorem Threads.Fine.ended {i : I} (fine : w.Fine e terms idle inv)
    (finished : w.programs i = .done ()) : idle i w.shared := by
  have meets := fine.2 i
  rw [finished] at meets
  exact meets _ ((terms i).refl _)

variable [DecidableEq I]

section Turns
variable {i : I} {q : Q} {next : A q → Prog Q A Unit}

theorem Threads.turn_done (ended : w.programs i = .done ()) (c : C) :
    w.turn e (.step i c) = w := by
  simp only [turn, ended]

theorem Threads.turn_ask (asks : w.programs i = .ask q next) (c : C) :
    w.turn e (.step i c) = ⟨(e.perform w.shared q c).2,
      Function.update w.programs i (next (e.perform w.shared q c).1)⟩ := by
  simp only [turn, asks]

theorem Threads.turn_start (ended : w.programs i = .done ()) (b : B) :
    w.turn e (.start i b) =
      { w with programs := Function.update w.programs i (e.body i b) } := by
  simp only [turn, ended]

theorem Threads.turn_busy (asks : w.programs i = .ask q next) (b : B) :
    w.turn e (.start i b) = w := by
  simp only [turn, asks]

end Turns

theorem Threads.Fine.turn (cooperates : Cooperates e terms idle inv)
    (fine : w.Fine e terms idle inv) (next : Turn I C M B) (permitted : w.permitted e next) :
    (w.turn e next).Fine e terms idle inv := by
  obtain ⟨holds, meets⟩ := fine
  cases next with
  | move m =>
      exact ⟨cooperates.moves_kept _ m holds permitted,
        fun i => (meets i).later (cooperates.moves i _ m holds permitted)⟩
  | step i c =>
      have here := meets i
      cases program : w.programs i with
      | done a =>
          rw [Threads.turn_done program]
          exact ⟨holds, meets⟩
      | ask q next =>
          rw [program] at here
          simp only [Threads.permitted, program] at permitted
          obtain ⟨kept, rest⟩ := here _ ((terms i).refl _) c permitted
          rw [Threads.turn_ask program]
          refine ⟨cooperates.kept i _ _ holds kept, fun j => ?_⟩
          by_cases same : j = i
          · subst same
            simpa only [Function.update_self] using rest
          · simpa only [Function.update_of_ne same] using
              (meets j).later (cooperates.others j i same _ _ holds kept)
  | start i b =>
      have here := meets i
      cases program : w.programs i with
      | ask q next =>
          rw [Threads.turn_busy program]
          exact ⟨holds, meets⟩
      | done a =>
          rw [program] at here
          simp only [Threads.permitted, program] at permitted
          rw [Threads.turn_start program]
          refine ⟨holds, fun j => ?_⟩
          by_cases same : j = i
          · subst same
            simpa only [Function.update_self] using
              cooperates.starts j b _ ⟨here _ ((terms j).refl _), holds, permitted⟩
          · simpa only [Function.update_of_ne same] using meets j

/-- In every run the invariant holds, and a program that has ended is idle. -/
theorem Threads.run_fine (cooperates : Cooperates e terms idle inv) {turns : List (Turn I C M B)}
    (fine : w.Fine e terms idle inv)
    (guarded : Guarded (Threads.turn e) (Threads.permitted e) w turns) :
    (run (Threads.turn e) w turns).Fine e terms idle inv :=
  guarded_invariant (fun _ next fine permitted => fine.turn cooperates next permitted) fine guarded

end Concurrency

end AnchorNode.Lib
