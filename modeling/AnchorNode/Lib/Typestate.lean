import AnchorNode.Lib.Dialogue

/-! The order in which a program puts its questions: an automaton follows the dialogue and says what
may be asked next. -/

namespace AnchorNode.Lib

/-- What may be asked in a state, which answers are considered, and the state after an answer. -/
structure Typestate (Q : Type) (A : Q → Type) (T : Type) where
  ok : T → Q → Prop
  known : (q : Q) → A q → Prop
  next : T → (q : Q) → A q → T

section Programs
variable {Q T α β : Type} {A : Q → Type}

/-- From a state on the program asks only what it may, and `post` holds of where it ends. -/
def Conforms (law : Typestate Q A T) (post : T → α → Prop) : T → Prog Q A α → Prop
  | t, .done x => post t x
  | t, .ask q more => law.ok t q ∧
      ∀ x, law.known q x → Conforms law post (law.next t q x) (more x)

/-- From every state of `rest` the program asks only what it may, and it ends in one of them. -/
def Obeys (law : Typestate Q A T) (rest : T → Prop) (p : Prog Q A α) : Prop :=
  ∀ t, rest t → Conforms law (fun t' _ => rest t') t p

/-- The program ends where it starts. -/
def Neutral (law : Typestate Q A T) (p : Prog Q A α) : Prop :=
  ∀ t, Conforms law (fun t' _ => t' = t) t p

variable {law : Typestate Q A T} {rest : T → Prop}

theorem Conforms.mono {post post' : T → α → Prop} (weaker : ∀ t x, post t x → post' t x)
    {p : Prog Q A α} {t : T} (conforms : Conforms law post t p) : Conforms law post' t p := by
  induction p generalizing t with
  | done x => exact weaker t x conforms
  | ask q more ih => exact ⟨conforms.1, fun x known => ih x (conforms.2 x known)⟩

theorem Conforms.bind {mid : T → α → Prop} {post : T → β → Prop} {f : α → Prog Q A β}
    (second : ∀ t x, mid t x → Conforms law post t (f x)) {p : Prog Q A α} {t : T}
    (first : Conforms law mid t p) : Conforms law post t (p >>= f) := by
  induction p generalizing t with
  | done x => exact second t x first
  | ask q more ih => exact ⟨first.1, fun x known => ih x (first.2 x known)⟩

theorem Conforms.ended {post : T → α → Prop} {p : Prog Q A α} {t : T}
    (conforms : Conforms law post t p) (ended : p.ended = true) : ∃ x, post t x := by
  cases p with
  | done x => exact ⟨x, conforms⟩
  | ask q more => exact Bool.noConfusion ended

theorem Neutral.obeys {p : Prog Q A α} (neutral : Neutral law p) : Obeys law rest p :=
  fun t here => (neutral t).mono fun _ _ same => same ▸ here

theorem neutral_pure (x : α) : Neutral law (pure x : Prog Q A α) := fun _ => rfl

theorem obeys_pure (x : α) : Obeys law rest (pure x : Prog Q A α) := (neutral_pure x).obeys

theorem obeys_bind {p : Prog Q A α} {f : α → Prog Q A β} (first : Obeys law rest p)
    (second : ∀ x, Obeys law rest (f x)) : Obeys law rest (p >>= f) :=
  fun t here => (first t here).bind fun t' x there => second x t' there

theorem obeys_ite {c : Prop} [Decidable c] {p p' : Prog Q A α} (yes : c → Obeys law rest p)
    (no : ¬ c → Obeys law rest p') : Obeys law rest (if c then p else p') := by
  split
  · next holds => exact yes holds
  · next fails => exact no fails

theorem obeys_when {c : Prop} [Decidable c] {p : Prog Q A β} {tail : Prog Q A α}
    (first : c → Obeys law rest p) (second : Obeys law rest tail) :
    Obeys law rest (if c then p >>= fun _ => tail else tail) :=
  obeys_ite (fun holds => obeys_bind (first holds) fun _ => second) fun _ => second

theorem obeys_ask {q : Q} {more : A q → Prog Q A α} (ok : ∀ t, rest t → law.ok t q)
    (same : ∀ t x, rest t → law.next t q x = t)
    (second : ∀ x, law.known q x → Obeys law rest (more x)) : Obeys law rest (.ask q more) :=
  fun t here => ⟨ok t here, fun x known => (same t x here).symm ▸ second x known t here⟩

theorem obeys_each {f : β → Prog Q A Unit} {bs : List β}
    (one : ∀ b ∈ bs, Obeys law rest (f b)) : Obeys law rest (.each f bs) := by
  induction bs with
  | nil => exact obeys_pure ()
  | cons b bs ih =>
      exact obeys_bind (one b List.mem_cons_self) fun _ =>
        ih fun b member => one b (List.mem_cons_of_mem _ member)

end Programs

section Concurrency
variable {I Q S C M B T : Type} {A : Q → Type} [DecidableEq I]

/-- The places of the programs in their automata say something about the shared state, every step
keeps that while the programs of higher rank are at rest, and whatever is started obeys its
automaton. -/
structure Governs (e : Setting I Q A S C M B) (law : I → Typestate Q A T) (rest : T → Prop)
    (rank : I → Nat) (tied : (I → T) → S → Prop) : Prop where
  steps : ∀ t s i q c, tied t s → (∀ j, rank i < rank j → rest (t j)) → (law i).ok (t i) q →
    e.allowed s q c → (law i).known q (e.perform s q c).1 ∧
      tied (Function.update t i ((law i).next (t i) q (e.perform s q c).1)) (e.perform s q c).2
  moves : ∀ t s m, tied t s → e.possible s m → tied t (e.moved s m)
  starts : ∀ s i b, e.startable s i b → Obeys (law i) rest (e.body i b)

/-- Every program is at a place of its automaton from which it goes on as it may. -/
def Threads.Governed (law : I → Typestate Q A T) (rest : T → Prop) (tied : (I → T) → S → Prop)
    (w : Threads I Q A S) : Prop :=
  ∃ t, tied t w.shared ∧ ∀ i, Conforms (law i) (fun t' _ => rest t') (t i) (w.programs i)

variable {e : Setting I Q A S C M B} {law : I → Typestate Q A T} {rest : T → Prop}
  {rank : I → Nat} {tied : (I → T) → S → Prop} {w : Threads I Q A S}

theorem Threads.Governed.turn (governs : Governs e law rest rank tied)
    (governed : w.Governed law rest tied) (next : Turn I C M B)
    (orderly : w.orderly e rank next) : (w.turn e next).Governed law rest tied := by
  obtain ⟨t, holds, conforms⟩ := governed
  obtain ⟨permitted, nested⟩ := orderly
  cases next with
  | move m => exact ⟨t, governs.moves t _ m holds permitted, conforms⟩
  | step i c =>
      have here := conforms i
      cases program : w.programs i with
      | done a =>
          rw [Threads.turn_done program]
          exact ⟨t, holds, conforms⟩
      | ask q next =>
          rw [program] at here
          have above (j : I) (higher : rank i < rank j) : rest (t j) := by
            obtain ⟨_, resting⟩ := (conforms j).ended (nested j higher)
            exact resting
          obtain ⟨known, tied'⟩ := governs.steps t _ i q c holds above here.1
            ((Threads.permitted_step_ask program c).mpr permitted)
          rw [Threads.turn_ask program]
          refine ⟨_, tied', fun j => ?_⟩
          by_cases same : j = i
          · subst same
            simpa only [Function.update_self] using here.2 _ known
          · simpa only [Function.update_of_ne same] using conforms j
  | start i b =>
      have here := conforms i
      cases program : w.programs i with
      | ask q next =>
          rw [Threads.turn_busy program]
          exact ⟨t, holds, conforms⟩
      | done a =>
          rw [program] at here
          have body := governs.starts _ i b
            ((Threads.permitted_start_done program b).mpr permitted) _ here
          rw [Threads.turn_start program]
          refine ⟨t, holds, fun j => ?_⟩
          by_cases same : j = i
          · subst same
            simpa only [Function.update_self] using body
          · simpa only [Function.update_of_ne same] using conforms j

/-- In every nested run the programs go on as they may. -/
theorem Threads.run_governed (governs : Governs e law rest rank tied) {turns : List (Turn I C M B)}
    (governed : w.Governed law rest tied)
    (guarded : Guarded (Threads.turn e) (Threads.orderly e rank) w turns) :
    (run (Threads.turn e) w turns).Governed law rest tied :=
  guarded_invariant (fun _ next governed orderly => governed.turn governs next orderly)
    governed guarded

end Concurrency

end AnchorNode.Lib
