import AnchorNode.AnchorCom.TxRuns
import AnchorNode.Lib.Observer

/-! Progress at the head of a transmit queue: what one uninterrupted call of the cyclic
function does for a peer, and how many calls a head can last. -/

namespace AnchorNode.AnchorCom.Tx

open AnchorNode.Lib

variable {cfg : Config} {env : Env} {s t u : State} {i : Nat}

def Entry.weight (e : Entry) : Nat := 8 * e.errCounter + e.queueState.rank

structure Turns (s t : State) (i : Nat) (e : Entry) : Prop where
  queue : t.queue = Function.update s.queue i ((s.queue i).set (s.queue i).head e)
  next : t.nextTicket = s.nextTicket
  pointer : t.txHeadPtr = s.txHeadPtr
  key : e.key = (s.front i).key
  weight : (s.front i).weight ≤ e.weight
  errors : (s.front i).errCounter ≤ e.errCounter

theorem set_front_self {n : Nat} {α : Type} (r : Ring n α) : r.set r.head r.front = r := by
  simp [Ring.set, Ring.front]

theorem Turns.stay (queue : t.queue = s.queue) (next : t.nextTicket = s.nextTicket)
    (pointer : t.txHeadPtr = s.txHeadPtr) (i : Nat) : Turns s t i (s.front i) where
  queue := by
    rw [queue, Core.front, set_front_self, Function.update_eq_self]
  next := next
  pointer := pointer
  key := rfl
  weight := Nat.le_refl _
  errors := Nat.le_refl _

theorem Turns.front {e : Entry} (turns : Turns s t i e) : t.front i = e := by
  simp [Core.front, turns.queue, Ring.front]

theorem Turns.head {e : Entry} (turns : Turns s t i e) :
    (t.queue i).head = (s.queue i).head := by
  simp [turns.queue]

theorem Turns.trans {e f : Entry} (first : Turns s t i e) (second : Turns t u i f) :
    Turns s u i f where
  queue := by
    rw [second.queue, first.queue]
    simp
  next := second.next.trans first.next
  pointer := second.pointer.trans first.pointer
  key := by rw [second.key, first.front, first.key]
  weight := Nat.le_trans first.weight (first.front ▸ second.weight)
  errors := Nat.le_trans first.errors (first.front ▸ second.errors)

theorem Turns.atFront {e : Entry} (turns : Turns s t i e) (atFront : AtFront cfg s i) :
    AtFront cfg t i :=
  (atFront.replaced (atFront.own.same turns.key) turns.queue turns.next).1

def Gains (cfg : Config) (before after : Entry) : Prop :=
  before.weight < after.weight ∨ cfg.maxRetryCount ≤ after.errCounter

structure StageTurns (cfg : Config) (s t : State) (i : Nat) (acts : TxQueueState → Bool)
    (e : Entry) : Prop where
  turns : Turns s t i e
  gains : acts (s.front i).queueState = true → Gains cfg (s.front i) e
  idle : acts (s.front i).queueState = false → e = s.front i

section Stages

theorem weight_errors {e f : Entry} (errors : e.errCounter < f.errCounter) :
    e.weight < f.weight := by
  unfold Entry.weight
  cases e.queueState <;> simp only [TxQueueState.rank] <;> omega

theorem Work.weight {log : List Event} {e e' : Entry} {buf buf' : Mem} {len len' : Nat}
    {events : List Event} (work : Work cfg env log i e buf len e' buf' len' events) :
    e.weight ≤ e'.weight ∧ e.errCounter ≤ e'.errCounter ∧ Gains cfg e e' := by
  have errs : ∀ n, e.errCounter ≤ e.errCounter + n := fun n => Nat.le_add_right _ n
  unfold Gains Entry.weight
  cases work with
  | unfresh queued _ => simp
  | formatted _ _ queued _ =>
      unfold formatEntry
      split <;> simp [queued, TxQueueState.rank]
  | encrypted _ _ _ answer ready =>
      unfold encryptionResult
      cases answer.1 <;> simp [ready, TxQueueState.rank]
  | unauthenticated _ _ _ _ ready _ _ _ failed =>
      rcases failed with ⟨_, rfl⟩ | ⟨_, rfl⟩ | ⟨_, rfl⟩ <;> simp [ready, TxQueueState.rank]
  | sealed _ _ _ _ _ _ ready => simp [ready, TxQueueState.rank]

theorem Worked.turns {e' : Entry} {buf' : Mem} {len' : Nat} {events : List Event}
    (worked : Worked cfg env s i t e' buf' len' events) (pointer : t.txHeadPtr = s.txHeadPtr) :
    Turns s t i e' ∧ Gains cfg (s.front i) e' := by
  have weight := worked.work.weight
  refine ⟨⟨?_, ?_, pointer, worked.work.key, weight.1, weight.2.1⟩, weight.2.2⟩
  · rw [worked.becomes]
    rfl
  · rw [worked.becomes]
    rfl

theorem part1_turns (env : Env) (atFront : AtFront cfg s i) :
    ∃ e, StageTurns cfg s (txPart1 cfg env i (s.queue i).head s) i (· == .queued) e := by
  have pointer := (txPart1_steady cfg env i (s.queue i).head s).pointer
  by_cases queued : (s.front i).queueState = .queued
  · rcases txPart1_worked atFront queued with ⟨e, _, _, _, worked⟩ |
      ⟨u, e, _, _, _, first, _, middle, e'', _, _, _, second⟩
    · have turns := worked.turns pointer
      exact ⟨e, turns.1, fun _ => turns.2, by simp [queued]⟩
    · have turns := first.turns middle
      have turns' := second.turns (pointer.trans middle.symm)
      refine ⟨e'', turns.1.trans turns'.1, fun _ => ?_, by simp [queued]⟩
      rw [turns.1.front] at turns'
      exact turns.2.imp (fun more => Nat.lt_of_lt_of_le more (turns.1.front ▸ turns'.1.weight))
        (fun limit => Nat.le_trans limit (turns.1.front ▸ turns'.1.errors))
  · rw [txPart1_other queued]
    exact ⟨_, Turns.stay rfl rfl rfl i, by simp [queued], fun _ => rfl⟩

theorem part2_turns (env : Env) (atFront : AtFront cfg s i) :
    ∃ e, StageTurns cfg s (txPart2 cfg env i (s.queue i).head s) i (· == .cmacReady) e := by
  by_cases ready : (s.front i).queueState = .cmacReady
  · have works : ∃ e' buf' len' events, Worked cfg env s i
        (txPart2 cfg env i (s.queue i).head s) e' buf' len' events := txPart2_worked atFront ready
    obtain ⟨e, _, _, _, worked⟩ := works
    have turns := worked.turns (txPart2_steady cfg env i (s.queue i).head s).pointer
    exact ⟨e, turns.1, fun _ => turns.2, by simp [ready]⟩
  · rw [txPart2_other ready]
    exact ⟨_, Turns.stay rfl rfl rfl i, by simp [ready], fun _ => rfl⟩

theorem request_turns (cfg : Config) (s : State) (i : Nat) :
    ∃ e, StageTurns cfg s (startRequest i (s.queue i).head s) i (· == .transReady) e ∧
      ((startRequest i (s.queue i).head s).calling = true →
        (s.front i).queueState = .transReady ∧ e.queueState = .transRunning) := by
  by_cases ready : (s.front i).queueState = .transReady
  · have up : (s.front i).weight < { s.front i with queueState := .transRunning }.weight := by
      unfold Entry.weight
      simp [ready, TxQueueState.rank]
    have steady := startRequest_steady i (s.queue i).head s
    refine ⟨{ s.front i with queueState := .transRunning }, ⟨⟨?_, ?_, steady.pointer, rfl,
      Nat.le_of_lt up, Nat.le_refl _⟩, fun _ => Or.inl up, by simp [ready]⟩, fun _ => ⟨ready, rfl⟩⟩
    · simp only [startRequest, front_entry, ready, if_true]
      rfl
    · simp only [startRequest, front_entry, ready, if_true]
      rfl
  · have same : startRequest i (s.queue i).head s = { s with calling := false, ret := .ok } := by
      simp [startRequest, front_entry, ready]
    have stays : Turns s { s with calling := false, ret := .ok } i (s.front i) := by
      apply Turns.stay <;> rfl
    rw [same]
    exact ⟨_, ⟨stays, by simp [ready], fun _ => rfl⟩, by simp [ready]⟩

theorem result_turns (cfg : Config)
    (running : s.calling = true → (s.front i).queueState = .transRunning) :
    ∃ e, Turns s (requestResult cfg i (s.queue i).head s) i e ∧
      (s.calling = false → e = s.front i) := by
  cases calling : s.calling with
  | false =>
      have same : requestResult cfg i (s.queue i).head s = s := by
        simp [requestResult, calling]
      rw [same]
      exact ⟨_, Turns.stay rfl rfl rfl i, fun _ => rfl⟩
  | true =>
      have fails : ∀ n, Turns s (s.setEntry i (s.queue i).head
          { s.front i with errCounter := (s.front i).errCounter + n }) i
          { s.front i with errCounter := (s.front i).errCounter + n } := by
        intro n
        refine ⟨rfl, rfl, rfl, rfl, ?_, Nat.le_add_right _ _⟩
        unfold Entry.weight
        simp
      simp only [requestResult, calling, if_true, front_entry]
      split
      · have same : { s.front i with queueState := .transRunning } = s.front i := by
          rw [← running calling]
        rw [same]
        exact ⟨_, ⟨rfl, rfl, rfl, rfl, Nat.le_refl _, Nat.le_refl _⟩, by simp⟩
      · exact ⟨_, fails 1, by simp⟩
      · exact ⟨_, fails cfg.maxRetryCount, by simp⟩

end Stages

section Serve

theorem atHead_front (pointer : s.txHeadPtr = some (s.queue i).head) (act : Nat → State → State) :
    atHead s act = act (s.queue i).head s := by
  simp [atHead, pointer]

theorem takeAnswer_quiet (cfg : Config) (env : Env) (i h c j : Nat) (s : State) :
    (takeAnswer cfg env i h c j s).queue = s.queue ∧
      (takeAnswer cfg env i h c j s).nextTicket = s.nextTicket ∧
      (takeAnswer cfg env i h c j s).txHeadPtr = s.txHeadPtr ∧
      (takeAnswer cfg env i h c j s).calling = s.calling := by
  simp only [takeAnswer]
  split <;> exact ⟨rfl, rfl, rfl, rfl⟩

theorem answers_quiet (cfg : Config) (env : Env) (i : Nat) (s : State) (stage : Stage)
    (which : stage = .answer ∨ stage = .requestImc ∨ stage = .answerImc) :
    (execute cfg env i s stage).queue = s.queue ∧
      (execute cfg env i s stage).nextTicket = s.nextTicket ∧
      (execute cfg env i s stage).txHeadPtr = s.txHeadPtr ∧
      (execute cfg env i s stage).calling = s.calling := by
  rcases which with rfl | rfl | rfl
  · simp only [execute, atHead]
    split
    · exact ⟨rfl, rfl, rfl, rfl⟩
    · split
      · exact takeAnswer_quiet cfg env _ _ _ _ s
      · exact ⟨rfl, rfl, rfl, rfl⟩
  · simp only [execute, atHead, startImcRequest]
    split
    · exact ⟨rfl, rfl, rfl, rfl⟩
    · split <;> exact ⟨rfl, rfl, rfl, rfl⟩
  · simp only [execute, atHead]
    split
    · exact ⟨rfl, rfl, rfl, rfl⟩
    · split
      · exact takeAnswer_quiet cfg env _ _ _ _ s
      · exact ⟨rfl, rfl, rfl, rfl⟩

theorem answers_turns (cfg : Config) (env : Env) (s : State) (i : Nat) :
    Turns s ([Stage.answer, .requestImc, .answerImc].foldl (execute cfg env i) s) i (s.front i) ∧
      ([Stage.answer, .requestImc, .answerImc].foldl (execute cfg env i) s).calling =
        s.calling := by
  simp only [List.foldl_cons, List.foldl_nil]
  have first := answers_quiet cfg env i s .answer (by simp)
  have second := answers_quiet cfg env i (execute cfg env i s .answer) .requestImc (by simp)
  have third := answers_quiet cfg env i
    (execute cfg env i (execute cfg env i s .answer) .requestImc) .answerImc (by simp)
  refine ⟨Turns.stay ?_ ?_ ?_ i, ?_⟩
  · rw [third.1, second.1, first.1]
  · rw [third.2.1, second.2.1, first.2.1]
  · rw [third.2.2.1, second.2.2.1, first.2.2.1]
  · rw [third.2.2.2, second.2.2.2, first.2.2.2]

theorem StageTurns.front_eq {acts : TxQueueState → Bool} {e : Entry}
    (first : StageTurns cfg s t i acts e) : t.front i = e := first.turns.front

theorem StageTurns.trans {acts acts' : TxQueueState → Bool} {e f : Entry}
    (first : StageTurns cfg s t i acts e) (second : StageTurns cfg t u i acts' f) :
    StageTurns cfg s u i (fun q => acts q || acts' q) f where
  turns := first.turns.trans second.turns
  gains := by
    intro acting
    cases now : acts (s.front i).queueState with
    | true =>
        have weight := first.front_eq ▸ second.turns.weight
        have errors := first.front_eq ▸ second.turns.errors
        exact (first.gains now).imp (fun up => Nat.lt_of_lt_of_le up weight)
          (fun limit => Nat.le_trans limit errors)
    | false =>
        have same : t.front i = s.front i := first.front_eq.trans (first.idle now)
        rw [← same] at acting ⊢
        exact second.gains (by simpa [same, now] using acting)
  idle := by
    intro resting
    simp only [Bool.or_eq_false_iff] at resting
    have same : t.front i = s.front i := first.front_eq.trans (first.idle resting.1)
    rw [← same] at resting ⊢
    exact second.idle resting.2

theorem send_turns (cfg : Config) (env : Env) (pointer : s.txHeadPtr = some (s.queue i).head) :
    ∃ e, StageTurns cfg s ([Stage.request, .answer, .requestImc, .answerImc, .result].foldl
      (execute cfg env i) s) i (· == .transReady) e := by
  have request : execute cfg env i s .request = startRequest i (s.queue i).head s :=
    atHead_front pointer _
  have stages : [Stage.request, .answer, .requestImc, .answerImc, .result].foldl
      (execute cfg env i) s = execute cfg env i ([Stage.answer, .requestImc, .answerImc].foldl
        (execute cfg env i) (startRequest i (s.queue i).head s)) .result := by
    rw [← request]
    rfl
  rw [stages]
  obtain ⟨e, first, calls⟩ := request_turns cfg s i
  generalize startRequest i (s.queue i).head s = called at *
  obtain ⟨second, calling⟩ := answers_turns cfg env called i
  generalize [Stage.answer, .requestImc, .answerImc].foldl (execute cfg env i) called = w at *
  have both := first.turns.trans second
  have front : w.front i = e := second.front.trans first.front_eq
  have pointer' : w.txHeadPtr = some (w.queue i).head := by
    rw [both.pointer, both.head, pointer]
  have result : execute cfg env i w .result = requestResult cfg i (w.queue i).head w :=
    atHead_front pointer' _
  have running : w.calling = true → (w.front i).queueState = .transRunning := by
    intro now
    rw [front]
    exact (calls (calling ▸ now)).2
  obtain ⟨f, third, rest⟩ := result_turns cfg running
  rw [result]
  refine ⟨f, both.trans third, ?_, ?_⟩
  · intro acting
    have weight := front ▸ third.weight
    have errors := front ▸ third.errors
    exact (first.gains acting).imp (fun up => Nat.lt_of_lt_of_le up weight)
      (fun limit => Nat.le_trans limit errors)
  · intro resting
    have silent : w.calling = false := by
      rw [calling, ← Bool.not_eq_true]
      intro now
      simp [(calls now).1] at resting
    rw [rest silent, front, first.idle resting]

def middleStages : List Stage :=
  [.part1, .part2, .request, .answer, .requestImc, .answerImc, .result]

theorem middle_turns (env : Env) (atFront : AtFront cfg s i)
    (pointer : s.txHeadPtr = some (s.queue i).head) :
    ∃ e, StageTurns cfg s (middleStages.foldl (execute cfg env i) s) i
      TxQueueState.isPending e := by
  have one : execute cfg env i s .part1 = txPart1 cfg env i (s.queue i).head s :=
    atHead_front pointer _
  have stages : middleStages.foldl (execute cfg env i) s =
      [Stage.request, .answer, .requestImc, .answerImc, .result].foldl (execute cfg env i)
        (execute cfg env i (txPart1 cfg env i (s.queue i).head s) .part2) := by
    rw [← one]
    rfl
  rw [stages]
  obtain ⟨e, first⟩ := part1_turns env atFront
  generalize txPart1 cfg env i (s.queue i).head s = v at *
  have pointer' : v.txHeadPtr = some (v.queue i).head := by
    rw [first.turns.pointer, first.turns.head, pointer]
  have two : execute cfg env i v .part2 = txPart2 cfg env i (v.queue i).head v :=
    atHead_front pointer' _
  rw [two]
  obtain ⟨f, second⟩ := part2_turns env (first.turns.atFront atFront)
  generalize txPart2 cfg env i (v.queue i).head v = w at *
  have pointer'' : w.txHeadPtr = some (w.queue i).head := by
    rw [second.turns.pointer, second.turns.head, pointer']
  obtain ⟨g, third⟩ := send_turns cfg env pointer''
  have acts : (fun q : TxQueueState => (q == .queued || q == .cmacReady) || q == .transReady) =
      TxQueueState.isPending := by
    funext q
    cases q <;> rfl
  exact ⟨g, acts ▸ (first.trans second).trans third⟩

theorem entries_turn {e : Entry} (filled : (s.queue i).isEmpty = false) (turns : Turns s t i e) :
    t.entries i = e :: (s.entries i).tail := by
  have same : t.entries i = (s.setFront i e).entries i := by
    simp [Core.entries, turns.queue]
  rw [same, entries_setFront filled]

theorem drop_front (env : Env) (atFront : AtFront cfg s i)
    (pointer : s.txHeadPtr = some (s.queue i).head) :
    (execute cfg env i s .drop).nextTicket = s.nextTicket ∧
    (∀ j, j ≠ i → (execute cfg env i s .drop).queue j = s.queue j) ∧
    (cfg.maxRetryCount ≤ (s.front i).errCounter ∧
        (execute cfg env i s .drop).entries i = (s.entries i).tail ∨
      (s.front i).errCounter < cfg.maxRetryCount ∧
        (execute cfg env i s .drop).entries i = s.entries i) := by
  have drop : execute cfg env i s .drop = dropHead cfg i (s.queue i).head s :=
    atHead_front pointer _
  rw [drop]
  simp only [dropHead, front_entry, atFront.own.anchorId]
  split
  · rename_i failed
    refine ⟨?_, ?_, Or.inl ⟨failed, ?_⟩⟩
    · simp [removeTxQueueHead, atFront.filled]
    · intro j other
      simp [removeTxQueueHead, atFront.filled, other]
    · simp [removeTxQueueHead, atFront.filled, Core.entries, Ring.toList_cons _ atFront.filled]
  · rename_i fine
    exact ⟨rfl, fun _ _ => rfl, Or.inr ⟨Nat.lt_of_not_ge fine, rfl⟩⟩

structure Outcome (cfg : Config) (s t : State) (i : Nat) (acts : TxQueueState → Bool) : Prop where
  next : t.nextTicket = s.nextTicket
  elsewhere : ∀ j, j ≠ i → t.queue j = s.queue j
  fate : t.entries i = (s.entries i).tail ∧
      (acts (s.front i).queueState = true ∨ cfg.maxRetryCount ≤ (s.front i).errCounter) ∨
    ∃ e, t.entries i = e :: (s.entries i).tail ∧ e.key = (s.front i).key ∧
      e.errCounter < cfg.maxRetryCount ∧ (s.front i).weight ≤ e.weight ∧
      (acts (s.front i).queueState = true → (s.front i).weight < e.weight) ∧
      (acts (s.front i).queueState = false → e = s.front i)

theorem Outcome.keys_sublist {acts : TxQueueState → Bool} (outcome : Outcome cfg s t i acts)
    (filled : (s.queue i).isEmpty = false) : (t.keys i).Sublist (s.keys i) := by
  rcases outcome.fate with ⟨gone, _⟩ | ⟨e, kept, key, _⟩
  · rw [Core.keys, gone]
    exact (List.tail_sublist _).map _
  · rw [Core.keys, Core.keys, kept, entries_front filled, List.map_cons, List.map_cons, key]
    exact List.Sublist.refl _

theorem outcome_front (env : Env) {acts : TxQueueState → Bool} {e : Entry}
    (atFront : AtFront cfg s i) (stage : StageTurns cfg s t i acts e)
    (pointer : t.txHeadPtr = some (t.queue i).head) :
    Outcome cfg s (execute cfg env i t .drop) i acts := by
  obtain ⟨next, elsewhere, fate⟩ := drop_front env (stage.turns.atFront atFront) pointer
  have entries := entries_turn atFront.filled stage.turns
  have front := stage.front_eq
  refine ⟨next.trans stage.turns.next, ?_, ?_⟩
  · intro j other
    rw [elsewhere j other, stage.turns.queue, Function.update_of_ne other]
  · rw [entries, front] at fate
    rcases fate with ⟨failed, gone⟩ | ⟨fine, kept⟩
    · left
      refine ⟨gone, ?_⟩
      cases acting : acts (s.front i).queueState with
      | true => exact Or.inl rfl
      | false => exact Or.inr (stage.idle acting ▸ failed)
    · refine Or.inr ⟨e, kept, stage.turns.key, fine, stage.turns.weight, ?_, stage.idle⟩
      intro acting
      exact (stage.gains acting).resolve_right (Nat.not_le.mpr fine)

theorem look_turns (atFront : AtFront cfg s i) (other : (s.front i).queueState ≠ .transDone) :
    ∃ e, StageTurns cfg { s with txHeadPtr := some (s.queue i).head } (lookAtHead i s) i
      (· == .transRunning) e := by
  by_cases running : (s.front i).queueState = .transRunning
  · have same : lookAtHead i s = { s.setFront i { s.front i with
        errCounter := (s.front i).errCounter + 1 } with txHeadPtr := some (s.queue i).head } := by
      simp [lookAtHead, getTxQueueHead_filled atFront.filled, front_entry, running, State.setFront]
    have up : (s.front i).weight <
        { s.front i with errCounter := (s.front i).errCounter + 1 }.weight :=
      weight_errors (Nat.lt_succ_self _)
    refine ⟨{ s.front i with errCounter := (s.front i).errCounter + 1 },
      ⟨?_, ?_, ?_, rfl, Nat.le_of_lt up, Nat.le_succ _⟩, fun _ => Or.inl up, ?_⟩
    · rw [same]
      rfl
    · rw [same]
      rfl
    · rw [same]
    · intro resting
      exact absurd running (by simpa using resting)
  · have same : lookAtHead i s = { s with txHeadPtr := some (s.queue i).head } := by
      simp only [lookAtHead, getTxQueueHead_filled atFront.filled, front_entry]
    rw [same]
    refine ⟨_, Turns.stay rfl rfl rfl i, ?_, fun _ => rfl⟩
    intro acting
    exact absurd (beq_iff_eq.mp acting) running

theorem servePeer_head (env : Env) (atFront : AtFront cfg s i)
    (other : (s.front i).queueState ≠ .transDone) :
    Outcome cfg s (servePeer cfg env s i) i TxQueueState.isActive := by
  obtain ⟨e, first⟩ := look_turns atFront other
  have stages : servePeer cfg env s i = execute cfg env i
    (middleStages.foldl (execute cfg env i) (lookAtHead i s)) .drop := rfl
  rw [stages]
  generalize lookAtHead i s = v at *
  have pointing : AtFront cfg { s with txHeadPtr := some (s.queue i).head } i :=
    ⟨atFront.bound, atFront.filled, atFront.own⟩
  have pointer : v.txHeadPtr = some (v.queue i).head := by
    rw [first.turns.pointer, first.turns.head]
  obtain ⟨f, second⟩ := middle_turns env (first.turns.atFront pointing) pointer
  have pointer' : (middleStages.foldl (execute cfg env i) v).txHeadPtr =
      some ((middleStages.foldl (execute cfg env i) v).queue i).head := by
    rw [second.turns.pointer, second.turns.head, pointer]
  have result := outcome_front env pointing (first.trans second) pointer'
  exact ⟨result.next, result.elsewhere, result.fate⟩

theorem stages_none (pointer : s.txHeadPtr = none) :
    execute cfg env i (middleStages.foldl (execute cfg env i) s) .drop = s := by
  have idle : ∀ stage ∈ middleStages ++ [.drop], execute cfg env i s stage = s := by
    intro stage member
    simp only [middleStages, List.cons_append, List.nil_append, List.mem_cons,
      List.not_mem_nil, or_false] at member
    rcases member with rfl | rfl | rfl | rfl | rfl | rfl | rfl | rfl <;>
      simp [execute, atHead, pointer]
  have middle : middleStages.foldl (execute cfg env i) s = s := by
    apply foldl_ignored
    intro stage member
    exact idle stage (List.mem_append_left _ member)
  rw [middle]
  exact idle .drop (by simp)

theorem lookAtHead_done (atFront : AtFront cfg s i) (done : (s.front i).queueState = .transDone) :
    lookAtHead i s = { (((s.setInfo i (s.front i).msgIdx
      { s.msgTxInfo i (s.front i).msgIdx with bufState := .idle }).setQueue i
        (s.queue i).pop).emit (.retired (s.front i).ticket)) with
      txHeadPtr := (lookAtHead i s).txHeadPtr } := by
  simp [lookAtHead, getTxQueueHead_filled atFront.filled, front_entry, done, finishData,
    removeTxQueueHead, atFront.own.anchorId, atFront.filled]

theorem servePeer_done (env : Env) (queued : Queued cfg s.toCore) (bound : i < cfg.numLlTx)
    (filled : (s.queue i).isEmpty = false) (done : (s.front i).queueState = .transDone) :
    (servePeer cfg env s i).nextTicket = s.nextTicket ∧
      (∀ j, j ≠ i → (servePeer cfg env s i).queue j = s.queue j) ∧
      ((servePeer cfg env s i).keys i).Sublist (s.keys i).tail := by
  have look := lookAtHead_done (queued.atFront bound filled) done
  have pointer := lookAtHead_pointer i s
  have popped : (lookAtHead i s).keys i = (s.keys i).tail := by
    rw [look]
    simp [Core.keys, Core.entries, Ring.toList_cons _ filled]
  have next : (lookAtHead i s).nextTicket = s.nextTicket := by
    rw [look]
    rfl
  have elsewhere : ∀ j, j ≠ i → (lookAtHead i s).queue j = s.queue j := by
    intro j other
    rw [look]
    simp [other]
  have stages : servePeer cfg env s i = execute cfg env i
    (middleStages.foldl (execute cfg env i) (lookAtHead i s)) .drop := rfl
  have later : Queued cfg (lookAtHead i s).toCore := by
    have move : Move cfg env (fun _ _ => True) s (lookAtHead i s) := lookAtHead_move queued bound
    exact move.queued queued
  rw [stages]
  generalize lookAtHead i s = v at *
  cases empty : (v.queue i).isEmpty with
  | true =>
      rw [getTxQueueHead_empty empty] at pointer
      rw [stages_none pointer]
      exact ⟨next, elsewhere, popped ▸ .refl _⟩
  | false =>
      rw [getTxQueueHead_filled empty] at pointer
      have second := later.atFront bound empty
      obtain ⟨f, middle⟩ := middle_turns env second pointer
      have pointer' : (middleStages.foldl (execute cfg env i) v).txHeadPtr =
          some ((middleStages.foldl (execute cfg env i) v).queue i).head := by
        rw [middle.turns.pointer, middle.turns.head, pointer]
      have result := outcome_front env second middle pointer'
      refine ⟨result.next.trans next, ?_, ?_⟩
      · intro j other
        rw [result.elsewhere j other, elsewhere j other]
      · rw [← popped]
        exact result.keys_sublist empty

theorem servePeer_local (env : Env) (queued : Queued cfg s.toCore) (bound : i < cfg.numLlTx) :
    (servePeer cfg env s i).nextTicket = s.nextTicket ∧
      (∀ j, j ≠ i → (servePeer cfg env s i).queue j = s.queue j) ∧
      ((servePeer cfg env s i).keys i).Sublist (s.keys i) := by
  cases filled : (s.queue i).isEmpty with
  | true =>
      have look : lookAtHead i s = { s with txHeadPtr := none } := by
        simp [lookAtHead, getTxQueueHead_empty filled]
      have stages : servePeer cfg env s i = execute cfg env i
        (middleStages.foldl (execute cfg env i) (lookAtHead i s)) .drop := rfl
      rw [stages, look, stages_none rfl]
      exact ⟨rfl, fun _ _ => rfl, .refl _⟩
  | false =>
      by_cases done : (s.front i).queueState = .transDone
      · obtain ⟨next, elsewhere, keys⟩ := servePeer_done env queued bound filled done
        exact ⟨next, elsewhere, keys.trans (List.tail_sublist _)⟩
      · have result := servePeer_head env (queued.atFront bound filled) done
        exact ⟨result.next, result.elsewhere, result.keys_sublist filled⟩

theorem servePeer_queued (env : Env) (queued : Queued cfg s.toCore) (bound : i < cfg.numLlTx) :
    Queued cfg (servePeer cfg env s i).toCore := by
  obtain ⟨next, elsewhere, keys⟩ := servePeer_local env queued bound
  apply queued.shrink next
  intro j _
  by_cases here : j = i
  · rw [here]
    exact keys
  · rw [keys_eq (elsewhere j here)]

end Serve

section Calls

theorem serve_others (env : Env) {peers : List Nat} (queued : Queued cfg s.toCore)
    (bounds : ∀ q ∈ peers, q < cfg.numLlTx) :
    Queued cfg (peers.foldl (servePeer cfg env) s).toCore ∧
      (i ∉ peers → (peers.foldl (servePeer cfg env) s).queue i = s.queue i) := by
  induction peers generalizing s with
  | nil => exact ⟨queued, fun _ => rfl⟩
  | cons q peers ih =>
      have bound := bounds q (by simp)
      have next := servePeer_queued env queued bound
      have rest := ih next fun p member => bounds p (by simp [member])
      refine ⟨rest.1, ?_⟩
      intro absent
      simp only [List.mem_cons, not_or] at absent
      rw [List.foldl_cons, rest.2 absent.2,
        (servePeer_local env queued bound).2.1 i absent.1]

theorem serve_keys (env : Env) {peers : List Nat} (queued : Queued cfg s.toCore)
    (bounds : ∀ q ∈ peers, q < cfg.numLlTx) (j : Nat) :
    (peers.foldl (servePeer cfg env) s).nextTicket = s.nextTicket ∧
      ((peers.foldl (servePeer cfg env) s).keys j).Sublist (s.keys j) := by
  induction peers generalizing s with
  | nil => exact ⟨rfl, .refl _⟩
  | cons q peers ih =>
      have bound := bounds q (by simp)
      have first := servePeer_local env queued bound
      have rest := ih (servePeer_queued env queued bound) fun p member =>
        bounds p (by simp [member])
      refine ⟨rest.1.trans first.1, rest.2.trans ?_⟩
      by_cases here : j = q
      · rw [here]
        exact first.2.2
      · rw [keys_eq (first.2.1 j here)]

theorem cyclicTx_keys (env : Env) (queued : Queued cfg s.toCore) (j : Nat) :
    (cyclicTx cfg env s).nextTicket = s.nextTicket ∧
      ((cyclicTx cfg env s).keys j).Sublist (s.keys j) :=
  serve_keys env queued (fun _ => servedPeers_bound) j

theorem serve_one (env : Env) {peers : List Nat} (queued : Queued cfg s.toCore)
    (bounds : ∀ q ∈ peers, q < cfg.numLlTx) (once : peers.Nodup) (member : i ∈ peers) :
    ∃ u : State, Queued cfg u.toCore ∧ u.queue i = s.queue i ∧
      (peers.foldl (servePeer cfg env) s).queue i = (servePeer cfg env u i).queue i := by
  obtain ⟨front, back, rfl⟩ := List.append_of_mem member
  have apart := List.nodup_append.mp once
  have bounds' : ∀ q ∈ front, q < cfg.numLlTx := fun q first => bounds q (by simp [first])
  have before := serve_others (i := i) env queued bounds'
  have absent : i ∉ front := by
    intro first
    exact apart.2.2 i first i (by simp) rfl
  have later : i ∉ back := (List.nodup_cons.mp apart.2.1).1
  have bound := bounds i member
  refine ⟨front.foldl (servePeer cfg env) s, before.1, before.2 absent, ?_⟩
  rw [List.foldl_append, List.foldl_cons]
  exact (serve_others env (servePeer_queued env before.1 bound)
    fun q last => bounds q (by simp [last])).2 later

/-- The head of the queue of peer `i` has left, changed its state, or failed once more. -/
def Progresses (s t : Core) (i : Nat) : Prop :=
  (∀ e ∈ t.entries i, e.ticket ≠ (s.front i).ticket) ∨
    ∃ e ∈ t.entries i, e.ticket = (s.front i).ticket ∧
      (e.queueState ≠ (s.front i).queueState ∨ (s.front i).errCounter < e.errCounter)

instance (s t : Core) (i : Nat) : Decidable (Progresses s t i) :=
  inferInstanceAs (Decidable (_ ∨ _))

/-- An entry whose encryption has failed: no part of the cyclic function handles it. -/
def Stuck (cfg : Config) (e : Entry) : Prop :=
  e.queueState = .encReady ∧ e.errCounter < cfg.maxRetryCount

instance (e : Entry) : Decidable (Stuck cfg e) := inferInstanceAs (Decidable (_ ∧ _))

/-- The call reaches the queues at all. -/
def CryptoReady (cfg : Config) (env : Env) (s : State) : Prop :=
  cfg.build = .ncj29d5 → env.isCryptoFree s.log = true

instance (s : State) : Decidable (CryptoReady cfg env s) := inferInstanceAs (Decidable (_ → _))

theorem Queued.tail_tickets (queued : Queued cfg s.toCore) (bound : i < cfg.numLlTx)
    (filled : (s.queue i).isEmpty = false) {k : Nat × Nat × Nat × Nat}
    (member : k ∈ (s.keys i).tail) : k.2.2.2 ≠ (s.front i).ticket := by
  have ordered := queued.ordered i bound
  rw [entries_front filled, List.pairwise_cons] at ordered
  rw [Core.keys, entries_front filled, List.map_cons, List.tail_cons] at member
  obtain ⟨e, behind, rfl⟩ := List.mem_map.mp member
  exact Nat.ne_of_gt (ordered.1 e behind)

theorem Progresses.gone (queued : Queued cfg s.toCore) (bound : i < cfg.numLlTx)
    (filled : (s.queue i).isEmpty = false) (keys : (t.keys i).Sublist (s.keys i).tail) :
    Progresses s.toCore t.toCore i := by
  left
  intro e member
  exact queued.tail_tickets bound filled (keys.subset (List.mem_map_of_mem member))

theorem not_progresses (queued : Queued cfg s.toCore) (bound : i < cfg.numLlTx)
    (filled : (s.queue i).isEmpty = false) (same : t.entries i = s.entries i) :
    ¬ Progresses s.toCore t.toCore i := by
  rintro (gone | ⟨e, member, ticket, change⟩)
  · exact gone (s.front i) (same ▸ front_mem filled) rfl
  · rw [same, entries_front filled, List.mem_cons] at member
    rcases member with rfl | behind
    · rcases change with state | errors
      · exact state rfl
      · exact Nat.lt_irrefl _ errors
    · have ordered := queued.ordered i bound
      rw [entries_front filled, List.pairwise_cons] at ordered
      exact absurd ticket (Nat.ne_of_gt (ordered.1 e behind))

/-- A head that is served and not stuck leaves, or gains weight and stays below the limit
of failures. -/
theorem servePeer_gains (env : Env) (queued : Queued cfg s.toCore) (bound : i < cfg.numLlTx)
    (filled : (s.queue i).isEmpty = false) (free : (s.front i).queueState ≠ .encRunning ∧
      (s.front i).queueState ≠ .cmacRunning) (unstuck : ¬ Stuck cfg (s.front i)) :
    ((servePeer cfg env s i).keys i).Sublist (s.keys i).tail ∨
      ∃ e, (servePeer cfg env s i).entries i = e :: (s.entries i).tail ∧
        e.key = (s.front i).key ∧ e.errCounter < cfg.maxRetryCount ∧
        (s.front i).weight < e.weight := by
  by_cases done : (s.front i).queueState = .transDone
  · exact Or.inl (servePeer_done env queued bound filled done).2.2
  · have result := servePeer_head env (queued.atFront bound filled) done
    rcases result.fate with ⟨gone, _⟩ | ⟨e, kept, key, fine, _, gains, idle⟩
    · left
      rw [Core.keys, Core.keys, gone, List.map_tail]
    · refine Or.inr ⟨e, kept, key, fine, gains ?_⟩
      by_contra resting
      have same := idle (by simpa using resting)
      apply unstuck
      rw [same] at fine
      refine ⟨?_, fine⟩
      revert resting
      cases at' : (s.front i).queueState <;>
        simp_all [TxQueueState.isActive, TxQueueState.isPending]

theorem servePeer_progress (env : Env) (queued : Queued cfg s.toCore) (bound : i < cfg.numLlTx)
    (filled : (s.queue i).isEmpty = false) (free : (s.front i).queueState ≠ .encRunning ∧
      (s.front i).queueState ≠ .cmacRunning) :
    Progresses s.toCore (servePeer cfg env s i).toCore i ↔ ¬ Stuck cfg (s.front i) := by
  constructor
  · -- a stuck head is found again as it was
    intro progress stuck
    have other : (s.front i).queueState ≠ .transDone := by simp [stuck.1]
    have result := servePeer_head env (queued.atFront bound filled) other
    rcases result.fate with ⟨_, cause⟩ | ⟨e, kept, _, _, _, _, idle⟩
    · rcases cause with acting | failed
      · simp [stuck.1, TxQueueState.isActive, TxQueueState.isPending] at acting
      · exact absurd stuck.2 (Nat.not_lt.mpr failed)
    · have same : e = s.front i := idle (by
        simp [stuck.1, TxQueueState.isActive, TxQueueState.isPending])
      rw [same, ← entries_front filled] at kept
      exact not_progresses queued bound filled kept progress
  · intro unstuck
    rcases servePeer_gains env queued bound filled free unstuck with gone | ⟨e, kept, key, _, up⟩
    · exact Progresses.gone queued bound filled gone
    · right
      refine ⟨e, by rw [kept]; simp, congrArg (fun k => k.2.2.2) key, ?_⟩
      by_cases state : e.queueState = (s.front i).queueState
      · right
        unfold Entry.weight at up
        rw [state] at up
        omega
      · exact Or.inl state

theorem Progresses.congr {s s' t t' : Core} (before : s.queue i = s'.queue i)
    (after : t.queue i = t'.queue i) : Progresses s t i ↔ Progresses s' t' i := by
  simp only [Progresses, Core.entries, Core.front, before, after]

theorem cyclicTx_serves (env : Env) (queued : Queued cfg s.toCore) (bound : i < cfg.numLlTx)
    (allowed : served cfg (env.nodeOkToTx s.log) i = true) (crypto : CryptoReady cfg env s) :
    ∃ u : State, Queued cfg u.toCore ∧ u.queue i = s.queue i ∧
      (cyclicTx cfg env s).queue i = (servePeer cfg env u i).queue i := by
  have open' : ¬ (cfg.build = .ncj29d5 ∧ env.isCryptoFree s.log = false) := by
    rintro ⟨build, busy⟩
    rw [crypto build] at busy
    cases busy
  have member : i ∈ servedPeers cfg env s := by
    simp [servedPeers, open', bound, allowed]
  have once : (servedPeers cfg env s).Nodup := by
    unfold servedPeers
    simp only
    split
    · exact List.nodup_nil
    · exact List.nodup_range.filter _
  exact serve_one env queued (fun q => servedPeers_bound) once member

/-- One call of the cyclic function makes progress at the head of the queue of an allowed
peer exactly if the head is not left over from a failed encryption. -/
theorem cyclicTx_progress (queued : Queued cfg s.toCore) (bound : i < cfg.numLlTx)
    (allowed : served cfg (env.nodeOkToTx s.log) i = true) (filled : (s.queue i).isEmpty = false)
    (free : (s.front i).queueState ≠ .encRunning ∧ (s.front i).queueState ≠ .cmacRunning) :
    Progresses s.toCore (cyclicTx cfg env s).toCore i ↔
      ¬ Stuck cfg (s.front i) ∧ CryptoReady cfg env s := by
  by_cases crypto : CryptoReady cfg env s
  · obtain ⟨u, queued', same, after⟩ := cyclicTx_serves env queued bound allowed crypto
    have front : u.front i = s.front i := by simp only [Core.front, same]
    have here := servePeer_progress env queued' bound (same ▸ filled) (front ▸ free)
    rw [front] at here
    rw [Progresses.congr same.symm after, here]
    exact ⟨fun unstuck => ⟨unstuck, crypto⟩, fun both => both.1⟩
  · have busy : cfg.build = .ncj29d5 ∧ env.isCryptoFree s.log = false := by
      simpa [CryptoReady] using crypto
    have idle : cyclicTx cfg env s = s := by simp [cyclicTx, servedPeers, busy]
    rw [idle]
    apply iff_of_false
    · exact not_progresses queued bound filled rfl
    · exact fun both => crypto both.2

theorem cyclicTx_head (queued : Queued cfg s.toCore) (bound : i < cfg.numLlTx)
    (allowed : served cfg (env.nodeOkToTx s.log) i = true) (crypto : CryptoReady cfg env s)
    (filled : (s.queue i).isEmpty = false)
    (free : (s.front i).queueState ≠ .encRunning ∧ (s.front i).queueState ≠ .cmacRunning)
    (unstuck : ¬ Stuck cfg (s.front i)) :
    ((cyclicTx cfg env s).keys i).Sublist (s.keys i).tail ∨
      ∃ e, (cyclicTx cfg env s).entries i = e :: (s.entries i).tail ∧
        e.key = (s.front i).key ∧ e.errCounter < cfg.maxRetryCount ∧
        (s.front i).weight < e.weight := by
  obtain ⟨u, queued', same, after⟩ := cyclicTx_serves env queued bound allowed crypto
  have front : u.front i = s.front i := by simp only [Core.front, same]
  have entries : u.entries i = s.entries i := by simp only [Core.entries, same]
  have entries' : (cyclicTx cfg env s).entries i = (servePeer cfg env u i).entries i := by
    simp only [Core.entries, after]
  have gains := servePeer_gains env queued' bound (same ▸ filled) (front ▸ free)
    (front ▸ unstuck)
  rw [Core.keys, Core.keys, entries, front, ← entries'] at gains
  exact gains

end Calls

section Bounded

def call (cfg : Config) (env : Env) (s : State) : Op → State
  | .cyclicTx => cyclicTx cfg env s
  | .resume => s
  | op => step cfg env s op

def Op.isCyclicTx : Op → Bool
  | .cyclicTx => true
  | _ => false

/-- While request `k` is at the head of the queue of peer `i`, every call of the cyclic
function serves that peer and finds the head neither waiting for the crypto engine nor left
over from a failed encryption. -/
def Unstuck (cfg : Config) (env : Env) (i k : Nat) (s : State) : Op → Prop
  | .cyclicTx =>
    (s.queue i).isEmpty = false → (s.front i).ticket = k →
      served cfg (env.nodeOkToTx s.log) i = true ∧ CryptoReady cfg env s ∧
        ((s.front i).queueState ≠ .encRunning ∧ (s.front i).queueState ≠ .cmacRunning) ∧
        ¬ Stuck cfg (s.front i)
  | _ => True

instance (i k : Nat) (s : State) : (op : Op) → Decidable (Unstuck cfg env i k s op)
  | .cyclicTx => inferInstanceAs (Decidable (_ → _ → _))
  | .transmit _ => inferInstanceAs (Decidable True)
  | .copyTxData _ _ => inferInstanceAs (Decidable True)
  | .tpTxConfirmation _ _ _ => inferInstanceAs (Decidable True)
  | .resume => inferInstanceAs (Decidable True)

def KeepsFront (s t : State) (i : Nat) : Prop :=
  (s.queue i).isEmpty = false → (t.queue i).isEmpty = false ∧
    (t.front i).key = (s.front i).key ∧ (s.front i).weight ≤ (t.front i).weight

theorem KeepsFront.of_queue (queue : t.queue = s.queue) (i : Nat) : KeepsFront s t i := by
  intro filled
  simp [Core.front, queue, filled]

theorem KeepsFront.of_setFront {j : Nat} {e : Entry} (weight : (s.front j).weight ≤ e.weight)
    (key : e.key = (s.front j).key) (queue : t.queue = (s.setFront j e).queue) (i : Nat) :
    KeepsFront s t i := by
  intro filled
  by_cases here : i = j
  · subst here
    have front : t.front i = e := by simp [Core.front, queue, Ring.front]
    rw [front]
    exact ⟨by simp [queue, filled], key, weight⟩
  · have same : t.queue i = s.queue i := by simp [queue, here]
    simp [Core.front, same, filled]

theorem transmit_keeps (cfg : Config) (args : TransmitArgs) (s : State) (i : Nat) :
    KeepsFront s (transmit cfg args s).1 i := by
  unfold transmit
  split
  · exact .of_queue rfl i
  · rename_i m _
    split
    · cases room : (s.queue (otherEndIdxToUse cfg m args.otherEndIdx)).isFull with
      | true =>
          rw [acceptData_full room]
          exact .of_queue (storeData_queue cfg args m s) i
      | false =>
          intro filled
          have queue : (acceptData cfg args m s).1.queue =
              Function.update s.queue (otherEndIdxToUse cfg m args.otherEndIdx)
                ((s.queue (otherEndIdxToUse cfg m args.otherEndIdx)).push
                  (newEntry cfg s.toCore (otherEndIdxToUse cfg m args.otherEndIdx) m)) := by
            rw [acceptData_room room]
            simp only [State.setInfo_queue, State.setQueue_queue, storeData_queue]
          by_cases here : i = otherEndIdxToUse cfg m args.otherEndIdx
          · subst here
            have same : (acceptData cfg args m s).1.front
                (otherEndIdxToUse cfg m args.otherEndIdx) =
                s.front (otherEndIdxToUse cfg m args.otherEndIdx) := by
              simp [Core.front, queue, Ring.push_front _ _ room filled]
            rw [same, queue, Function.update_self]
            exact ⟨Ring.push_filled _ _ room, rfl, Nat.le_refl _⟩
          · have same : (acceptData cfg args m s).1.queue i = s.queue i := by simp [queue, here]
            simp [Core.front, same, filled]
    · exact .of_queue rfl i

theorem weight_done (e : Entry) : e.weight ≤ { e with queueState := .transDone }.weight := by
  unfold Entry.weight
  cases e.queueState <;> simp [TxQueueState.rank]

theorem weight_again (e : Entry) : e.weight ≤
    { e with queueState := .transReady, errCounter := e.errCounter + 1 }.weight := by
  unfold Entry.weight
  cases e.queueState <;> simp [TxQueueState.rank] <;> omega

theorem copyBytes_keeps (cfg : Config) (id : Nat) (args : CopyArgs) (c j : Nat) (s : State)
    (i : Nat) : KeepsFront s (copyBytes cfg id args c j (getTxQueueHead s j) s).1 i := by
  cases given : args.hasBuffer with
  | false =>
      have same : (copyBytes cfg id args c j (getTxQueueHead s j) s).1 = s := by
        simp [copyBytes, given]
      rw [same]
      exact .of_queue rfl i
  | true =>
      rw [copyBytes_given _ given]
      split
      · cases filled : (s.queue j).isEmpty with
        | true =>
            rw [getTxQueueHead_empty filled]
            exact .of_queue rfl i
        | false =>
            rw [getTxQueueHead_filled filled]
            exact .of_setFront (weight_done (s.front j)) rfl rfl i
      · exact .of_queue rfl i

theorem copyTxData_keeps (cfg : Config) (id : Nat) (args : Option CopyArgs) (s : State) (i : Nat) :
    KeepsFront s (copyTxData cfg id args s).1 i := by
  unfold copyTxData
  split
  · exact .of_queue rfl i
  · split
    · exact .of_queue rfl i
    · simp only
      split
      · exact .of_queue rfl i
      · exact copyBytes_keeps cfg id _ _ _ s i

theorem tpTxConfirmation_keeps (cfg : Config) (k id : Nat) (result : StdReturn) (s : State)
    (i : Nat) : KeepsFront s (tpTxConfirmation cfg k id result s) i := by
  unfold tpTxConfirmation
  split
  · exact .of_queue rfl i
  · rename_i c j _
    simp only
    cases filled : (s.queue j).isEmpty with
    | true =>
        rw [getTxQueueHead_empty (s := s.emit _) filled]
        simp only
        split
        · split
          · exact .of_queue rfl i
          · exact .of_queue rfl i
        · exact .of_queue rfl i
    | false =>
        rw [getTxQueueHead_filled (s := s.emit _) filled]
        simp only
        split
        · split
          · exact .of_setFront (weight_done (s.front j)) rfl rfl i
          · exact .of_setFront (weight_again (s.front j)) rfl rfl i
        · exact .of_queue rfl i

/-- Request `k` has left the queue of peer `i` for good. -/
def Left (s : Core) (i k : Nat) : Prop := k < s.nextTicket ∧ ∀ e ∈ s.entries i, e.ticket ≠ k

theorem call_queued (queued : Queued cfg s.toCore) (op : Op) :
    Queued cfg (call cfg env s op).toCore := by
  cases op with
  | transmit args =>
      have move : Move cfg env (fun _ _ => True) s (transmit cfg args s).1 :=
        transmit_move args trivial
      exact move.queued queued
  | copyTxData id args =>
      have move : Move cfg env (fun _ _ => True) s (copyTxData cfg id args s).1 :=
        copyTxData_move queued id args trivial
      exact move.queued queued
  | tpTxConfirmation k id result =>
      have move : Move cfg env (fun _ _ => True) s (tpTxConfirmation cfg k id result s) :=
        tpTxConfirmation_move queued k id result trivial
      exact move.queued queued
  | cyclicTx => exact (serve_others (i := 0) env queued fun q => servedPeers_bound).1
  | resume => exact queued

theorem call_keeps (cfg : Config) (env : Env) (s : State) (op : Op) (other : op.isCyclicTx = false)
    (i : Nat) :
    KeepsFront s (call cfg env s op) i := by
  cases op with
  | transmit args => exact transmit_keeps cfg args s i
  | copyTxData id args => exact copyTxData_keeps cfg id args s i
  | tpTxConfirmation k id result => exact tpTxConfirmation_keeps cfg k id result s i
  | cyclicTx => cases other
  | resume => exact .of_queue rfl i

theorem Left.sublist {s t : Core} {k : Nat} (left : Left s i k) (next : t.nextTicket = s.nextTicket)
    (keys : (t.keys i).Sublist (s.keys i)) : Left t i k := by
  refine ⟨next ▸ left.1, ?_⟩
  intro e member
  have key : e.key ∈ s.keys i := keys.subset (List.mem_map_of_mem member)
  obtain ⟨f, old, same⟩ := List.mem_map.mp key
  have ticket : f.ticket = e.ticket := congrArg (fun k => k.2.2.2) same
  rw [← ticket]
  exact left.2 f old

theorem Left.change {k : Nat} (left : Left s.toCore i k)
    (change : QueueChange cfg s.toCore t.toCore) : Left t.toCore i k := by
  cases change with
  | none queue next => exact left.sublist next (by rw [keys_eq (congrFun queue i)])
  | replaced j e _ filled queue next same =>
      apply left.sublist next
      rw [keys_eq (s := (s.setFront j e).toCore) (congrFun queue i), keys_setFront filled same i]
  | popped j _ filled queue next =>
      apply left.sublist next
      rw [keys_eq (s := (s.setQueue j (s.queue j).pop).toCore) (congrFun queue i)]
      exact keys_pop filled i
  | pushed j m room queue next _ _ =>
      refine ⟨by rw [next]; exact Nat.lt_succ_of_lt left.1, ?_⟩
      intro e member
      by_cases here : i = j
      · subst here
        simp only [Core.entries, queue, Function.update_self, Ring.push_toList _ _ room,
          List.mem_append, List.mem_singleton] at member
        rcases member with old | rfl
        · exact left.2 e old
        · exact Nat.ne_of_gt left.1
      · simp only [Core.entries, queue, Function.update_of_ne here] at member
        exact left.2 e member

theorem call_left {k : Nat} (queued : Queued cfg s.toCore) (left : Left s.toCore i k) (op : Op) :
    Left (call cfg env s op).toCore i k := by
  cases op with
  | transmit args =>
      have move : Move cfg env (fun _ _ => True) s (transmit cfg args s).1 :=
        transmit_move args trivial
      exact left.change move.queueChange
  | copyTxData id args =>
      have move : Move cfg env (fun _ _ => True) s (copyTxData cfg id args s).1 :=
        copyTxData_move queued id args trivial
      exact left.change move.queueChange
  | tpTxConfirmation k id result =>
      have move : Move cfg env (fun _ _ => True) s (tpTxConfirmation cfg k id result s) :=
        tpTxConfirmation_move queued k id result trivial
      exact left.change move.queueChange
  | cyclicTx =>
      have keys := cyclicTx_keys env queued i
      exact left.sublist keys.1 keys.2
  | resume => exact left

def Lasts (cfg : Config) (s : State) (i k n : Nat) : Prop :=
  Left s.toCore i k ∨ (s.queue i).isEmpty = false ∧ (s.front i).ticket = k ∧
    n ≤ (s.front i).weight ∧ (n = 0 ∨ n < 8 * cfg.maxRetryCount)

theorem call_lasts {k n : Nat} (queued : Queued cfg s.toCore) (bound : i < cfg.numLlTx)
    (lasts : Lasts cfg s i k n) {op : Op} (unstuck : Unstuck cfg env i k s op) :
    Lasts cfg (call cfg env s op) i k (n + if op.isCyclicTx then 1 else 0) := by
  rcases lasts with left | ⟨filled, ticket, weight, few⟩
  · exact Or.inl (call_left queued left op)
  · cases cyclic : op.isCyclicTx with
    | false =>
        obtain ⟨filled', key, more⟩ := call_keeps cfg env s op cyclic i filled
        refine Or.inr ⟨filled', ?_, Nat.le_trans weight more, few⟩
        rw [← ticket]
        exact congrArg (fun k => k.2.2.2) key
    | true =>
        have same : op = .cyclicTx := by
          cases op with
          | cyclicTx => rfl
          | _ => cases cyclic
        subst same
        obtain ⟨allowed, crypto, free, fine⟩ := unstuck filled ticket
        have number := (queued.own i bound _ (front_mem filled)).ticket
        have next := (cyclicTx_keys env queued i).1
        rcases cyclicTx_head queued bound allowed crypto filled free fine with
          gone | ⟨e, kept, key, below, up⟩
        · left
          refine ⟨?_, ?_⟩
          · rw [← ticket]
            exact next ▸ number
          · intro e member
            rw [← ticket]
            exact queued.tail_tickets bound filled (gone.subset (List.mem_map_of_mem member))
        · right
          have filled' : ((cyclicTx cfg env s).queue i).isEmpty = false := by
            rw [← Bool.not_eq_true, Ring.isEmpty_iff]
            intro nothing
            rw [Core.entries, nothing] at kept
            cases kept
          have front : (cyclicTx cfg env s).front i = e := by
            rw [entries_front filled'] at kept
            exact (List.cons.inj kept).1
          have heavy : e.weight < 8 * cfg.maxRetryCount := by
            unfold Entry.weight
            cases e.queueState <;> simp only [TxQueueState.rank] <;> omega
          refine ⟨filled', ?_, ?_, Or.inr ?_⟩
          · change ((cyclicTx cfg env s).front i).ticket = k
            rw [front, ← ticket]
            exact congrArg (fun k => k.2.2.2) key
          · change n + 1 ≤ ((cyclicTx cfg env s).front i).weight
            rw [front]
            omega
          · change n + 1 < _
            omega

theorem calls_lasts {k n : Nat} (queued : Queued cfg s.toCore) (bound : i < cfg.numLlTx)
    (lasts : Lasts cfg s i k n) {ops : List Op}
    (unstuck : Guarded (call cfg env) (Unstuck cfg env i k) s ops) :
    Lasts cfg (run (call cfg env) s ops) i k (n + ops.countP Op.isCyclicTx) := by
  -- every cyclic call adds one to the weight that the head has at least
  induction ops generalizing s n with
  | nil => exact lasts
  | cons op ops ih =>
      have next := call_lasts queued bound lasts unstuck.1
      have rest := ih (call_queued queued op) next unstuck.2
      rw [run_cons, List.countP_cons]
      rw [show n + (ops.countP Op.isCyclicTx + if op.isCyclicTx = true then 1 else 0) =
        n + (if op.isCyclicTx = true then 1 else 0) + ops.countP Op.isCyclicTx by omega]
      exact rest

/-- In every reachable state, a call of the cyclic function on the head of an allowed peer
that waits for no crypto job makes progress exactly if the head is not left over from a failed
encryption and the crypto engine is free; and a head that is never found left over is gone
after a bounded number of calls, whatever else happens between them. -/
theorem head_progress_iff (cfg : Config) (env : Env) (s₀ : State) (before : List Op) (i : Nat)
    (bound : i < cfg.numLlTx)
    (filled : ((run (step cfg env) (start cfg s₀) before).queue i).isEmpty = false) :
    let s := run (step cfg env) (start cfg s₀) before
    (served cfg (env.nodeOkToTx s.log) i = true →
      (s.front i).queueState ≠ .encRunning ∧ (s.front i).queueState ≠ .cmacRunning →
      (Progresses s.toCore (cyclicTx cfg env s).toCore i ↔
        ¬ Stuck cfg (s.front i) ∧ CryptoReady cfg env s)) ∧
    ∀ later : List Op, Guarded (call cfg env) (Unstuck cfg env i (s.front i).ticket) s later →
      8 * cfg.maxRetryCount + 1 ≤ later.countP Op.isCyclicTx →
      ∀ e ∈ (run (call cfg env) s later).entries i, e.ticket ≠ (s.front i).ticket := by
  intro s
  have queued : Queued cfg s.toCore := (run_linked (start_linked s₀) before).queued
  refine ⟨fun allowed free => cyclicTx_progress queued bound allowed filled free, ?_⟩
  intro later unstuck many
  have now : Lasts cfg s i (s.front i).ticket 0 :=
    Or.inr ⟨filled, rfl, Nat.zero_le _, Or.inl rfl⟩
  rcases calls_lasts queued bound now unstuck with left | ⟨_, _, _, few⟩
  · exact left.2
  · omega

def sampleQueued (env : Env) : State :=
  run (step (sampleConfig .masterMcu) env) (start (sampleConfig .masterMcu) blank)
    [.transmit (sampleRequest 0 0x10 4)]

theorem head_progress_prompt :
    Progresses (sampleQueued promptEnv).toCore
        (cyclicTx (sampleConfig .masterMcu) promptEnv (sampleQueued promptEnv)).toCore 0 ∧
      ∀ e ∈ (run (call (sampleConfig .masterMcu) promptEnv) (sampleQueued promptEnv)
        (List.replicate 25 .cyclicTx)).entries 0, e.ticket ≠ 0 := by
  have both := head_progress_iff (sampleConfig .masterMcu) promptEnv blank
    [.transmit (sampleRequest 0 0x10 4)] 0 (by decide) (by decide)
  constructor
  · exact (both.1 (by decide) (by decide)).mpr (by decide)
  · exact both.2 (List.replicate 25 .cyclicTx) (by decide +kernel) (by decide)

def failOnceEnv : Env :=
  { promptEnv with
    encrypt := fun log payload fresh =>
      if log.any fun e => e matches .encrypted .. then promptEnv.encrypt log payload fresh
      else (.fail, fun _ => 0) }

/-- After an encryption that failed once, a call of the cyclic function does nothing with the
head, although its peer is allowed and it waits for no crypto job. -/
theorem failed_encryption_sticks :
    let cfg := sampleConfig .masterMcu
    let s := run (step cfg failOnceEnv) (sampleQueued failOnceEnv)
      (.cyclicTx :: List.replicate 27 .resume)
    served cfg (failOnceEnv.nodeOkToTx s.log) 0 = true ∧ (s.queue 0).isEmpty = false ∧
      (s.front 0).queueState ≠ .encRunning ∧ (s.front 0).queueState ≠ .cmacRunning ∧
      ¬ Progresses s.toCore (cyclicTx cfg failOnceEnv s).toCore 0 := by
  decide

end Bounded

end AnchorNode.AnchorCom.Tx
