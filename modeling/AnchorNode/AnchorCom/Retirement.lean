import AnchorNode.AnchorCom.Progress
import AnchorNode.AnchorCom.Crediting

/-! What becomes of a head whose transmission has been confirmed: it waits, done, until the
cyclic function looks at it again, and is retired then. -/

namespace AnchorNode.AnchorCom.Tx

open AnchorNode.Lib

variable {cfg : Config} {env : Env} {s t : State} {i k : Nat} {e : Entry}

def Event.revives (k : Nat) : Event → Bool
  | .request l _ _ _ => l == k
  | .dropped l => l == k
  | _ => false

/-- A negative confirmation for peer `i` that the module does not ignore. -/
def failureHeeded (cfg : Config) (i : Nat) (s : State) : Op → Bool
  | .tpTxConfirmation _ id .notOk =>
    match findByLLPdu cfg id cfg.lowerTxCbPdu cfg.numLlTx with
    | some (c, j) => j == i && !(s.queue i).isEmpty && (s.chTxInfo c i).txInProgress
    | none => false
  | _ => false

/-- No negative confirmation is heeded for peer `i` while request `k` is its head. -/
def NoFailure (cfg : Config) (i k : Nat) (s : State) (op : Op) : Prop :=
  (s.front i).ticket = k → failureHeeded cfg i s op = false

instance (cfg : Config) (i k : Nat) (s : State) (op : Op) : Decidable (NoFailure cfg i k s op) :=
  inferInstanceAs (Decidable (_ → _))

structure Finished (cfg : Config) (i : Nat) (e : Entry) : Prop where
  bound : i < cfg.numLlTx
  done : e.queueState = .transDone
  few : e.errCounter < cfg.maxRetryCount

/-- The head of peer `i` is still `e`. -/
structure Waits (i : Nat) (e : Entry) (s : Core) : Prop where
  filled : (s.queue i).isEmpty = false
  front : s.front i = e

def Gone (cfg : Config) (k : Nat) (s : Core) : Prop := ∀ j < cfg.numLlTx, Left s j k

/-- Between two states the head `e` of peer `i` is neither sent nor given up; it waits, or it
has been retired. -/
def Settles (cfg : Config) (i : Nat) (e : Entry) (s t : Core) : Prop :=
  ∃ new, t.log = s.log ++ new ∧ (∀ event ∈ new, event.revives e.ticket = false) ∧
    (Waits i e t ∨ Gone cfg e.ticket t ∧ .retired e.ticket ∈ new)

theorem reports_revive {events : List Event}
    (noise : ∀ e ∈ events, ∃ id api error, e = .reportError id api error) :
    ∀ e ∈ events, e.revives k = false := by
  intro e member
  obtain ⟨_, _, _, rfl⟩ := noise e member
  rfl

theorem formatWrites_revive (m len : Nat) :
    ∀ event ∈ formatWrites cfg i m len, event.revives k = false := by
  have stores : ∀ event ∈ formatWrites cfg i m len,
      ∃ offset count, event = .written i m offset count := by
    intro event member
    simp only [formatWrites, List.mem_append, List.mem_cons,
      List.not_mem_nil, or_false] at member
    rcases member with ((rfl | rfl) | padding) | rfl
    · exact ⟨_, _, rfl⟩
    · exact ⟨_, _, rfl⟩
    · split at padding
      · split at padding
        · simp only [List.mem_cons, List.not_mem_nil, or_false] at padding
          rcases padding with rfl | rfl | rfl <;> exact ⟨_, _, rfl⟩
        · simp only [List.mem_cons, List.not_mem_nil, or_false] at padding
          rcases padding with rfl | rfl <;> exact ⟨_, _, rfl⟩
      · cases padding
    · exact ⟨_, _, rfl⟩
  intro event member
  obtain ⟨offset, count, rfl⟩ := stores event member
  rfl

theorem Work.revives {log : List Event} {e e' : Entry} {buf buf' : Mem} {len len' : Nat}
    {events : List Event} (work : Work cfg env log i e buf len e' buf' len' events) :
    e.queueState ≠ .transDone ∧ ∀ event ∈ events, event.revives k = false := by
  cases work with
  | unfresh queued => exact ⟨by simp [queued], by simp⟩
  | formatted fresh truncFresh queued =>
      refine ⟨by simp [queued], ?_⟩
      intro event member
      rcases List.mem_append.mp member with store | last
      · exact formatWrites_revive _ _ event store
      · rw [List.mem_singleton.mp last]
        rfl
  | encrypted payload fresh cipher answer ready =>
      exact ⟨by simp [ready], by simp [Event.revives]⟩
  | unauthenticated data cmac answer e' ready =>
      exact ⟨by simp [ready], by simp [Event.revives]⟩
  | sealed data cmac answer offset buf' len' ready =>
      exact ⟨by simp [ready], by simp [Event.revives]⟩

theorem Move.revives {ok : State → Op → Prop} (move : Move cfg env ok s t) (k : Nat) :
    ∃ new, t.log = s.log ++ new ∧ ∀ event ∈ new, event.revives k = true →
      ∃ q, AtFront cfg s q ∧ (s.front q).ticket = k ∧ ((s.front q).queueState = .transReady ∨
        inCall s q = true ∨ (s.front q).errCounter ≥ cfg.maxRetryCount) := by
  have harmless : ∀ events : List Event, t.log = s.log ++ events →
      (∀ event ∈ events, event.revives k = false) →
      ∃ new, t.log = s.log ++ new ∧ ∀ event ∈ new, event.revives k = true →
        ∃ q, AtFront cfg s q ∧ (s.front q).ticket = k ∧ ((s.front q).queueState = .transReady ∨
          inCall s q = true ∨ (s.front q).errCounter ≥ cfg.maxRetryCount) := by
    intro events log dead
    refine ⟨events, log, fun event member alive => ?_⟩
    rw [dead event member] at alive
    cases alive
  cases move with
  | quiet events noise becomes =>
      exact harmless events (congrArg Core.log becomes :) (reports_revive noise)
  | work q e' buf' len' events atFront worked =>
      exact harmless events (congrArg Core.log worked.becomes :) worked.work.revives.2
  | counted q atFront running becomes =>
      exact harmless [] ((congrArg Core.log becomes :).trans (List.append_nil _).symm) (by simp)
  | requested q todo atFront task pointer allowed ready becomes =>
      refine ⟨_, (congrArg Core.log becomes :), ?_⟩
      intro event member alive
      rw [List.mem_singleton.mp member] at alive
      exact ⟨q, atFront, by simpa [Event.revives] using alive, Or.inl ready⟩
  | requestedImc q todo atFront task call allowed radio broadcast becomes =>
      refine ⟨_, (congrArg Core.log becomes :), ?_⟩
      intro event member alive
      rw [List.mem_singleton.mp member] at alive
      exact ⟨q, atFront, by simpa [Event.revives] using alive, Or.inr (Or.inl call)⟩
  | answered q peer result atFront call own becomes =>
      exact harmless _ (congrArg Core.log becomes :) (by simp [Event.revives])
  | sent q atFront call becomes =>
      exact harmless [] ((congrArg Core.log becomes :).trans (List.append_nil _).symm) (by simp)
  | unsent q n atFront call becomes =>
      exact harmless [] ((congrArg Core.log becomes :).trans (List.append_nil _).symm) (by simp)
  | retired q atFront done becomes =>
      exact harmless _ (congrArg Core.log becomes :) (by simp [Event.revives])
  | dropped q atFront failed becomes =>
      refine ⟨_, (congrArg Core.log becomes :), ?_⟩
      intro event member alive
      rw [List.mem_singleton.mp member] at alive
      exact ⟨q, atFront, by simpa [Event.revives] using alive, Or.inr (Or.inr failed)⟩
  | stored args m allowed checked usable becomes =>
      obtain ⟨events, log, dead⟩ := acceptData_log (P := fun e => e.revives k = false)
        (fun _ _ _ _ => rfl) (fun _ _ _ _ => rfl) cfg args m s
      exact harmless events ((congrArg Core.log becomes).trans log) dead
  | copied id c q args allowed _ found headed given becomes =>
      apply harmless [.copied c q (args.retry.map u16) (copiedBytes cfg s.toCore id c q args)]
      · rw [becomes]
        split <;> rfl
      · simp [Event.revives]
  | unheeded l id c q result events allowed found idle noise becomes =>
      apply harmless (.confirmed l c q result :: events) (congrArg Core.log becomes :)
      intro event member
      rcases List.mem_cons.mp member with rfl | later
      · rfl
      · exact reports_revive noise event later
  | confirmedImc l id c q result allowed found empty becomes =>
      exact harmless [.confirmed l c q result] (congrArg Core.log becomes :)
        (by simp [Event.revives])
  | confirmed l id c q result allowed found atFront progress becomes =>
      exact harmless [.confirmed l c q result] (congrArg Core.log becomes :)
        (by simp [Event.revives])

theorem Waits.same {s t : Core} (waits : Waits i e s) (queue : t.queue i = s.queue i) :
    Waits i e t :=
  ⟨by rw [queue]; exact waits.filled, by rw [Core.front, queue]; exact waits.front⟩

theorem Waits.elsewhere {s t : Core} (waits : Waits i e s) {q : Nat} {r : Ring queueSize Entry}
    (queue : t.queue = Function.update s.queue q r) (other : q ≠ i) : Waits i e t :=
  waits.same (by rw [queue, Function.update_of_ne (Ne.symm other)])

theorem Waits.again {s t : Core} (waits : Waits i e s) (done : e.queueState = .transDone)
    (queue : t.queue = Function.update s.queue i
      ((s.queue i).set (s.queue i).head { s.front i with queueState := .transDone })) :
    Waits i e t := by
  have same : { s.front i with queueState := .transDone } = s.front i := by
    rw [waits.front, ← done]
  rw [same, Core.front, set_front_self, Function.update_eq_self] at queue
  exact waits.same (congrFun queue i)

theorem Waits.pushed {args : TransmitArgs} {m : Nat} (waits : Waits i e s.toCore) :
    Waits i e (acceptData cfg args m s).1.toCore := by
  cases room : (s.queue (otherEndIdxToUse cfg m args.otherEndIdx)).isFull with
  | true =>
      rw [acceptData_full room]
      exact waits.same (congrFun (storeData_queue cfg args m s) i)
  | false =>
      have queue : (acceptData cfg args m s).1.queue =
          Function.update s.queue (otherEndIdxToUse cfg m args.otherEndIdx)
            ((s.queue (otherEndIdxToUse cfg m args.otherEndIdx)).push
              (newEntry cfg s.toCore (otherEndIdxToUse cfg m args.otherEndIdx) m)) := by
        rw [acceptData_room room]
        simp only [State.setInfo_queue, State.setQueue_queue, storeData_queue]
      by_cases here : otherEndIdxToUse cfg m args.otherEndIdx = i
      · subst here
        constructor
        · rw [queue, Function.update_self]
          exact Ring.push_filled _ _ room
        · rw [Core.front, queue, Function.update_self, Ring.push_front _ _ room waits.filled]
          exact waits.front
      · exact waits.elsewhere queue here

theorem Waits.popped (waits : Waits i e s.toCore) (queued : Queued cfg s.toCore)
    (bound : i < cfg.numLlTx) {t : Core} (next : t.nextTicket = s.nextTicket)
    (queue : t.queue = Function.update s.queue i (s.queue i).pop) : Gone cfg e.ticket t := by
  have front := front_mem waits.filled
  rw [waits.front] at front
  intro j bound'
  refine ⟨next ▸ (queued.own i bound e front).ticket, ?_⟩
  intro f member
  by_cases here : j = i
  · subst here
    have behind : f ∈ (s.entries j).tail := by
      simpa [Core.entries, queue, Ring.toList_cons _ waits.filled] using member
    have ordered := queued.ordered j bound
    rw [entries_front waits.filled, List.pairwise_cons, waits.front] at ordered
    exact Nat.ne_of_gt (ordered.1 f behind)
  · have kept : f ∈ s.entries j := by
      simpa [Core.entries, queue, here] using member
    intro same
    exact here (queued.apart j bound' i bound f kept e front same)

theorem Move.waits (finished : Finished cfg i e) (queued : Queued cfg s.toCore)
    (waits : Waits i e s.toCore) (call : inCall s i = false)
    (move : Move cfg env (NoFailure cfg i e.ticket) s t) :
    Waits i e t.toCore ∨
      Gone cfg e.ticket t.toCore ∧ t.log = s.log ++ [.retired e.ticket] := by
  have done : (s.front i).queueState = .transDone := by rw [waits.front, finished.done]
  have elsewhere : ∀ {q r}, t.queue = Function.update s.queue q r →
      (q = i → Waits i e t.toCore) → Waits i e t.toCore := by
    intro q r queue here
    by_cases same : q = i
    · exact here same
    · exact waits.elsewhere queue same
  cases move with
  | quiet events noise becomes => exact Or.inl (waits.same (congrArg (·.queue i) becomes))
  | work q e' buf' len' events atFront worked =>
      refine Or.inl (elsewhere (congrArg Core.queue worked.becomes :) ?_)
      rintro rfl
      exact absurd done (worked.work.revives (k := 0)).1
  | counted q atFront running becomes =>
      refine Or.inl (elsewhere (congrArg Core.queue becomes :) ?_)
      rintro rfl
      simp [running] at done
  | requested q todo atFront task pointer allowed ready becomes =>
      refine Or.inl (elsewhere (congrArg Core.queue becomes :) ?_)
      rintro rfl
      simp [ready] at done
  | requestedImc q todo atFront task call' allowed radio broadcast becomes =>
      exact Or.inl (waits.same (congrArg (·.queue i) becomes))
  | answered q peer result atFront call' own becomes =>
      exact Or.inl (waits.same (congrArg (·.queue i) becomes))
  | sent q atFront call' becomes =>
      refine Or.inl (elsewhere (congrArg Core.queue becomes :) ?_)
      rintro rfl
      simp [call] at call'
  | unsent q n atFront call' becomes =>
      refine Or.inl (elsewhere (congrArg Core.queue becomes :) ?_)
      rintro rfl
      simp [call] at call'
  | retired q atFront finish becomes =>
      by_cases here : q = i
      · subst here
        refine Or.inr ⟨?_, ?_⟩
        · exact waits.popped queued atFront.bound (congrArg Core.nextTicket becomes :)
            (congrArg Core.queue becomes :)
        · rw [← waits.front]
          exact (congrArg Core.log becomes :)
      · exact Or.inl (waits.elsewhere (congrArg Core.queue becomes :) here)
  | dropped q atFront failed becomes =>
      refine Or.inl (elsewhere (congrArg Core.queue becomes :) ?_)
      rintro rfl
      rw [waits.front] at failed
      exact absurd finished.few (Nat.not_lt.mpr failed)
  | stored args m allowed checked usable becomes =>
      have pushed : Waits i e (acceptData cfg args m s).1.toCore := waits.pushed
      exact Or.inl (becomes ▸ pushed)
  | copied id c q args allowed _ found headed given becomes =>
      left
      by_cases finishes : copyFinishes cfg s.toCore id c q args = true
      · rw [if_pos finishes] at becomes
        refine elsewhere (congrArg Core.queue becomes :) ?_
        rintro rfl
        exact waits.again finished.done (congrArg Core.queue becomes :)
      · rw [if_neg finishes] at becomes
        exact waits.same (congrArg (·.queue i) becomes)
  | unheeded l id c q result events allowed found idle noise becomes =>
      exact Or.inl (waits.same (congrArg (·.queue i) becomes))
  | confirmedImc l id c q result allowed found empty becomes =>
      exact Or.inl (waits.same (congrArg (·.queue i) becomes))
  | confirmed l id c q result allowed found atFront progress becomes =>
      refine Or.inl (elsewhere (congrArg Core.queue becomes :) ?_)
      rintro rfl
      cases result with
      | ok => exact waits.again finished.done (congrArg Core.queue becomes :)
      | notOk =>
          have idle := allowed (by rw [waits.front])
          simp [failureHeeded, found, waits.filled, progress] at idle

theorem Move.settles (finished : Finished cfg i e) (queued : Queued cfg s.toCore)
    (waits : Waits i e s.toCore) (call : inCall s i = false)
    (move : Move cfg env (NoFailure cfg i e.ticket) s t) :
    Settles cfg i e s.toCore t.toCore := by
  obtain ⟨new, log, alive⟩ := move.revives e.ticket
  refine ⟨new, log, ?_, ?_⟩
  · intro event member
    by_contra revived
    obtain ⟨q, atFront, ticket, cause⟩ := alive event member (by simpa using revived)
    have front := front_mem waits.filled
    rw [waits.front] at front
    have here : q = i := queued.apart q atFront.bound i finished.bound _
      (front_mem atFront.filled) e front ticket
    subst here
    rw [waits.front, finished.done, call] at cause
    rcases cause with ready | calling | failed
    · cases ready
    · cases calling
    · exact absurd finished.few (Nat.not_lt.mpr failed)
  · refine (move.waits finished queued waits call).imp_right ?_
    rintro ⟨gone, retired⟩
    rw [List.append_cancel_left (log.symm.trans retired)]
    exact ⟨gone, List.mem_singleton_self _⟩

def StaysGone (cfg : Config) (k : Nat) (s t : Core) : Prop :=
  ∃ new, t.log = s.log ++ new ∧ (∀ event ∈ new, event.revives k = false) ∧ Gone cfg k t

theorem Move.staysGone {ok : State → Op → Prop} (gone : Gone cfg k s.toCore)
    (move : Move cfg env ok s t) : StaysGone cfg k s.toCore t.toCore := by
  obtain ⟨new, log, alive⟩ := move.revives k
  refine ⟨new, log, ?_, fun j bound => (gone j bound).change move.queueChange⟩
  intro event member
  by_contra revived
  obtain ⟨q, atFront, ticket, -⟩ := alive event member (by simpa using revived)
  exact (gone q atFront.bound).2 _ (front_mem atFront.filled) ticket

theorem StaysGone.trans {s t u : Core} (first : StaysGone cfg k s t)
    (second : StaysGone cfg k t u) : StaysGone cfg k s u := by
  obtain ⟨front, log, dead, -⟩ := first
  obtain ⟨back, log', dead', gone⟩ := second
  refine ⟨front ++ back, by rw [log', log, List.append_assoc], ?_, gone⟩
  intro event member
  rcases List.mem_append.mp member with early | late
  · exact dead event early
  · exact dead' event late

theorem Path.staysGone {ok : State → Op → Prop} (gone : Gone cfg k s.toCore)
    (path : Path cfg env ok s t) : StaysGone cfg k s.toCore t.toCore := by
  induction path with
  | refl => exact ⟨[], (List.append_nil _).symm, by simp, gone⟩
  | tail _ move ih =>
      have kept := ih
      obtain ⟨_, _, _, gone'⟩ := kept
      exact ih.trans (move.staysGone gone')

theorem Settles.refl {s : Core} (waits : Waits i e s) : Settles cfg i e s s :=
  ⟨[], (List.append_nil _).symm, by simp, Or.inl waits⟩

theorem Worked.settles {q : Nat} {e' : Entry} {buf' : Mem} {len' : Nat} {events : List Event}
    (worked : Worked cfg env s q t e' buf' len' events) (waits : Waits i e s.toCore)
    (other : q ≠ i) : Settles cfg i e s.toCore t.toCore :=
  ⟨events, (congrArg Core.log worked.becomes :), worked.work.revives.2,
    Or.inl (waits.elsewhere (congrArg Core.queue worked.becomes :) other)⟩

theorem Settles.trans {s t u : Core} (first : Settles cfg i e s t)
    (waiting : Waits i e t → Settles cfg i e t u)
    (gone : Gone cfg e.ticket t → StaysGone cfg e.ticket t u) : Settles cfg i e s u := by
  obtain ⟨front, log, dead, fate⟩ := first
  have later : ∀ back : List Event, (∀ event ∈ back, event.revives e.ticket = false) →
      ∀ event ∈ front ++ back, event.revives e.ticket = false := by
    intro back dead' event member
    rcases List.mem_append.mp member with early | late
    · exact dead event early
    · exact dead' event late
  rcases fate with waits | ⟨left, retired⟩
  · obtain ⟨back, log', dead', fate'⟩ := waiting waits
    refine ⟨front ++ back, by rw [log', log, List.append_assoc], later back dead', ?_⟩
    exact fate'.imp_right fun ⟨left, retired⟩ => ⟨left, List.mem_append_right _ retired⟩
  · obtain ⟨back, log', dead', left'⟩ := gone left
    refine ⟨front ++ back, by rw [log', log, List.append_assoc], later back dead', ?_⟩
    exact Or.inr ⟨left', List.mem_append_left _ retired⟩

theorem part1_settles (finished : Finished cfg i e) (waits : Waits i e s.toCore) {q : Nat}
    (atFront : AtFront cfg s q) :
    Settles cfg i e s.toCore (txPart1 cfg env q (s.queue q).head s).toCore := by
  by_cases queued : (s.front q).queueState = .queued
  · have other : q ≠ i := by
      rintro rfl
      rw [waits.front, finished.done] at queued
      cases queued
    rcases txPart1_worked atFront queued with ⟨_, _, _, _, worked⟩ |
      ⟨u, _, _, _, _, first, _, _, _, _, _, _, second⟩
    · exact worked.settles waits other
    · have middle := first.settles waits other
      have kept : Waits i e u.toCore :=
        waits.elsewhere (congrArg Core.queue first.becomes :) other
      obtain ⟨front, log, dead, -⟩ := middle
      obtain ⟨back, log', dead', fate⟩ := second.settles kept other
      refine ⟨front ++ back, by rw [log', log, List.append_assoc], ?_, ?_⟩
      · intro event member
        rcases List.mem_append.mp member with early | late
        · exact dead event early
        · exact dead' event late
      · exact fate.imp_right fun ⟨left, retired⟩ => ⟨left, List.mem_append_right _ retired⟩
  · rw [txPart1_other queued]
    exact Settles.refl waits

theorem step_settles (finished : Finished cfg i e) (linked : Linked cfg s)
    (waits : Waits i e s.toCore) (call : inCall s i = false) {op : Op}
    (guard : NoFailure cfg i e.ticket s op) :
    Settles cfg i e s.toCore (step cfg env s op).toCore := by
  cases op with
  | transmit args =>
      have move : Move cfg env (NoFailure cfg i e.ticket) s (transmit cfg args s).1 :=
        transmit_move args guard
      exact move.settles finished linked.queued waits call
  | copyTxData id args =>
      have move : Move cfg env (NoFailure cfg i e.ticket) s (copyTxData cfg id args s).1 :=
        copyTxData_move linked.queued id args guard
      exact move.settles finished linked.queued waits call
  | tpTxConfirmation k id result =>
      have move : Move cfg env (NoFailure cfg i e.ticket) s (tpTxConfirmation cfg k id result s) :=
        tpTxConfirmation_move linked.queued k id result guard
      exact move.settles finished linked.queued waits call
  | cyclicTx =>
      simp only [step]
      split <;> exact Settles.refl waits
  | resume =>
      simp only [step]
      split
      · exact Settles.refl waits
      · rename_i task at'
        by_cases part1 : task.stage = .part1
        · rw [part1]
          change Settles cfg i e s.toCore (atHead s (txPart1 cfg env task.peer)).toCore
          rcases atHead_cases linked at' (by simp [part1]) (txPart1 cfg env task.peer) with
            same | ⟨atFront, _, same⟩
          · rw [same]
            exact Settles.refl waits
          · rw [same]
            exact part1_settles finished waits atFront
        · have move : Move cfg env (NoFailure cfg i e.ticket) s
              (execute cfg env task.peer s task.stage) := execute_move linked at' guard part1
          have settled := move.settles finished linked.queued waits call
          exact settled

theorem inCall_same (task : t.task = s.task) (pointer : t.txHeadPtr = s.txHeadPtr)
    (calling : t.calling = s.calling) (i : Nat) : inCall t i = inCall s i := by
  simp [inCall, task, pointer, calling]

theorem transmit_calling (cfg : Config) (args : TransmitArgs) (s : State) :
    (transmit cfg args s).1.calling = s.calling := by
  have stores (m : Nat) : (storeData cfg args m s).calling = s.calling := by
    simp only [storeData]
    split <;> rfl
  unfold transmit
  split
  · rfl
  · rename_i m _
    split
    · simp only [acceptData, addTxQueue]
      split
      · rename_i queued added
        split at added
        · cases added
        · rw [← Option.some.inj added]
          exact stores m
      · exact stores m
    · rfl

theorem copyBytes_calling (cfg : Config) (id : Nat) (args : CopyArgs) (c i : Nat)
    (h : Option Nat) (s : State) : (copyBytes cfg id args c i h s).1.calling = s.calling := by
  cases given : args.hasBuffer with
  | true =>
      rw [copyBytes_given h given]
      split
      · split <;> rfl
      · rfl
  | false => simp [copyBytes, given]

theorem copyTxData_calling (cfg : Config) (id : Nat) (args : Option CopyArgs) (s : State) :
    (copyTxData cfg id args s).1.calling = s.calling := by
  unfold copyTxData
  split
  · rfl
  · split
    · rfl
    · simp only
      split
      · rfl
      · exact copyBytes_calling cfg id _ _ _ _ s

theorem tpTxConfirmation_calling (cfg : Config) (k id : Nat) (result : StdReturn) (s : State) :
    (tpTxConfirmation cfg k id result s).calling = s.calling := by
  unfold tpTxConfirmation
  split
  · rfl
  · simp only
    split
    · split
      · split <;> rfl
      · rfl
    · split
      · split <;> rfl
      · rfl

theorem resume_inCall (env : Env) (finished : Finished cfg i e) (linked : Linked cfg s)
    (waits : Waits i e s.toCore) (call : inCall s i = false) :
    inCall (step cfg env s .resume) i = false := by
  simp only [step]
  split
  · exact call
  · rename_i task at'
    obtain ⟨peer, stage, todo⟩ := task
    by_cases here : peer = i
    · subst here
      have quiet := answers_quiet cfg env peer s stage
      cases stage with
      | request =>
          simp only [execute, atHead]
          split
          · rename_i pointer
            simp [inCall, pointer]
          · rename_i h pointer
            obtain ⟨-, rfl⟩ := (linked.task _ at').pointer (by simp) h pointer
            have done : (s.front peer).queueState ≠ .transReady := by
              rw [waits.front, finished.done]
              simp
            simp [inCall, startRequest, front_entry, done]
      | answer | requestImc | answerImc =>
          obtain ⟨-, -, pointer, calling⟩ := quiet (by simp)
          simpa [inCall, at', pointer, calling, Task.advance, Stage.next, Stage.inCall] using call
      | drop => cases todo <;> simp [inCall, Task.advance, Stage.next, Task.begin, Stage.inCall]
      | _ => simp [inCall, Task.advance, Stage.next, Stage.inCall]
    · cases next : stage.next with
      | some stage' => simp [inCall, Task.advance, next, here]
      | none => cases todo <;> simp [inCall, Task.advance, next, Task.begin, Stage.inCall]

theorem step_inCall (env : Env) (finished : Finished cfg i e) (linked : Linked cfg s)
    (waits : Waits i e s.toCore) (call : inCall s i = false) (op : Op) :
    inCall (step cfg env s op) i = false := by
  cases op with
  | transmit args =>
      have steady := transmit_steady cfg args s
      rw [← call]
      exact inCall_same steady.task steady.pointer (transmit_calling cfg args s) i
  | copyTxData id args =>
      have steady := copyTxData_steady cfg id args s
      rw [← call]
      exact inCall_same steady.task steady.pointer (copyTxData_calling cfg id args s) i
  | tpTxConfirmation k id result =>
      have steady := tpTxConfirmation_steady cfg k id result s
      rw [← call]
      exact inCall_same steady.task steady.pointer (tpTxConfirmation_calling cfg k id result s) i
  | cyclicTx =>
      simp only [step]
      split
      · cases servedPeers cfg env s <;> simp [inCall, Task.begin, Stage.inCall]
      · exact call
  | resume => exact resume_inCall env finished linked waits call

def Task.Upcoming (t : Task) (i : Nat) : Prop := t.peer = i ∧ t.stage = .head ∨ i ∈ t.todo

theorem Task.begin_upcoming {peers : List Nat} (member : i ∈ peers) :
    ∃ t, Task.begin peers = some t ∧ t.Upcoming i := by
  cases peers with
  | nil => cases member
  | cons q peers =>
      refine ⟨_, rfl, ?_⟩
      rcases List.mem_cons.mp member with rfl | later
      · exact Or.inl ⟨rfl, rfl⟩
      · exact Or.inr later

theorem Task.Upcoming.advance {task : Task} (upcoming : task.Upcoming i)
    (elsewhere : ¬ (task.peer = i ∧ task.stage = .head)) :
    ∃ t, task.advance = some t ∧ t.Upcoming i := by
  have later := upcoming.resolve_left elsewhere
  unfold Task.advance
  split
  · exact ⟨_, rfl, Or.inr later⟩
  · exact Task.begin_upcoming later

structure Expects (i : Nat) (e : Entry) (s : State) : Prop where
  waits : Waits i e s.toCore
  call : inCall s i = false
  coming : ∃ task, s.task = some task ∧ task.Upcoming i

theorem head_retires (env : Env) (finished : Finished cfg i e) (linked : Linked cfg s)
    (waits : Waits i e s.toCore) {todo : List Nat} (task : s.task = some ⟨i, .head, todo⟩) :
    (step cfg env s .resume).log = s.log ++ [.retired e.ticket] := by
  have done : (s.front i).queueState = .transDone := by rw [waits.front, finished.done]
  simp only [step, task, execute]
  rw [lookAtHead_done (linked.queued.atFront finished.bound waits.filled) done, waits.front]
  rfl

theorem step_expects (finished : Finished cfg i e) (linked : Linked cfg s)
    (expects : Expects i e s) {op : Op} (guard : NoFailure cfg i e.ticket s op) :
    Expects i e (step cfg env s op) ∨ .retired e.ticket ∈ (step cfg env s op).log := by
  obtain ⟨waits, call, task, at', upcoming⟩ := expects
  have settles : Settles cfg i e s.toCore (step cfg env s op).toCore :=
    step_settles finished linked waits call guard
  obtain ⟨new, log, -, fate⟩ := settles
  rcases fate with waits' | ⟨-, retired⟩
  · have call' := step_inCall env finished linked waits call op
    cases op with
    | transmit args =>
        exact Or.inl ⟨waits', call', task, (transmit_steady cfg args s).task.trans at', upcoming⟩
    | copyTxData id args =>
        exact Or.inl ⟨waits', call', task, (copyTxData_steady cfg id args s).task.trans at',
          upcoming⟩
    | tpTxConfirmation k id result =>
        exact Or.inl ⟨waits', call', task,
          (tpTxConfirmation_steady cfg k id result s).task.trans at', upcoming⟩
    | cyclicTx => exact Or.inl ⟨waits', call', task, by simp [step, at'], upcoming⟩
    | resume =>
        by_cases here : task.peer = i ∧ task.stage = .head
        · right
          obtain ⟨peer, stage, todo⟩ := task
          obtain ⟨rfl, rfl⟩ := here
          rw [head_retires env finished linked waits at']
          simp
        · obtain ⟨next, advances, coming⟩ := upcoming.advance here
          exact Or.inl ⟨waits', call', next, by simp [step, at', advances], coming⟩
  · right
    rw [log]
    exact List.mem_append_right _ retired

theorem Waits.not_gone {s : Core} (waits : Waits i e s) (bound : i < cfg.numLlTx) :
    ¬ Gone cfg e.ticket s := by
  intro gone
  have front : e ∈ s.entries i := by
    rw [← waits.front]
    simp [Core.entries, Core.front, Ring.toList_cons _ waits.filled]
  exact (gone i bound).2 e front rfl

theorem step_log (linked : Linked cfg s) (op : Op) :
    ∃ new, (step cfg env s op).log = s.log ++ new := by
  have path : Path cfg env (fun _ _ => True) s (step cfg env s op) := step_path linked op trivial
  apply path.invariant (fun t => ∃ new, t.log = s.log ++ new) ?_ ⟨[], (List.append_nil _).symm⟩
  rintro u v move ⟨new, log⟩
  obtain ⟨more, log', -⟩ := move.revives 0
  exact ⟨new ++ more, by rw [log', log, List.append_assoc]⟩

theorem run_logs (linked : Linked cfg s) (ops : List Op) {event : Event}
    (member : event ∈ s.log) : event ∈ (run (step cfg env) s ops).log := by
  induction ops generalizing s with
  | nil => exact member
  | cons op ops ih =>
      obtain ⟨new, log⟩ : ∃ new, (step cfg env s op).log = s.log ++ new := step_log linked op
      apply ih (step_linked linked op)
      rw [log]
      exact List.mem_append_left _ member

theorem run_staysGone (linked : Linked cfg s) (gone : Gone cfg k s.toCore) (ops : List Op) :
    StaysGone cfg k s.toCore (run (step cfg env) s ops).toCore := by
  induction ops generalizing s with
  | nil => exact ⟨[], (List.append_nil _).symm, by simp, gone⟩
  | cons op ops ih =>
      have path : Path cfg env (fun _ _ => True) s (step cfg env s op) :=
        step_path linked op trivial
      have first := path.staysGone gone
      obtain ⟨_, _, _, gone'⟩ := path.staysGone gone
      exact first.trans (ih (step_linked linked op) gone')

theorem run_settles (finished : Finished cfg i e) (linked : Linked cfg s)
    (waits : Waits i e s.toCore) (call : inCall s i = false) {ops : List Op}
    (guard : Guarded (step cfg env) (NoFailure cfg i e.ticket) s ops) :
    Settles cfg i e s.toCore (run (step cfg env) s ops).toCore ∧
      (Waits i e (run (step cfg env) s ops).toCore →
        inCall (run (step cfg env) s ops) i = false) := by
  induction ops generalizing s with
  | nil => exact ⟨Settles.refl waits, fun _ => call⟩
  | cons op ops ih =>
      have first : Settles cfg i e s.toCore (step cfg env s op).toCore :=
        step_settles finished linked waits call guard.1
      have linked' : Linked cfg (step cfg env s op) := step_linked linked op
      have call' := step_inCall env finished linked waits call op
      rw [run_cons]
      refine ⟨first.trans ?_ ?_, ?_⟩
      · intro waits'
        exact (ih linked' waits' call' guard.2).1
      · intro gone
        exact run_staysGone linked' gone ops
      · intro kept
        obtain ⟨_, _, _, waits' | ⟨gone, _⟩⟩ := first
        · exact (ih linked' waits' call' guard.2).2 kept
        · -- an entry that is gone does not wait again
          have stays : StaysGone cfg _ (step cfg env s op).toCore
              (run (step cfg env) (step cfg env s op) ops).toCore := run_staysGone linked' gone ops
          obtain ⟨_, _, _, gone'⟩ := stays
          exact absurd gone' (kept.not_gone finished.bound)

theorem run_expects (finished : Finished cfg i e) (linked : Linked cfg s)
    (expects : Expects i e s) {ops : List Op}
    (guard : Guarded (step cfg env) (NoFailure cfg i e.ticket) s ops) :
    Expects i e (run (step cfg env) s ops) ∨
      .retired e.ticket ∈ (run (step cfg env) s ops).log := by
  induction ops generalizing s with
  | nil => exact Or.inl expects
  | cons op ops ih =>
      rw [run_cons]
      rcases step_expects finished linked expects guard.1 with expects' | retired
      · exact ih (step_linked linked op) expects' guard.2
      · exact Or.inr (run_logs (step_linked linked op) ops retired)

/-- The positive confirmation for channel `c` and peer `i` comes in time: the transmission is
under way or already marked as done, the call of the lower layer has returned and its result
has been taken over, and the head has not failed too often yet. -/
structure InTime (cfg : Config) (c i : Nat) (s : State) : Prop where
  progress : (s.chTxInfo c i).txInProgress = true ∨ (s.front i).queueState = .transDone
  returned : inCall s i = false
  few : (s.front i).errCounter < cfg.maxRetryCount

theorem confirm_waits (env : Env) {c id : Nat} (k : Nat)
    (found : findByLLPdu cfg id cfg.lowerTxCbPdu cfg.numLlTx = some (c, i))
    (filled : (s.queue i).isEmpty = false) (inTime : InTime cfg c i s) :
    Waits i { s.front i with queueState := .transDone }
        (step cfg env s (.tpTxConfirmation k id .ok)).toCore ∧
      inCall (step cfg env s (.tpTxConfirmation k id .ok)) i = false := by
  have steady := tpTxConfirmation_steady cfg k id .ok s
  constructor
  · refine ⟨(steady.head i filled).1, ?_⟩
    simp only [step, tpTxConfirmation, found]
    rw [getTxQueueHead_filled (s := s.emit _) filled]
    simp only [if_true]
    split
    · simp [Core.front, Ring.front, State.entry]
    · rename_i idle
      have done := inTime.progress.resolve_left idle
      change s.front i = _
      rw [← done]
  · rw [← inTime.returned]
    exact inCall_same steady.task steady.pointer (tpTxConfirmation_calling cfg k id .ok s) i

/-- In every run, a positive confirmation that comes in time is never lost as long as no
negative one for the same request is heeded after it: from then on the head is neither sent
again nor given up, it stays as it is until it is retired, and a call of the cyclic function
that serves its peer has retired it when it is over. -/
theorem confirmations_kept (cfg : Config) (env : Env) (s₀ : State) (before : List Op)
    (k id c i : Nat) :
    let s := run (step cfg env) (start cfg s₀) before
    let head := { s.front i with queueState := .transDone }
    let t := step cfg env s (.tpTxConfirmation k id .ok)
    findByLLPdu cfg id cfg.lowerTxCbPdu cfg.numLlTx = some (c, i) →
    (s.queue i).isEmpty = false → InTime cfg c i s →
    ∀ later, Guarded (step cfg env) (NoFailure cfg i head.ticket) t later →
      Settles cfg i head t.toCore (run (step cfg env) t later).toCore ∧
      ∀ a b, later = a ++ .cyclicTx :: b → (run (step cfg env) t a).task = none →
        i ∈ servedPeers cfg env (run (step cfg env) t a) →
        (run (step cfg env) t later).task = none →
        .retired head.ticket ∈ (run (step cfg env) t later).log := by
  intro s head t found filled inTime later guard
  have linked : Linked cfg s := run_linked (start_linked s₀) before
  have linked' : Linked cfg t := step_linked linked _
  have finished : Finished cfg i head := ⟨(findByLLPdu_bounds found).2.1, rfl, inTime.few⟩
  obtain ⟨waits, call⟩ := confirm_waits env k found filled inTime
  refine ⟨(run_settles finished linked' waits call guard).1, ?_⟩
  rintro a b rfl idle member ended
  obtain ⟨early, cyclic, late⟩ := (guarded_append _ _ _ _ _).mp guard
  obtain ⟨⟨new, log, -, fate⟩, call'⟩ := run_settles finished linked' waits call early
  have linked'' : Linked cfg (run (step cfg env) t a) := run_linked linked' a
  rw [run_append] at ended ⊢
  generalize run (step cfg env) t a = u at *
  rcases fate with waits' | ⟨-, retired⟩
  · obtain ⟨task, begins, coming⟩ := Task.begin_upcoming member
    have expects : Expects i head (step cfg env u .cyclicTx) := by
      refine ⟨?_, step_inCall env finished linked'' waits' (call' waits') .cyclicTx, task, ?_,
        coming⟩
      · simpa [step, idle] using waits'
      · simpa [step, idle] using begins
    rcases run_expects finished (step_linked linked'' _) expects late with still | retired
    · obtain ⟨task', at', -⟩ := still.coming
      rw [run_cons, at'] at ended
      cases ended
    · exact retired
  · apply run_logs linked''
    rw [log]
    exact List.mem_append_right _ retired

theorem confirmations_kept_sent :
    let cfg := sampleConfig .masterMcu
    let s := run (step cfg promptEnv) (start cfg blank) sentRun
    let t := step cfg promptEnv s (.tpTxConfirmation 0 0 .ok)
    Settles cfg 0 { s.front 0 with queueState := .transDone } t.toCore
        (run (step cfg promptEnv) t sampleCycle).toCore ∧
      .retired 0 ∈ (run (step cfg promptEnv) t sampleCycle).log := by
  intro cfg s t
  have kept := confirmations_kept cfg promptEnv blank sentRun 0 0 0 0 (by decide) (by decide)
    ⟨by decide, by decide, by decide⟩ sampleCycle (by decide +kernel)
  have ticket : (s.front 0).ticket = 0 := by decide
  have retired := kept.2 [] (List.replicate 27 .resume) rfl (by decide) (by decide)
    (by decide)
  exact ⟨kept.1, ticket ▸ retired⟩

def earlyRun : List Op :=
  .transmit (sampleRequest 0 0x10 4) :: .cyclicTx :: List.replicate 4 .resume

theorem early_confirmation_lost :
    let cfg := sampleConfig .masterMcu
    let s := run (step cfg promptEnv) (start cfg blank) earlyRun
    let t := step cfg promptEnv s (.tpTxConfirmation 0 0 .ok)
    let later := List.replicate 23 .resume ++ sampleCycle ++ sampleCycle ++ sampleCycle
    (s.chTxInfo 0 0).txInProgress = true ∧ (s.front 0).ticket = 0 ∧ inCall s 0 = true ∧
      (t.front 0).queueState = .transDone ∧
      .dropped 0 ∈ (run (step cfg promptEnv) t later).log ∧
      .retired 0 ∉ (run (step cfg promptEnv) t later).log := by
  decide +kernel

end AnchorNode.AnchorCom.Tx
