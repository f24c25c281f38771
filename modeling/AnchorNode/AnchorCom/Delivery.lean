import AnchorNode.AnchorCom.RxTexts

/-! Delivery to the application: in the order of arrival, at most once, with the bytes of
the message, and with a reason for every message that is not delivered. -/

namespace AnchorNode.AnchorCom.Rx

open AnchorNode.Lib

variable {cfg : Config} {env : Env} {s t : State} {j : Job}

def Event.delivery (i : Nat) : Event → Option Nat
  | .delivered k peer _ _ => if peer = i then some k else none
  | _ => none

def Event.arrival (i : Nat) : Event → Option Nat
  | .arrived k _ peer _ => if peer = i then some k else none
  | _ => none

def deliveredTo (i : Nat) (log : List Event) : List Nat := log.filterMap (Event.delivery i)

/-- The complete messages of peer `i`, in the order of their arrival. -/
def arrivedFrom (i : Nat) (log : List Event) : List Nat := log.filterMap (Event.arrival i)

def State.tickets (s : State) (i : Nat) : List Nat := (s.entries i).map Entry.ticket

@[simp] theorem deliveredTo_append (i : Nat) (front back : List Event) :
    deliveredTo i (front ++ back) = deliveredTo i front ++ deliveredTo i back :=
  List.filterMap_append

@[simp] theorem arrivedFrom_append (i : Nat) (front back : List Event) :
    arrivedFrom i (front ++ back) = arrivedFrom i front ++ arrivedFrom i back :=
  List.filterMap_append

theorem arrivedFrom_work {events : List Event} {ticket peer : Nat}
    (work : ∀ e ∈ events, e.isWork ticket peer = true) (i : Nat) : arrivedFrom i events = [] := by
  apply List.filterMap_eq_nil_iff.mpr
  intro e member
  have this := work e member
  cases e with
  | arrived => cases this
  | _ => rfl

section Process

structure Undelivered (j j' : Job) : Prop where
  delivered : ∀ i, deliveredTo i j'.log = deliveredTo i j.log
  state : j.entry.queueState ≠ .processDone → j'.entry.queueState ≠ .processDone

theorem failure_state (running : RxQueueState) (result : Result) (e : Entry)
    (unfinished : running ≠ .processDone) (before : e.queueState ≠ .processDone) :
    (failure cfg running result e).queueState ≠ .processDone := by
  cases result with
  | pending => exact unfinished
  | _ => exact before

theorem rxPrepare_state (unfinished : j.entry.queueState ≠ .processDone) :
    (rxPrepare cfg env j).entry.queueState ≠ .processDone := by
  unfold rxPrepare
  by_cases queued : j.entry.queueState = .queued
  · rw [if_pos queued]
    unfold rxFormatForCmac
    simp only
    split
    · split
      · simp
      · split <;> simp [Job.setEntry, queued]
    · simp [Job.setEntry, queued]
  · rw [if_neg queued]
    exact unfinished

theorem rxPart1_undelivered (cfg : Config) (env : Env) (j : Job) :
    Undelivered j (rxPart1 cfg env j) := by
  have log := rxPrepare_log cfg env j
  unfold rxPart1
  simp only
  split
  · rename_i ready
    split
    · constructor
      · intro i
        simp [rxStartCmac, Job.emit, Job.setEntry, log, deliveredTo, Event.delivery]
      · intro _
        simp only [Job.setEntry]
        split <;> simp
    · constructor
      · intro i
        simp [rxStartCmac, Job.emit, Job.setEntry, log, deliveredTo, Event.delivery]
      · intro unfinished
        exact failure_state _ _ _ (by simp) (rxPrepare_state unfinished)
  · exact ⟨fun i => by rw [log], rxPrepare_state⟩

theorem rxPart2_undelivered (cfg : Config) (env : Env) (j : Job) :
    Undelivered j (rxPart2 cfg env j) := by
  unfold rxPart2
  simp only
  split
  · rename_i ready
    split
    · constructor
      · intro i
        simp [rxStartDecryption, Job.emit, Job.setEntry, deliveredTo, Event.delivery]
      · intro _
        simp [Job.setEntry]
    · constructor
      · intro i
        simp [rxStartDecryption, Job.emit, Job.setEntry, deliveredTo, Event.delivery]
      · intro unfinished
        exact failure_state _ _ _ (by simp) unfinished
  · exact ⟨fun i => rfl, id⟩

theorem rxPart3_delivers (cfg : Config) (unfinished : j.entry.queueState ≠ .processDone) (i : Nat) :
    deliveredTo i (rxPart3 cfg j).log = deliveredTo i j.log ++
      if (rxPart3 cfg j).entry.queueState = .processDone ∧ j.entry.anchorId = i
        then [j.entry.ticket] else [] := by
  unfold rxPart3
  by_cases ready : j.entry.queueState = .processReady
  · unfold rxDistributeMsg
    simp only [ready, if_true]
    split
    · by_cases here : j.entry.anchorId = i
      · simp [Job.emit, Job.setEntry, deliveredTo, Event.delivery, here]
      · simp [Job.emit, Job.setEntry, deliveredTo, Event.delivery, here]
    · simp [Job.setEntry, ready]
  · simp [ready, unfinished]

theorem process_delivers (cfg : Config) (env : Env)
    (unfinished : j.entry.queueState ≠ .processDone) (i : Nat) :
    deliveredTo i (process cfg env j).log = deliveredTo i j.log ++
      if (process cfg env j).entry.queueState = .processDone ∧ j.entry.anchorId = i
        then [j.entry.ticket] else [] := by
  have first := rxPart1_undelivered cfg env j
  have second := rxPart2_undelivered cfg env (rxPart1 cfg env j)
  have third := rxPart3_delivers cfg (second.state (first.state unfinished)) i
  obtain ⟨key, _⟩ := (rxPart1_extends cfg env j).trans (rxPart2_extends cfg env _)
  obtain ⟨_, anchor, _, ticket⟩ := Entry.key_eq key
  rw [second.delivered, first.delivered, anchor, ticket] at third
  exact third

theorem process_arrivals (cfg : Config) (env : Env) (j : Job) (i : Nat) :
    arrivedFrom i (process cfg env j).log = arrivedFrom i j.log := by
  obtain ⟨_, events, log, work⟩ := process_extends cfg env j
  rw [log, arrivedFrom_append, arrivedFrom_work work, List.append_nil]

end Process

def Unfinished (cfg : Config) (s : State) : Prop :=
  ∀ i < cfg.numLlRx, ∀ e ∈ s.entries i, e.queueState ≠ .processDone

def Ordered (cfg : Config) (s : State) : Prop :=
  ∀ i < cfg.numLlRx, (deliveredTo i s.log ++ s.tickets i).Sublist (arrivedFrom i s.log)

theorem front_mem {q : Nat} (filled : (s.queue q).isEmpty = false) : s.front q ∈ s.entries q := by
  rw [entries_front s filled]
  simp

theorem Move.unfinished (move : Move cfg env s t) (unfinished : Unfinished cfg s) :
    Unfinished cfg t := by
  intro i peer e member
  have before := unfinished i peer
  cases move with
  | quiet events data queue next noise log =>
      rw [State.entries, queue] at member
      exact before e member
  | unbuffered => exact before e member
  | unqueued => exact before e member
  | queued id c k temp channel _ long free room =>
      by_cases here : i = k
      · subst here
        simp only [State.entries, State.setQueue_queue, Function.update_self,
          Ring.push_toList _ _ room, List.mem_append, List.mem_singleton] at member
        rcases member with old | rfl
        · exact before e old
        · simp [newEntry]
      · simp only [State.entries, State.setQueue_queue, Function.update_of_ne here] at member
        exact before e member
  | worked q _ filled own stays =>
      by_cases here : i = q
      · subst here
        simp only [State.entries, State.setQueue_queue, Function.update_self, State.setData_queue,
          Ring.set_front_toList _ _ filled, List.mem_cons] at member
        rcases member with rfl | later
        · intro done
          simp [Rx.finished, done] at stays
        · exact before e (by rw [entries_front s filled]; simp [later])
      · simp only [State.entries, State.setQueue_queue, Function.update_of_ne here] at member
        exact before e member
  | finished q _ filled own leaves =>
      by_cases here : i = q
      · subst here
        simp only [State.entries, State.setQueue_queue, Function.update_self, State.setData_queue,
          set_pop_toList _ _ filled] at member
        exact before e (by rw [entries_front s filled]; simp [member])
      · simp only [State.entries, State.setQueue_queue, Function.update_of_ne here] at member
        exact before e member

theorem headJob_delivers (env : Env) (own : Owned cfg s) (unfinished : Unfinished cfg s) {q : Nat}
    (peer : q < cfg.numLlRx) (filled : (s.queue q).isEmpty = false) (i : Nat) :
    deliveredTo i (headJob cfg env s q).log = deliveredTo i s.log ++
      if (headJob cfg env s q).entry.queueState = .processDone ∧ q = i
        then [(s.front q).ticket] else [] := by
  have anchor := (own q peer (s.front q) (front_mem filled)).1
  have work := process_delivers cfg env (j := ⟨s.front q, (s.dataOf (s.front q)).rxBuffer, s.log⟩)
    (unfinished q peer _ (front_mem filled)) i
  simp only [anchor] at work
  exact work

theorem headJob_arrivals (cfg : Config) (env : Env) (s : State) (q i : Nat) :
    arrivedFrom i (headJob cfg env s q).log = arrivedFrom i s.log :=
  process_arrivals cfg env _ i

theorem Move.ordered (move : Move cfg env s t) (own : Owned cfg s) (unfinished : Unfinished cfg s)
    (ordered : Ordered cfg s) : Ordered cfg t := by
  intro i peer
  have before := ordered i peer
  cases move with
  | quiet events data queue next noise log =>
      have silent : deliveredTo i events = [] ∧ arrivedFrom i events = [] := by
        constructor
        · apply List.filterMap_eq_nil_iff.mpr
          intro e member
          obtain ⟨_, _, _, rfl⟩ := noise e member
          rfl
        · apply List.filterMap_eq_nil_iff.mpr
          intro e member
          obtain ⟨_, _, _, rfl⟩ := noise e member
          rfl
      rw [State.tickets, State.entries, queue, log, deliveredTo_append, arrivedFrom_append,
        silent.1, silent.2, List.append_nil, List.append_nil]
      exact before
  | unbuffered c k channel _ long busy =>
      simp only [deliveredTo_append, arrivedFrom_append]
      have none : deliveredTo i [.arrived s.nextTicket c k (s.message c k),
          .unbuffered s.nextTicket] = [] := rfl
      rw [none, List.append_nil]
      exact before.trans (List.sublist_append_left _ _)
  | unqueued id c k temp channel _ long free full =>
      simp only [deliveredTo_append, arrivedFrom_append]
      have none : deliveredTo i [.arrived s.nextTicket c k (s.message c k),
          .unqueued s.nextTicket] = [] := rfl
      rw [none, List.append_nil]
      exact before.trans (List.sublist_append_left _ _)
  | queued id c k temp channel _ long free room =>
      simp only [deliveredTo_append, arrivedFrom_append]
      have none : deliveredTo i [.arrived s.nextTicket c k (s.message c k)] = [] := rfl
      rw [none, List.append_nil]
      by_cases here : i = k
      · subst here
        have new : arrivedFrom i [.arrived s.nextTicket c i (s.message c i)] = [s.nextTicket] := by
          simp [arrivedFrom, Event.arrival]
        have last : State.tickets { (s.setData temp c i (s.filledData id c i temp true)).setQueue i
            ((s.queue i).push (newEntry s c i temp s.nextTicket (s.chRxInfo c i).rxOffset)) with
            nextTicket := s.nextTicket + 1
            log := s.log ++ [.arrived s.nextTicket c i (s.message c i)] } i =
            s.tickets i ++ [s.nextTicket] := by
          simp [State.tickets, State.entries, Ring.push_toList _ _ room, newEntry]
        rw [new, last, ← List.append_assoc]
        exact before.append (List.Sublist.refl _)
      · simp only [State.tickets, State.entries, State.setQueue_queue, Function.update_of_ne here]
        exact before.trans (List.sublist_append_left _ _)
  | worked q bound filled anchor stays =>
      have undelivered : (headJob cfg env s q).entry.queueState ≠ .processDone := by
        intro done
        simp [Rx.finished, done] at stays
      simp only [headJob_delivers env own unfinished bound filled, headJob_arrivals, undelivered,
        false_and, if_false, List.append_nil]
      by_cases here : i = q
      · subst here
        have ticket := (Entry.key_eq (headJob_key cfg env s i)).2.2.2
        simp only [State.tickets, State.entries, State.setQueue_queue, Function.update_self,
          State.setData_queue, Ring.set_front_toList _ _ filled, List.map_cons, ticket]
        rw [State.tickets, entries_front s filled] at before
        exact before
      · simp only [State.tickets, State.entries, State.setQueue_queue, Function.update_of_ne here]
        exact before
  | finished q bound filled anchor leaves =>
      have removal : deliveredTo i [.removed (s.front q).ticket
          (headJob cfg env s q).entry.errCounter] = [] := rfl
      have arrival : arrivedFrom i [.removed (s.front q).ticket
          (headJob cfg env s q).entry.errCounter] = [] := rfl
      simp only [deliveredTo_append, arrivedFrom_append, removal, arrival, List.append_nil,
        headJob_delivers env own unfinished bound filled, headJob_arrivals]
      by_cases here : i = q
      · subst here
        simp only [State.tickets, State.entries, State.setQueue_queue, Function.update_self,
          State.setData_queue, set_pop_toList _ _ filled, and_true]
        rw [State.tickets, entries_front s filled, List.map_cons] at before
        split
        · rw [List.append_assoc]
          exact before
        · rw [List.append_nil]
          exact ((List.sublist_cons_self _ _).append_left _).trans before
      · have other : ¬ q = i := fun same => here same.symm
        simp only [State.tickets, State.entries, State.setQueue_queue, Function.update_of_ne here,
          other, and_false, if_false, List.append_nil]
        exact before

def Numbered (s : State) : Prop :=
  ∀ i, (arrivedFrom i s.log).Pairwise (· < ·) ∧ ∀ k ∈ arrivedFrom i s.log, k < s.nextTicket

theorem Numbered.kept (numbered : Numbered s)
    (same : ∀ i, arrivedFrom i t.log = arrivedFrom i s.log) (next : t.nextTicket = s.nextTicket) :
    Numbered t := by
  intro i
  rw [same, next]
  exact numbered i

theorem Numbered.arrives (numbered : Numbered s) (next : t.nextTicket = s.nextTicket + 1)
    (more : ∀ i, arrivedFrom i t.log = arrivedFrom i s.log ∨
      arrivedFrom i t.log = arrivedFrom i s.log ++ [s.nextTicket]) : Numbered t := by
  intro i
  obtain ⟨increasing, bounded⟩ := numbered i
  rw [next]
  rcases more i with same | longer
  · rw [same]
    exact ⟨increasing, fun k member => Nat.lt_succ_of_lt (bounded k member)⟩
  · rw [longer]
    constructor
    · rw [List.pairwise_append]
      refine ⟨increasing, List.pairwise_singleton _ _, ?_⟩
      intro k member l last
      rw [List.mem_singleton.mp last]
      exact bounded k member
    · intro k member
      rcases List.mem_append.mp member with old | new
      · exact Nat.lt_succ_of_lt (bounded k old)
      · rw [List.mem_singleton.mp new]
        exact Nat.lt_succ_self _

theorem arrivedFrom_arrival (i k c peer : Nat) (bytes : List UInt8) (events : List Event)
    (silent : arrivedFrom i events = []) :
    arrivedFrom i (.arrived k c peer bytes :: events) = [] ∨
      arrivedFrom i (.arrived k c peer bytes :: events) = [k] := by
  by_cases here : peer = i
  · right
    simpa [arrivedFrom, Event.arrival, here] using silent
  · left
    simpa [arrivedFrom, Event.arrival, here] using silent

theorem Move.numbered (move : Move cfg env s t) (numbered : Numbered s) : Numbered t := by
  have arrives : ∀ (c peer : Nat) (events : List Event), (∀ i, arrivedFrom i events = []) →
      t.nextTicket = s.nextTicket + 1 →
      t.log = s.log ++ .arrived s.nextTicket c peer (s.message c peer) :: events → Numbered t := by
    intro c peer events silent next log
    apply numbered.arrives next
    intro i
    rw [log, arrivedFrom_append]
    rcases arrivedFrom_arrival i s.nextTicket c peer (s.message c peer) events (silent i) with
      none | new
    · left
      rw [none, List.append_nil]
    · right
      rw [new]
  cases move with
  | quiet events data queue next noise log =>
      apply numbered.kept _ next
      intro i
      have silent : arrivedFrom i events = [] := by
        apply List.filterMap_eq_nil_iff.mpr
        intro e member
        obtain ⟨_, _, _, rfl⟩ := noise e member
        rfl
      rw [log, arrivedFrom_append, silent, List.append_nil]
  | unbuffered c i channel peer long busy =>
      exact arrives c i [.unbuffered s.nextTicket] (fun _ => rfl) rfl rfl
  | unqueued id c i temp channel peer long free full =>
      exact arrives c i [.unqueued s.nextTicket] (fun _ => rfl) rfl rfl
  | queued id c i temp channel peer long free room => exact arrives c i [] (fun _ => rfl) rfl rfl
  | worked q peer filled own stays =>
      refine numbered.kept ?_ rfl
      intro i
      exact headJob_arrivals cfg env s q i
  | finished q peer filled own leaves =>
      refine numbered.kept ?_ rfl
      intro i
      have removal : arrivedFrom i [.removed (s.front q).ticket
          (headJob cfg env s q).entry.errCounter] = [] := rfl
      rw [arrivedFrom_append, removal, List.append_nil]
      exact headJob_arrivals cfg env s q i

theorem tickets_nodup (ordered : Ordered cfg s) (numbered : Numbered s) {i : Nat}
    (peer : i < cfg.numLlRx) : (s.tickets i).Nodup := by
  have increasing := (numbered i).1.sublist (ordered i peer)
  have waiting := (List.pairwise_append.mp increasing).2.1
  exact waiting.imp fun less => Nat.ne_of_lt less

def Event.isSilent : Event → Bool
  | .unbuffered _ | .unqueued _ | .removed _ _ | .reportError _ _ _ => true
  | _ => false

theorem silent_texts (cfg : Config) (env : Env) (log : List Event) {events : List Event}
    (silent : ∀ e ∈ events, e.isSilent = true) :
    textsOf (log ++ events) = textsOf log ∧
      (Faithful cfg env log → Faithful cfg env (log ++ events)) := by
  have ignored : ∀ e ∈ events, trackText (textsOf log) e = textsOf log ∧
      ∀ log, textAllowed cfg env log e := by
    intro e member
    have this := silent e member
    cases e with
    | arrived => cases this
    | verified => cases this
    | decrypted => cases this
    | delivered => cases this
    | _ => exact ⟨rfl, fun _ => trivial⟩
  constructor
  · rw [textsOf, List.foldl_append]
    exact foldl_ignored fun e member => (ignored e member).1
  · intro faithful
    exact Recorded.always faithful fun e member => (ignored e member).2

structure Content (cfg : Config) (env : Env) (s : State) : Prop where
  faithful : Faithful cfg env s.log
  unseen : ∀ k, s.nextTicket ≤ k → textsOf s.log k = none
  holds : ∀ i < cfg.numLlRx, ∀ e ∈ s.entries i, ∃ t, textsOf s.log e.ticket = some t ∧
    Holds cfg e (s.dataOf e).rxBuffer t

theorem Content.arrival (content : Content cfg env s) (c i : Nat) (bytes : List UInt8)
    {events : List Event} (silent : ∀ e ∈ events, e.isSilent = true) :
    Faithful cfg env (s.log ++ .arrived s.nextTicket c i bytes :: events) ∧
      textsOf (s.log ++ .arrived s.nextTicket c i bytes :: events) =
        Function.update (textsOf s.log) s.nextTicket (some ⟨i, bytes, body bytes, false⟩) := by
  have split : s.log ++ .arrived s.nextTicket c i bytes :: events =
      (s.log ++ [.arrived s.nextTicket c i bytes]) ++ events := by simp
  obtain ⟨texts, keeps⟩ := silent_texts cfg env
    (s.log ++ [.arrived s.nextTicket c i bytes]) silent
  have fresh : textsOf s.log s.nextTicket = none := content.unseen _ (Nat.le_refl _)
  rw [split]
  refine ⟨keeps (recorded_append.mpr ⟨content.faithful, fresh⟩), ?_⟩
  rw [texts, textsOf_append, trackText]

theorem Content.still (content : Content cfg env s) {i : Nat} (peer : i < cfg.numLlRx) {e : Entry}
    (member : e ∈ s.entries i) (text : textsOf t.log e.ticket = textsOf s.log e.ticket)
    (data : (t.dataOf e).rxBuffer = (s.dataOf e).rxBuffer) :
    ∃ x, textsOf t.log e.ticket = some x ∧ Holds cfg e (t.dataOf e).rxBuffer x := by
  rw [text, data]
  exact content.holds i peer e member

theorem Content.older (content : Content cfg env s) {i : Nat} (peer : i < cfg.numLlRx) {e : Entry}
    (member : e ∈ s.entries i) : e.ticket ≠ s.nextTicket := by
  intro same
  obtain ⟨t, text, _⟩ := content.holds i peer e member
  rw [content.unseen e.ticket (by omega)] at text
  cases text

theorem rest_apart (owned : BuffersOwned cfg s) (own : Owned cfg s) {q : Nat}
    (peer : q < cfg.numLlRx) (filled : (s.queue q).isEmpty = false) {e : Entry}
    (member : e ∈ (s.queue q).pop.toList) :
    refers (s.front q).isTempBuf (s.front q).channel e = false := by
  have channel := (own q peer _ (front_mem filled)).2
  have count := owned q peer _ channel (s.front q).isTempBuf
  have self : refers (s.front q).isTempBuf (s.front q).channel (s.front q) = true := by
    simp [refers]
  rw [references, entries_front s filled, List.countP_cons, self, if_pos rfl] at count
  have none : (s.queue q).pop.toList.countP
      (refers (s.front q).isTempBuf (s.front q).channel) = 0 := by
    split at count <;> omega
  simpa using List.countP_eq_zero.mp none e member

def Behind (s : State) (q i : Nat) (e : Entry) : Prop :=
  e ∈ s.entries i ∧ (i = q → e ∈ (s.queue q).pop.toList)

theorem behind_replaced {q i : Nat} (filled : (s.queue q).isEmpty = false) {e head : Entry}
    (member : e ∈ (Function.update s.queue q ((s.queue q).set (s.queue q).head head) i).toList) :
    Behind s q i e ∨ i = q ∧ e = head := by
  by_cases here : i = q
  · subst here
    rw [Function.update_self, Ring.set_front_toList _ _ filled, List.mem_cons] at member
    rcases member with rfl | later
    · exact Or.inr ⟨rfl, rfl⟩
    · left
      exact ⟨by rw [entries_front s filled]; simp [later], fun _ => later⟩
  · rw [Function.update_of_ne here] at member
    exact Or.inl ⟨member, fun same => absurd same here⟩

theorem behind_removed {q i : Nat} (filled : (s.queue q).isEmpty = false) {e head : Entry}
    (member : e ∈
      (Function.update s.queue q ((s.queue q).set (s.queue q).head head).pop i).toList) :
    Behind s q i e := by
  by_cases here : i = q
  · subst here
    rw [Function.update_self, set_pop_toList _ _ filled] at member
    exact ⟨by rw [entries_front s filled]; simp [member], fun _ => member⟩
  · rw [Function.update_of_ne here] at member
    exact ⟨member, fun same => absurd same here⟩

theorem Behind.elsewhere (owned : BuffersOwned cfg s) (own : Owned cfg s) {q i : Nat}
    (filled : (s.queue q).isEmpty = false) (peer : i < cfg.numLlRx) {e : Entry}
    (behind : Behind s q i e) :
    ¬ (e.isTempBuf = (s.front q).isTempBuf ∧ e.channel = (s.front q).channel ∧
      e.anchorId = q) := by
  rintro ⟨temp, channel, place⟩
  have here : i = q := (own i peer e behind.1).1.symm.trans place
  subst here
  have apart := rest_apart owned own peer filled (behind.2 rfl)
  simp [refers, temp, channel] at apart

theorem Behind.apart (content : Content cfg env s) (owned : BuffersOwned cfg s) (own : Owned cfg s)
    (ordered : Ordered cfg s) (numbered : Numbered s) {q i : Nat} (bound : q < cfg.numLlRx)
    (filled : (s.queue q).isEmpty = false) (peer : i < cfg.numLlRx) {e : Entry}
    (behind : Behind s q i e) :
    e.ticket ≠ (s.front q).ticket ∧ ¬ (e.isTempBuf = (s.front q).isTempBuf ∧
      e.channel = (s.front q).channel ∧ e.anchorId = q) := by
  refine ⟨?_, behind.elsewhere owned own filled peer⟩
  intro same
  by_cases here : i = q
  · subst here
    have nodup := tickets_nodup ordered numbered peer
    rw [State.tickets, entries_front s filled, List.map_cons, List.nodup_cons] at nodup
    exact nodup.1 (same ▸ List.mem_map_of_mem (behind.2 rfl))
  · -- one message has one peer
    obtain ⟨t, text, holds⟩ := content.holds i peer e behind.1
    obtain ⟨u, text', holds'⟩ := content.holds q bound (s.front q) (front_mem filled)
    rw [same, text'] at text
    cases text
    have anchor := (own i peer e behind.1).1
    have front := (own q bound _ (front_mem filled)).1
    exact here (anchor.symm.trans (holds.peer.symm.trans (holds'.peer.trans front)))

theorem headJob_honest (blocks : DecryptsBlocks env) (content : Content cfg env s) {q : Nat}
    (peer : q < cfg.numLlRx) (filled : (s.queue q).isEmpty = false) :
    (headJob cfg env s q).Honest cfg env := by
  obtain ⟨t, text, holds⟩ := content.holds q peer (s.front q) (front_mem filled)
  exact process_honest env blocks ⟨content.faithful, t, text, holds⟩

theorem headJob_texts (cfg : Config) (env : Env) (s : State) (q : Nat) {k : Nat}
    (other : k ≠ (s.front q).ticket) :
    textsOf (headJob cfg env s q).log k = textsOf s.log k := by
  obtain ⟨_, events, log, work⟩ := process_extends cfg env
    ⟨s.front q, (s.dataOf (s.front q)).rxBuffer, s.log⟩
  rw [headJob, log]
  exact textsOf_work work other

theorem newEntry_holds (long : headerLen + appendLen < cfg.minRxDataLen) {c i : Nat}
    (enough : (s.chRxInfo c i).rxOffset ≥ cfg.minRxDataLen) (id : Nat) (temp : Bool) :
    Holds cfg (newEntry s c i temp s.nextTicket (s.chRxInfo c i).rxOffset)
      (s.filledData id c i temp true).rxBuffer ⟨i, s.message c i, body (s.message c i), false⟩ := by
  have length : (s.message c i).length = (s.chRxInfo c i).rxOffset := read_length _ _ _
  have bound := (s.chRxInfo c i).rxOffset_lt
  refine ⟨rfl, ⟨by simp only; omega, by simp only; omega, body_length (by omega)⟩, ?_⟩
  have written : (s.filledData id c i temp true).rxBuffer.read 0 (s.message c i).length =
      s.message c i := read_write_same (s.chRxData temp c i).rxBuffer 0 (s.message c i)
  simp only [Stage, newEntry]
  exact ⟨length.symm, written, trivial, trivial⟩

theorem Content.lost (content : Content cfg env s) {c i : Nat} {event : Event}
    (silent : event.isSilent = true)
    (log : t.log = s.log ++ [.arrived s.nextTicket c i (s.message c i), event])
    (next : t.nextTicket = s.nextTicket + 1) (queue : t.queue = s.queue)
    (data : ∀ i < cfg.numLlRx, ∀ e ∈ s.entries i, (t.dataOf e).rxBuffer = (s.dataOf e).rxBuffer) :
    Content cfg env t := by
  have quiet : ∀ e ∈ [event], e.isSilent = true := by
    intro e member
    rw [List.mem_singleton.mp member]
    exact silent
  obtain ⟨faithful, texts⟩ := content.arrival c i (s.message c i) quiet
  rw [← log] at faithful texts
  refine ⟨faithful, ?_, ?_⟩
  · intro k later
    rw [next] at later
    rw [texts, Function.update_of_ne (by omega)]
    exact content.unseen k (by omega)
  · intro j peer e member
    rw [State.entries, queue] at member
    have text : textsOf t.log e.ticket = textsOf s.log e.ticket := by
      rw [texts, Function.update_of_ne (content.older peer member)]
    exact content.still peer member text (data j peer e member)

theorem free_apart (owned : BuffersOwned cfg s) {c i : Nat} {temp : Bool}
    (channel : c < cfg.tpChMax)
    (peer : i < cfg.numLlRx) (free : freeBuffer s c i = some temp) {e : Entry}
    (member : e ∈ s.entries i) : refers temp c e = false := by
  have zero := owned i peer c channel temp
  rw [freeBuffer_free free, references] at zero
  simpa using List.countP_eq_zero.mp zero e member

theorem setData_still (owned : BuffersOwned cfg s) (own : Owned cfg s) {c i : Nat} {temp : Bool}
    (channel : c < cfg.tpChMax) (bound : i < cfg.numLlRx) (free : freeBuffer s c i = some temp)
    (data : ChRxDataInfo) {k : Nat} (peer : k < cfg.numLlRx) {e : Entry}
    (member : e ∈ s.entries k) : (s.setData temp c i data).dataOf e = s.dataOf e := by
  have anchor := (own k peer e member).1
  rw [State.dataOf, State.dataOf, State.setData_chRxData, if_neg]
  rintro ⟨temps, channels, anchors⟩
  have here : k = i := anchor.symm.trans anchors
  subst here
  have apart := free_apart owned channel bound free member
  simp [refers, temps, channels] at apart

theorem Content.queued (content : Content cfg env s)
    (long : headerLen + appendLen < cfg.minRxDataLen)
    (own : Owned cfg s) (owned : BuffersOwned cfg s) {c i : Nat} {temp : Bool}
    (channel : c < cfg.tpChMax) (bound : i < cfg.numLlRx)
    (enough : (s.chRxInfo c i).rxOffset ≥ cfg.minRxDataLen) (free : freeBuffer s c i = some temp)
    (room : (s.queue i).isFull = false) (id : Nat)
    (log : t.log = s.log ++ [.arrived s.nextTicket c i (s.message c i)])
    (next : t.nextTicket = s.nextTicket + 1)
    (data : t.chRxData = (s.setData temp c i (s.filledData id c i temp true)).chRxData)
    (queue : t.queue = Function.update s.queue i ((s.queue i).push
      (newEntry s c i temp s.nextTicket (s.chRxInfo c i).rxOffset))) : Content cfg env t := by
  obtain ⟨faithful, texts⟩ := content.arrival c i (s.message c i) (List.forall_mem_nil _)
  rw [← log] at faithful texts
  have old : ∀ k < cfg.numLlRx, ∀ e ∈ s.entries k, ∃ x, textsOf t.log e.ticket = some x ∧
      Holds cfg e (t.dataOf e).rxBuffer x := by
    intro k peer e member
    apply content.still peer member
    · rw [texts, Function.update_of_ne (content.older peer member)]
    · have still := setData_still owned own channel bound free (s.filledData id c i temp true)
        peer member
      rw [State.dataOf, data]
      exact congrArg ChRxDataInfo.rxBuffer still
  refine ⟨faithful, ?_, ?_⟩
  · intro k later
    rw [next] at later
    rw [texts, Function.update_of_ne (by omega)]
    exact content.unseen k (by omega)
  · intro k peer e member
    rw [State.entries, queue] at member
    by_cases here : k = i
    · subst here
      rw [Function.update_self, Ring.push_toList _ _ room, List.mem_append,
        List.mem_singleton] at member
      rcases member with before | rfl
      · exact old k peer e before
      · have place : t.dataOf (newEntry s c k temp s.nextTicket (s.chRxInfo c k).rxOffset) =
            s.filledData id c k temp true := by
          rw [State.dataOf, data]
          simp [newEntry]
        refine ⟨⟨k, s.message c k, body (s.message c k), false⟩, ?_, ?_⟩
        · rw [texts]
          simp only [newEntry, Function.update_self]
        · rw [place]
          exact newEntry_holds long enough id temp
    · rw [Function.update_of_ne here] at member
      exact old k peer e member

theorem Content.served (content : Content cfg env s) (blocks : DecryptsBlocks env)
    (own : Owned cfg s) (owned : BuffersOwned cfg s) (ordered : Ordered cfg s)
    (numbered : Numbered s) {q : Nat}
    (bound : q < cfg.numLlRx) (filled : (s.queue q).isEmpty = false) {events : List Event}
    (silent : ∀ e ∈ events, e.isSilent = true)
    (log : t.log = (headJob cfg env s q).log ++ events) (next : t.nextTicket = s.nextTicket)
    (data : ∀ e : Entry, ¬ (e.isTempBuf = (s.front q).isTempBuf ∧
      e.channel = (s.front q).channel ∧ e.anchorId = q) → t.dataOf e = s.dataOf e)
    (entries : ∀ i < cfg.numLlRx, ∀ e ∈ t.entries i, Behind s q i e ∨
      e = (headJob cfg env s q).entry ∧
        (t.dataOf e).rxBuffer = (headJob cfg env s q).buffer) : Content cfg env t := by
  obtain ⟨faithful, x, text, holds⟩ := headJob_honest blocks content bound filled
  obtain ⟨texts, keeps⟩ := silent_texts cfg env (headJob cfg env s q).log silent
  rw [← log] at texts keeps
  refine ⟨keeps faithful, ?_, ?_⟩
  · intro k later
    rw [next] at later
    have other : k ≠ (s.front q).ticket := by
      intro same
      obtain ⟨u, seen, _⟩ := content.holds q bound _ (front_mem filled)
      rw [← same, content.unseen k later] at seen
      cases seen
    rw [texts, headJob_texts cfg env s q other]
    exact content.unseen k later
  · intro i peer e member
    rcases entries i peer e member with behind | ⟨rfl, buffer⟩
    · obtain ⟨other, apart⟩ := behind.apart content owned own ordered numbered bound filled peer
      apply content.still peer behind.1
      · rw [texts, headJob_texts cfg env s q other]
      · rw [data e apart]
    · rw [texts, buffer]
      exact ⟨x, text, holds⟩

theorem Move.content (move : Move cfg env s t) (blocks : DecryptsBlocks env)
    (long : headerLen + appendLen < cfg.minRxDataLen) (own : Owned cfg s)
    (owned : BuffersOwned cfg s) (ordered : Ordered cfg s) (numbered : Numbered s)
    (content : Content cfg env s) : Content cfg env t := by
  cases move with
  | quiet events data queue next noise log =>
      have silent : ∀ e ∈ events, e.isSilent = true := by
        intro e member
        obtain ⟨_, _, _, rfl⟩ := noise e member
        rfl
      obtain ⟨texts, keeps⟩ := silent_texts cfg env s.log silent
      rw [← log] at texts keeps
      refine ⟨keeps content.faithful, ?_, ?_⟩
      · intro k later
        rw [texts]
        exact content.unseen k (next ▸ later)
      · intro i peer e member
        rw [State.entries, queue] at member
        exact content.still peer member (by rw [texts]) (by rw [State.dataOf, data]; rfl)
  | unbuffered c i channel peer enough busy => exact content.lost rfl rfl rfl rfl fun _ _ _ _ => rfl
  | unqueued id c i temp channel bound enough free full =>
      refine content.lost rfl rfl rfl rfl ?_
      intro k peer e member
      have still := setData_still owned own channel bound free (s.filledData id c i temp false)
        peer member
      exact congrArg ChRxDataInfo.rxBuffer still
  | queued id c i temp channel bound enough free room =>
      exact content.queued long own owned channel bound enough free room id rfl rfl rfl rfl
  | worked q bound filled anchor stays =>
      obtain ⟨channels, anchors, temps, _⟩ := Entry.key_eq (headJob_key cfg env s q)
      refine content.served blocks own owned ordered numbered bound filled
        (List.forall_mem_nil _) (List.append_nil _).symm rfl ?_ ?_
      · intro e apart
        simp [State.dataOf, apart]
      · intro i peer e member
        rcases behind_replaced filled member with behind | ⟨rfl, rfl⟩
        · exact Or.inl behind
        · right
          simp [State.dataOf, channels, anchors, temps, anchor]
  | finished q bound filled anchor leaves =>
      have silent : ∀ e ∈ [Event.removed (s.front q).ticket
          (headJob cfg env s q).entry.errCounter], e.isSilent = true := by
        intro e member
        rw [List.mem_singleton.mp member]
        rfl
      refine content.served blocks own owned ordered numbered bound filled silent rfl rfl ?_ ?_
      · intro e apart
        simp [State.dataOf, apart]
      · intro i peer e member
        exact Or.inl (behind_removed filled member)

/-- Every message that has arrived is delivered, waits, found no buffer or failed too often. -/
def Accounted (cfg : Config) (s : State) : Prop :=
  ∀ k c i bytes, Event.arrived k c i bytes ∈ s.log →
    k ∈ deliveredTo i s.log ∨ k ∈ s.tickets i ∨ Event.unbuffered k ∈ s.log ∨
      ∃ n ≥ cfg.maxRetryCount, Event.removed k n ∈ s.log

theorem headJob_log (cfg : Config) (env : Env) (s : State) (q : Nat) :
    ∃ events, (headJob cfg env s q).log = s.log ++ events ∧
      ∀ e ∈ events, e.isWork (s.front q).ticket (s.front q).anchorId = true := by
  obtain ⟨_, events, log, work⟩ := process_extends cfg env
    ⟨s.front q, (s.dataOf (s.front q)).rxBuffer, s.log⟩
  exact ⟨events, log, work⟩

theorem mem_deliveredTo_append {i k : Nat} {front : List Event} (back : List Event)
    (member : k ∈ deliveredTo i front) : k ∈ deliveredTo i (front ++ back) := by
  rw [deliveredTo_append]
  exact List.mem_append_left _ member

theorem Accounted.later (accounted : Accounted cfg s) {events : List Event}
    (log : t.log = s.log ++ events)
    (tickets : ∀ i k, k ∈ s.tickets i → k ∈ deliveredTo i t.log ∨ k ∈ t.tickets i ∨
      ∃ n ≥ cfg.maxRetryCount, Event.removed k n ∈ t.log)
    (new : ∀ k c i bytes, Event.arrived k c i bytes ∈ events →
      k ∈ t.tickets i ∨ Event.unbuffered k ∈ t.log) : Accounted cfg t := by
  intro k c i bytes member
  rw [log] at member
  rcases List.mem_append.mp member with old | fresh
  · rcases accounted k c i bytes old with delivered | waits | unbuffered | ⟨n, many, removed⟩
    · left
      rw [log]
      exact mem_deliveredTo_append events delivered
    · rcases tickets i k waits with delivered | still | removed
      · exact Or.inl delivered
      · exact Or.inr (Or.inl still)
      · exact Or.inr (Or.inr (Or.inr removed))
    · right; right; left
      rw [log]
      exact List.mem_append_left _ unbuffered
    · right; right; right
      rw [log]
      exact ⟨n, many, List.mem_append_left _ removed⟩
  · rcases new k c i bytes fresh with waits | unbuffered
    · exact Or.inr (Or.inl waits)
    · exact Or.inr (Or.inr (Or.inl unbuffered))

theorem Move.accounted (move : Move cfg env s t) (slots : 2 * cfg.tpChMax < queueSize)
    (own : Owned cfg s) (owned : BuffersOwned cfg s) (unfinished : Unfinished cfg s)
    (accounted : Accounted cfg s) : Accounted cfg t := by
  cases move with
  | quiet events data queue next noise log =>
      refine accounted.later log ?_ ?_
      · intro i k waits
        right; left
        rw [State.tickets, State.entries, queue]
        exact waits
      · intro k c i bytes member
        obtain ⟨_, _, _, same⟩ := noise _ member
        cases same
  | unbuffered c i channel peer long busy =>
      refine accounted.later rfl ?_ ?_
      · intro i k waits
        exact Or.inr (Or.inl waits)
      · intro k c' i' bytes member
        right
        simp only [List.mem_cons, Event.arrived.injEq, reduceCtorEq, List.not_mem_nil,
          or_false] at member
        rw [member.1]
        simp
  | unqueued id c i temp channel peer long free full =>
      rw [room_left own owned slots peer] at full
      cases full
  | queued id c j temp channel peer long free room =>
      refine accounted.later rfl ?_ ?_
      · intro i k waits
        right; left
        by_cases here : i = j
        · subst here
          simp only [State.tickets, State.entries, State.setQueue_queue, Function.update_self,
            Ring.push_toList _ _ room, List.map_append, List.mem_append]
          exact Or.inl waits
        · simp only [State.tickets, State.entries, State.setQueue_queue, Function.update_of_ne here]
          exact waits
      · intro k c' i' bytes member
        simp only [List.mem_singleton, Event.arrived.injEq] at member
        obtain ⟨rfl, _, rfl, _⟩ := member
        left
        simp [State.tickets, State.entries, Ring.push_toList _ _ room, newEntry]
  | worked q bound filled anchor stays =>
      obtain ⟨events, log, work⟩ := headJob_log cfg env s q
      refine accounted.later log ?_ ?_
      · intro i k waits
        right; left
        by_cases here : i = q
        · subst here
          have ticket := (Entry.key_eq (headJob_key cfg env s i)).2.2.2
          simp only [State.tickets, State.entries, State.setQueue_queue, Function.update_self,
            State.setData_queue, Ring.set_front_toList _ _ filled, List.map_cons, ticket]
          rw [State.tickets, entries_front s filled] at waits
          exact waits
        · simp only [State.tickets, State.entries, State.setQueue_queue, Function.update_of_ne here]
          exact waits
      · intro k c i bytes member
        cases work _ member
  | finished q bound filled anchor leaves =>
      obtain ⟨events, log, work⟩ := headJob_log cfg env s q
      have delivered := headJob_delivers env own unfinished bound filled q
      have longer : (headJob cfg env s q).log ++ [.removed (s.front q).ticket
          (headJob cfg env s q).entry.errCounter] = s.log ++ (events ++
          [.removed (s.front q).ticket (headJob cfg env s q).entry.errCounter]) := by
        rw [log, List.append_assoc]
      refine accounted.later longer ?_ ?_
      · intro i k waits
        by_cases here : i = q
        · subst here
          rw [State.tickets, entries_front s filled, List.map_cons, List.mem_cons] at waits
          rcases waits with rfl | later
          · by_cases done : (headJob cfg env s i).entry.queueState = .processDone
            · left
              rw [if_pos ⟨done, rfl⟩] at delivered
              simp only [deliveredTo_append, delivered]
              simp
            · right; right
              have many : (headJob cfg env s i).entry.errCounter ≥ cfg.maxRetryCount := by
                simpa [Rx.finished, done] using leaves
              exact ⟨_, many, by simp⟩
          · right; left
            simp only [State.tickets, State.entries, State.setQueue_queue, Function.update_self,
              State.setData_queue, set_pop_toList _ _ filled]
            exact later
        · right; left
          simp only [State.tickets, State.entries, State.setQueue_queue, Function.update_of_ne here]
          exact waits
      · intro k c i bytes member
        rcases List.mem_append.mp member with worked | removed
        · cases work _ worked
        · cases List.mem_singleton.mp removed

theorem servePeer_unbuffered {q k : Nat}
    (member : Event.unbuffered k ∈ (servePeer cfg env s q).log) :
    Event.unbuffered k ∈ s.log := by
  have worked : Event.unbuffered k ∈ (workHead cfg env q s).log → Event.unbuffered k ∈ s.log := by
    intro member
    obtain ⟨events, log, work⟩ := headJob_log cfg env s q
    have member : Event.unbuffered k ∈ (headJob cfg env s q).log := member
    rw [log] at member
    rcases List.mem_append.mp member with old | new
    · exact old
    · cases work _ new
  unfold servePeer at member
  split at member
  · exact member
  · unfold finish removeRxQueueHead at member
    simp only at member
    split at member
    · split at member
      · exact worked (by simpa using member)
      · exact worked (by simpa using member)
    · exact worked member

theorem servePeers_unbuffered {peers : List Nat} {k : Nat}
    (member : Event.unbuffered k ∈ (peers.foldl (servePeer cfg env) s).log) :
    Event.unbuffered k ∈ s.log := by
  induction peers generalizing s with
  | nil => exact member
  | cons q peers ih => exact servePeer_unbuffered (ih member)

theorem step_unbuffered {op : Op} {k : Nat}
    (member : Event.unbuffered k ∈ (step cfg env s op).log) :
    Event.unbuffered k ∈ s.log ∨ ∃ c i, (∀ temp, (s.chRxData temp c i).needVerify = true) ∧
      Event.arrived k c i (s.message c i) ∈ (step cfg env s op).log := by
  cases op with
  | cyclicRx =>
      left
      simp only [step, cyclicRx] at member
      split at member
      · exact member
      · exact servePeers_unbuffered member
  | startOfReception id tpSduLength =>
      left
      simp only [step, startOfReception] at member
      split at member
      · simpa using member
      · split at member
        · exact member
        · exact member
  | copyRxData id info =>
      left
      simp only [step, copyRxData] at member
      split at member
      · simpa using member
      · simpa using member
      · split at member
        · exact member
        · split at member
          · exact member
          · exact member
  | tpRxIndication id result =>
      simp only [step, tpRxIndication] at member ⊢
      split at member
      · exact Or.inl (by simpa using member)
      · rename_i c i found
        split at member
        · rename_i complete
          rw [if_pos complete]
          cases free : freeBuffer s c i with
          | none =>
              have busy : freeBuffer { s.emit (.arrived s.nextTicket c i
                ((s.chRxInfo c i).rxBuffer.read 0 (s.chRxInfo c i).rxOffset)) with
                nextTicket := s.nextTicket + 1 } c i = none := free
              simp only [busy] at member ⊢
              simp only [State.emit_log, List.mem_append, List.mem_singleton, reduceCtorEq,
                or_false, Event.unbuffered.injEq] at member
              rcases member with old | rfl
              · exact Or.inl old
              · right
                exact ⟨c, i, freeBuffer_none free, by simp [State.message]⟩
          | some temp =>
              left
              have taken : freeBuffer { s.emit (.arrived s.nextTicket c i
                ((s.chRxInfo c i).rxBuffer.read 0 (s.chRxInfo c i).rxOffset)) with
                nextTicket := s.nextTicket + 1 } c i = some temp := free
              simp only [taken, takeMessage, addRxQueue] at member
              split at member
              · rename_i room
                split at room
                · cases room
                · cases room
                  simpa using member
              · simpa using member
        · exact Or.inl member

/-- For every run and every peer: messages are delivered in the order of their arrival and at
most once; each one with the PDU and the payload it arrived with, decrypted from there; one
that is not delivered waits in the queue, found both buffers of its channel busy, or failed
until the retry limit. The hypotheses are on the generated configuration and the cipher: the
queue has more slots than there are buffers, a message holds at least one byte of data, and
only whole blocks are decrypted. -/
theorem delivery_in_order (cfg : Config) (env : Env) (s₀ : State) (ops : List Op)
    (slots : 2 * cfg.tpChMax < queueSize) (long : headerLen + appendLen < cfg.minRxDataLen)
    (blocks : DecryptsBlocks env) :
    let s := run (step cfg env) (start cfg s₀) ops
    (∀ i < cfg.numLlRx, (deliveredTo i s.log).Sublist (arrivedFrom i s.log) ∧
      (arrivedFrom i s.log).Nodup) ∧
    Faithful cfg env s.log ∧ Accounted cfg s ∧
    ∀ op k, Event.unbuffered k ∈ (step cfg env s op).log →
      Event.unbuffered k ∈ s.log ∨ ∃ c i, (∀ temp, (s.chRxData temp c i).needVerify = true) ∧
        Event.arrived k c i (s.message c i) ∈ (step cfg env s op).log := by
  intro s
  obtain ⟨owned, unfinished, ordered, numbered, content, accounted⟩ :
      BuffersOwned cfg s ∧ Unfinished cfg s ∧ Ordered cfg s ∧ Numbered s ∧ Content cfg env s ∧
        Accounted cfg s := by
    apply run_moves (fun s => BuffersOwned cfg s ∧ Unfinished cfg s ∧ Ordered cfg s ∧
      Numbered s ∧ Content cfg env s ∧ Accounted cfg s)
    · rintro u v move own ⟨owned, unfinished, ordered, numbered, content, accounted⟩
      exact ⟨move.buffersOwned owned, move.unfinished unfinished,
        move.ordered own unfinished ordered, move.numbered numbered,
        move.content blocks long own owned ordered numbered content,
        move.accounted slots own owned unfinished accounted⟩
    · refine ⟨start_buffersOwned s₀, ?_, ?_, ?_, ⟨trivial, fun _ _ => rfl, ?_⟩, ?_⟩
      · intro i peer e member
        rw [start_entries s₀ peer] at member
        cases member
      · intro i peer
        rw [State.tickets, start_entries s₀ peer]
        exact List.Sublist.refl _
      · intro i
        exact ⟨List.Pairwise.nil, fun k member => by cases member⟩
      · intro i peer e member
        rw [start_entries s₀ peer] at member
        cases member
      · intro k c i bytes member
        cases member
  refine ⟨?_, content.faithful, accounted, fun op k => step_unbuffered⟩
  intro i peer
  constructor
  · exact (List.sublist_append_left _ _).trans (ordered i peer)
  · exact (numbered i).1.imp fun less => Nat.ne_of_lt less

def receiverMsg : Nat → MsgCfg
  | 0 => ⟨0x10, 0, true, false, 8, true, false⟩
  | _ => ⟨0x11, 0, true, false, 8, false, false⟩

def receiverConfig : Config where
  build := .cc26xx
  masterHasRf := false
  numLlTx := 1
  numLlRx := 1
  maxNodes := 1
  tpChMax := 1
  bleChannel := 0
  maxRetryCount := 3
  reservedLen := 26
  maxRxBufferLen := 64
  minRxDataLen := 8
  canIdx := 1
  numMsg := 2
  msgCfg := receiverMsg
  lowerTxCallPdu := fun _ i => i
  lowerTxCbPdu := fun _ i => i
  lowerRxPdu := fun _ i => i
  imcBroadcastPdu := 100
  numMsg_le := by decide
  length_lt := by decide
  channel_lt := by decide
  pduId_distinct := by decide

def receiverEnv : Env where
  isCryptoFree := fun _ => true
  rxFreshness := fun _ _ => some fun _ => 0
  verify := fun _ _ _ => .ok
  decrypt := fun _ payload _ =>
    (if payload.length % aesKeyLen = 0 then .ok else .fail, fun i => payload.getD i 0 - 1)

theorem receiverEnv_blocks : DecryptsBlocks receiverEnv := by
  intro log payload fresh done
  by_cases whole : payload.length % aesKeyLen = 0
  · exact whole
  · simp [receiverEnv, whole] at done

def emptyState : State where
  chRxInfo := fun _ _ => ⟨fun _ => 0, 0, by decide⟩
  chRxData := fun _ _ _ => ⟨fun _ => 0, 0, 0, false⟩
  queue := fun _ => .vacant queueSize_pos ⟨0, 0, false, .idle, 0, 0, 0, 0, [], 0⟩
  nextTicket := 0
  log := []

def receiverOps : List Op :=
  let message (bytes : List UInt8) : List Op :=
    [.startOfReception 0 bytes.length,
      .copyRxData 0 (some ⟨bytes.length, some fun i => bytes.getD i 0⟩), .tpRxIndication 0 .ok]
  message [0x11, 0, 7, 8, 1, 2, 3, 4] ++
  message ([0x10, 14] ++ List.replicate 16 9 ++ [1, 2, 3, 4]) ++
  message [0x11, 0, 5, 1, 2, 3, 4] ++ [.cyclicRx, .cyclicRx]

theorem delivery_in_order_receiver :
    let s := run (step receiverConfig receiverEnv) (start receiverConfig emptyState) receiverOps
    (deliveredTo 0 s.log = [0, 1] ∧ arrivedFrom 0 s.log = [0, 1, 2]) ∧
    s.log.filterMap (fun e => match e with
      | .delivered _ _ _ payload => some payload
      | _ => none) = [[7, 8], [8, 8]] ∧
    (deliveredTo 0 s.log).Sublist (arrivedFrom 0 s.log) := by
  have general := delivery_in_order receiverConfig receiverEnv emptyState receiverOps
    (by decide) (by decide) receiverEnv_blocks
  refine ⟨by decide +kernel, by decide +kernel, (general.1 0 (by decide)).1⟩

end AnchorNode.AnchorCom.Rx
