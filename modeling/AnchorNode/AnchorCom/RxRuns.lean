import AnchorNode.AnchorCom.RxMoves

/-! Runs of the receive half as sequences of moves. -/

namespace AnchorNode.AnchorCom.Rx

open AnchorNode.Lib

variable {cfg : Config} {env : Env} {s t : State}

def Owned (cfg : Config) (s : State) : Prop :=
  ∀ i < cfg.numLlRx, ∀ e ∈ s.entries i, e.anchorId = i ∧ e.channel < cfg.tpChMax

theorem set_pop_toList {n : Nat} {α : Type} (r : Ring n α) (a : α) (filled : r.isEmpty = false) :
    (r.set r.head a).pop.toList = r.pop.toList := by
  have replaced := r.set_front_toList a filled
  have popped := (r.set r.head a).toList_cons (by simpa using filled)
  exact (List.cons.inj (popped.symm.trans replaced)).2

theorem entries_front (s : State) {q : Nat} (filled : (s.queue q).isEmpty = false) :
    s.entries q = s.front q :: (s.queue q).pop.toList := (s.queue q).toList_cons filled

inductive EntriesChange (cfg : Config) (s t : State) (i : Nat) : Prop
  | kept (same : t.entries i = s.entries i)
  | pushed (e : Entry) (last : t.entries i = s.entries i ++ [e])
      (own : e.anchorId = i ∧ e.channel < cfg.tpChMax)
  | replaced (e : Entry) (rest : List Entry) (before : s.entries i = s.front i :: rest)
      (after : t.entries i = e :: rest) (key : e.key = (s.front i).key)
  | popped (rest : List Entry) (before : s.entries i = s.front i :: rest)
      (after : t.entries i = rest)

theorem Move.entries (move : Move cfg env s t) (i : Nat) : EntriesChange cfg s t i := by
  cases move with
  | quiet _ _ queue => exact .kept (by rw [State.entries, State.entries, queue])
  | unbuffered => exact .kept rfl
  | unqueued => exact .kept rfl
  | queued id c j temp channel peer long free room =>
      by_cases here : i = j
      · subst here
        apply EntriesChange.pushed (newEntry s c i temp s.nextTicket (s.chRxInfo c i).rxOffset)
        · simp [State.entries, Ring.push_toList _ _ room]
        · exact ⟨rfl, channel⟩
      · exact .kept (by simp [State.entries, here])
  | worked q peer filled own stays =>
      by_cases here : i = q
      · subst here
        apply EntriesChange.replaced (headJob cfg env s i).entry (s.queue i).pop.toList
        · exact entries_front s filled
        · simp [State.entries, Ring.set_front_toList _ _ filled]
        · exact headJob_key cfg env s i
      · exact .kept (by simp [State.entries, here])
  | finished q peer filled own leaves =>
      by_cases here : i = q
      · subst here
        apply EntriesChange.popped (s.queue i).pop.toList
        · exact entries_front s filled
        · simp [State.entries, set_pop_toList _ _ filled]
      · exact .kept (by simp [State.entries, here])

theorem Move.owned (move : Move cfg env s t) (owned : Owned cfg s) : Owned cfg t := by
  intro i bound e member
  have before := owned i bound
  cases move.entries i with
  | kept same => exact before e (same ▸ member)
  | pushed new last own =>
      rw [last, List.mem_append, List.mem_singleton] at member
      rcases member with old | rfl
      · exact before e old
      · exact own
  | replaced f rest old new key =>
      rw [new, List.mem_cons] at member
      rw [old] at before
      rcases member with rfl | later
      · have front := before (s.front i) (by simp)
        obtain ⟨channel, anchor, _⟩ := Entry.key_eq key
        rw [channel, anchor]
        exact front
      · exact before e (by simp [later])
  | popped rest old new =>
      rw [new] at member
      exact before e (by rw [old]; simp [member])

theorem Move.path (move : Move cfg env s t) : Path cfg env s t := Relation.ReflTransGen.single move

theorem Path.invariant (Inv : State → Prop)
    (moves : ∀ s t, Move cfg env s t → Owned cfg s → Inv s → Inv t)
    (path : Path cfg env s t) (owned : Owned cfg s) (initial : Inv s) : Owned cfg t ∧ Inv t := by
  induction path with
  | refl => exact ⟨owned, initial⟩
  | tail _ move held => exact ⟨move.owned held.1, moves _ _ move held.1 held.2⟩

theorem workHead_eq {q : Nat} (own : (s.front q).anchorId = q) :
    workHead cfg env q s =
      { (s.setData (s.front q).isTempBuf (s.front q).channel q
          { s.dataOf (s.front q) with rxBuffer := (headJob cfg env s q).buffer }).setQueue q
            ((s.queue q).set (s.queue q).head (headJob cfg env s q).entry) with
        log := (headJob cfg env s q).log } := by
  have front : (s.queue q).front.anchorId = q := own
  simp only [workHead, headJob, State.dataOf, State.front, front]
  rfl

theorem workHead_front (cfg : Config) (env : Env) {q : Nat} (own : (s.front q).anchorId = q) :
    ((workHead cfg env q s).queue q).front = (headJob cfg env s q).entry := by
  rw [workHead_eq own]
  simp [Ring.front, Ring.set]

theorem finish_stays {q : Nat} (own : (s.front q).anchorId = q)
    (stays : Rx.finished cfg (headJob cfg env s q).entry = false) :
    finish cfg q (workHead cfg env q s) = workHead cfg env q s := by
  have front := workHead_front cfg env own
  have neither : ¬ ((headJob cfg env s q).entry.errCounter ≥ cfg.maxRetryCount ∨
      (headJob cfg env s q).entry.queueState = .processDone) := by
    simpa [Rx.finished] using stays
  simp only [finish, front, if_neg neither]

theorem finish_leaves {q : Nat} (filled : (s.queue q).isEmpty = false)
    (own : (s.front q).anchorId = q)
    (leaves : Rx.finished cfg (headJob cfg env s q).entry = true) :
    finish cfg q (workHead cfg env q s) =
      { (s.setData (s.front q).isTempBuf (s.front q).channel q
          { s.dataOf (s.front q) with
            rxBuffer := (headJob cfg env s q).buffer
            needVerify := false }).setQueue q
            ((s.queue q).set (s.queue q).head
              { (headJob cfg env s q).entry with queueState := .idle }).pop with
        log := (headJob cfg env s q).log ++
          [.removed (s.front q).ticket (headJob cfg env s q).entry.errCounter] } := by
  have front := workHead_front cfg env own
  have either : (headJob cfg env s q).entry.errCounter ≥ cfg.maxRetryCount ∨
      (headJob cfg env s q).entry.queueState = .processDone := by
    simpa [Rx.finished] using leaves
  obtain ⟨channel, anchor, temp, ticket⟩ : (headJob cfg env s q).entry.channel =
      (s.front q).channel ∧ (headJob cfg env s q).entry.anchorId = (s.front q).anchorId ∧
      (headJob cfg env s q).entry.isTempBuf = (s.front q).isTempBuf ∧
      (headJob cfg env s q).entry.ticket = (s.front q).ticket :=
    Entry.key_eq (headJob_key cfg env s q)
  simp only [finish, front, if_pos either, channel, anchor, temp, ticket, own, removeRxQueueHead]
  rw [workHead_eq own]
  simp [filled, Ring.front, State.emit, State.setData, State.setQueue, State.dataOf, own]
  rw [channel, anchor, temp, ticket, own]

theorem servePeer_path (env : Env) (owned : Owned cfg s) {q : Nat} (peer : q < cfg.numLlRx) :
    Path cfg env s (servePeer cfg env s q) := by
  unfold servePeer getRxQueueHead
  cases filled : (s.queue q).isEmpty with
  | true => exact Relation.ReflTransGen.refl
  | false =>
      have own : (s.front q).anchorId = q :=
        (owned q peer (s.front q) (by rw [entries_front s filled]; simp)).1
      apply Move.path
      simp only [Bool.false_eq_true, if_false]
      cases leaves : Rx.finished cfg (headJob cfg env s q).entry with
      | false =>
          rw [finish_stays own leaves, workHead_eq own]
          exact .worked q peer filled own leaves
      | true =>
          rw [finish_leaves filled own leaves]
          exact .finished q peer filled own leaves

theorem servePeers_path (owned : Owned cfg s) {peers : List Nat}
    (bounds : ∀ q ∈ peers, q < cfg.numLlRx) :
    Path cfg env s (peers.foldl (servePeer cfg env) s) := by
  induction peers generalizing s with
  | nil => exact Relation.ReflTransGen.refl
  | cons q peers ih =>
      have first := servePeer_path env owned (bounds q (by simp))
      have held := (first.invariant (fun _ => True) (fun _ _ _ _ _ => trivial) owned trivial).1
      exact first.trans (ih held fun p member => bounds p (by simp [member]))

theorem Move.report (id : Nat) (api : ApiId) (error : ErrorId) :
    Move cfg env s (s.emit (.reportError id api error)) := by
  have noise : ∀ e ∈ [Event.reportError id api error],
      ∃ id api error, e = .reportError id api error := by
    intro e member
    exact ⟨id, api, error, List.mem_singleton.mp member⟩
  exact .quiet [.reportError id api error] rfl rfl rfl noise rfl

theorem tpRxIndication_move (id : Nat) (result : StdReturn) :
    Move cfg env s (tpRxIndication cfg id result s) := by
  unfold tpRxIndication
  split
  · exact .report id .tpRxIndication .pdu
  · rename_i c i found
    obtain ⟨channel, peer, _⟩ := findByLLPdu_bounds found
    simp only
    split
    · rename_i complete
      split
      · rename_i temp free
        unfold takeMessage addRxQueue
        cases full : (s.queue i).isFull with
        | true =>
            have move : Move cfg env s _ :=
              Move.unqueued id c i temp channel peer complete.2 free full
            simpa [full, State.emit, State.setData, State.filledData, State.message] using move
        | false =>
            have move : Move cfg env s _ :=
              Move.queued id c i temp channel peer complete.2 free full
            simpa [full, State.emit, State.setData, State.setQueue, State.filledData,
              State.message, newEntry] using move
      · rename_i busy
        have move : Move cfg env s _ := Move.unbuffered c i channel peer complete.2 busy
        simpa [State.emit, State.message] using move
    · exact .quiet [] rfl rfl rfl (by simp) (by simp)

theorem startOfReception_move (id tpSduLength : Nat) :
    Move cfg env s (startOfReception cfg id tpSduLength s).1 := by
  unfold startOfReception
  split
  · exact .report id .tpRxStart .pdu
  · split
    · exact .quiet [] rfl rfl rfl (by simp) (by simp)
    · exact .quiet [] rfl rfl rfl (by simp) (by simp)

theorem copyRxData_move (id : Nat) (info : Option CopyInfo) :
    Move cfg env s (copyRxData cfg id info s).1 := by
  unfold copyRxData
  split
  · exact .report id .tpRxCopy .pdu
  · exact .report id .tpRxCopy .null
  · simp only
    split
    · exact .quiet [] rfl rfl rfl (by simp) (by simp)
    · split
      · exact .quiet [] rfl rfl rfl (by simp) (by simp)
      · exact .quiet [] rfl rfl rfl (by simp) (by simp)

theorem step_path (owned : Owned cfg s) (op : Op) : Path cfg env s (step cfg env s op) := by
  cases op with
  | startOfReception id tpSduLength => exact (startOfReception_move id tpSduLength).path
  | copyRxData id info => exact (copyRxData_move id info).path
  | tpRxIndication id result => exact (tpRxIndication_move id result).path
  | cyclicRx =>
      simp only [step, cyclicRx]
      split
      · exact Relation.ReflTransGen.refl
      · exact servePeers_path owned fun q => List.mem_range.mp

theorem start_entries {i : Nat} (s : State) (bound : i < cfg.numLlRx) :
    (start cfg s).entries i = [] := by
  simp [State.entries, start, init, bound]

theorem start_owned (s : State) : Owned cfg (start cfg s) := by
  intro i bound e member
  rw [start_entries s bound] at member
  cases member

theorem run_moves (Inv : State → Prop)
    (moves : ∀ s t, Move cfg env s t → Owned cfg s → Inv s → Inv t) (s : State)
    (initial : Inv (start cfg s)) (ops : List Op) :
    Inv (run (step cfg env) (start cfg s) ops) := by
  have preserved : ∀ u op, Owned cfg u ∧ Inv u →
      Owned cfg (step cfg env u op) ∧ Inv (step cfg env u op) :=
    fun u op held => (step_path held.1 op).invariant Inv moves held.1 held.2
  have both : Owned cfg (start cfg s) ∧ Inv (start cfg s) := ⟨start_owned s, initial⟩
  exact (run_invariant preserved ops both).2

end AnchorNode.AnchorCom.Rx
