import AnchorNode.AnchorCom.RxRuns

/-! Who owns a receive buffer: the queue entry that refers to it, as long as its flag is
set. -/

namespace AnchorNode.AnchorCom.Rx

open AnchorNode.Lib

variable {cfg : Config} {env : Env} {s t : State}

def refers (temp : Bool) (c : Nat) (e : Entry) : Bool := e.isTempBuf == temp && e.channel == c

def references (s : State) (temp : Bool) (c i : Nat) : Nat := (s.entries i).countP (refers temp c)

def BuffersOwned (cfg : Config) (s : State) : Prop :=
  ∀ i < cfg.numLlRx, ∀ c < cfg.tpChMax, ∀ temp,
    references s temp c i = if (s.chRxData temp c i).needVerify then 1 else 0

theorem refers_key {e f : Entry} (key : e.key = f.key) (temp : Bool) (c : Nat) :
    refers temp c e = refers temp c f := by
  obtain ⟨channel, _, place, _⟩ := Entry.key_eq key
  rw [refers, refers, channel, place]

theorem freeBuffer_free {c i : Nat} {temp : Bool} (free : freeBuffer s c i = some temp) :
    (s.chRxData temp c i).needVerify = false := by
  unfold freeBuffer at free
  split at free
  · cases free
    assumption
  · split at free
    · cases free
      assumption
    · cases free

theorem freeBuffer_none {c i : Nat} (busy : freeBuffer s c i = none) (temp : Bool) :
    (s.chRxData temp c i).needVerify = true := by
  unfold freeBuffer at busy
  split at busy
  · cases busy
  · split at busy
    · cases busy
    · cases temp <;> simp_all

theorem BuffersOwned.kept (owned : BuffersOwned cfg s)
    (same : ∀ i < cfg.numLlRx, ∀ c < cfg.tpChMax, ∀ temp,
      references t temp c i = references s temp c i ∧
        (t.chRxData temp c i).needVerify = (s.chRxData temp c i).needVerify) :
    BuffersOwned cfg t := by
  intro i peer c channel temp
  obtain ⟨count, flag⟩ := same i peer c channel temp
  rw [count, flag]
  exact owned i peer c channel temp

theorem Move.buffersOwned (move : Move cfg env s t) (owned : BuffersOwned cfg s) :
    BuffersOwned cfg t := by
  cases move with
  | quiet events data queue next noise log =>
      apply owned.kept
      intro i _ c _ temp
      rw [references, references, State.entries, State.entries, queue, data]
      exact ⟨rfl, rfl⟩
  | unbuffered =>
      apply owned.kept
      intro i _ c _ temp
      exact ⟨rfl, rfl⟩
  | unqueued id c j temp channel peer long free full =>
      apply owned.kept
      intro i _ c' _ temp'
      refine ⟨rfl, ?_⟩
      simp only [State.setData_chRxData]
      split
      · rename_i here
        obtain ⟨rfl, rfl, rfl⟩ := here
        exact (freeBuffer_free free).symm
      · rfl
  | queued id c j temp channel peer long free room =>
      intro i bound c' inside temp'
      have before := owned i bound c' inside temp'
      simp only [references, State.entries, State.setQueue_queue, State.setQueue_chRxData,
        State.setData_queue, State.setData_chRxData] at before ⊢
      by_cases here : i = j
      · subst here
        rw [Function.update_self, Ring.push_toList _ _ room, List.countP_append, before,
          List.countP_singleton]
        by_cases same : temp' = temp ∧ c' = c
        · obtain ⟨rfl, rfl⟩ := same
          simp [refers, newEntry, freeBuffer_free free, State.filledData]
        · have other : refers temp' c' (newEntry s c i temp s.nextTicket
              (s.chRxInfo c i).rxOffset) = false := by
            simp only [refers, newEntry, Bool.and_eq_false_iff, beq_eq_false_iff_ne]
            grind
          have apart : ¬ (temp' = temp ∧ c' = c ∧ i = i) := fun all => same ⟨all.1, all.2.1⟩
          rw [other, if_neg apart]
          simp
      · have apart : ¬ (temp' = temp ∧ c' = c ∧ i = j) := fun all => here all.2.2
        rw [Function.update_of_ne here, before, if_neg apart]
  | worked q peer filled anchor stays =>
      apply owned.kept
      intro i _ c _ temp
      constructor
      · simp only [references, State.entries, State.setQueue_queue, State.setData_queue]
        by_cases here : i = q
        · subst here
          rw [Function.update_self, Ring.set_front_toList _ _ filled,
            Ring.toList_cons _ filled, List.countP_cons, List.countP_cons,
            refers_key (headJob_key cfg env s i) temp c]
          rfl
        · rw [Function.update_of_ne here]
      · simp only [State.setQueue_chRxData, State.setData_chRxData]
        split
        · rename_i here
          obtain ⟨rfl, rfl, rfl⟩ := here
          rw [State.dataOf, anchor]
        · rfl
  | finished q peer filled anchor leaves =>
      intro i bound c inside temp
      have before := owned i bound c inside temp
      simp only [references, State.entries, State.setQueue_queue, State.setQueue_chRxData,
        State.setData_queue, State.setData_chRxData] at before ⊢
      by_cases here : i = q
      · subst here
        rw [Ring.toList_cons _ filled, List.countP_cons] at before
        rw [Function.update_self, set_pop_toList _ _ filled]
        by_cases same : temp = (s.front i).isTempBuf ∧ c = (s.front i).channel
        · obtain ⟨rfl, rfl⟩ := same
          have self : refers (s.front i).isTempBuf (s.front i).channel (s.queue i).front =
            true := by
            simp [refers, State.front]
          rw [self, if_pos rfl] at before
          have none : (s.queue i).pop.toList.countP
              (refers (s.front i).isTempBuf (s.front i).channel) = 0 := by
            split at before <;> omega
          rw [none]
          simp
        · have other : refers temp c (s.queue i).front = false := by
            simp only [refers, Bool.and_eq_false_iff, beq_eq_false_iff_ne]
            have : (s.queue i).front = s.front i := rfl
            rw [this]
            grind
          have apart : ¬ (temp = (s.front i).isTempBuf ∧ c = (s.front i).channel ∧ i = i) :=
            fun all => same ⟨all.1, all.2.1⟩
          rw [other] at before
          rw [if_neg apart, ← before]
          simp
      · have apart : ¬ (temp = (s.front q).isTempBuf ∧ c = (s.front q).channel ∧ i = q) :=
          fun all => here all.2.2
        rw [Function.update_of_ne here, before, if_neg apart]

theorem start_buffersOwned (s : State) : BuffersOwned cfg (start cfg s) := by
  intro i peer c channel temp
  rw [references, start_entries s peer]
  simp [start, init, peer, channel]

theorem entries_bounded (own : Owned cfg s) (owned : BuffersOwned cfg s) {i : Nat}
    (peer : i < cfg.numLlRx) : (s.entries i).length ≤ 2 * cfg.tpChMax := by
  let place : Entry → Bool × Nat := fun e => (e.isTempBuf, e.channel)
  have counts : ∀ b : Bool × Nat, ((s.entries i).map place).count b =
      references s b.1 b.2 i := by
    intro b
    rw [List.count, List.countP_map]
    apply List.countP_congr
    intro e _
    simp [place, refers, Prod.ext_iff]
  have once : ((s.entries i).map place).Nodup := by
    rw [List.nodup_iff_count_le_one]
    intro b
    rw [counts]
    by_cases channel : b.2 < cfg.tpChMax
    · rw [owned i peer b.2 channel b.1]
      split <;> omega
    · have none : references s b.1 b.2 i = 0 := by
        rw [references, List.countP_eq_zero]
        intro e member same
        have inside := (own i peer e member).2
        simp only [refers, Bool.and_eq_true, beq_iff_eq] at same
        omega
      omega
  have places : ((s.entries i).map place).toFinset ⊆
      Finset.univ ×ˢ Finset.range cfg.tpChMax := by
    intro b member
    obtain ⟨e, queued, rfl⟩ := List.mem_map.mp (List.mem_toFinset.mp member)
    simpa [place] using (own i peer e queued).2
  calc
    (s.entries i).length = ((s.entries i).map place).toFinset.card := by
      rw [List.toFinset_card_of_nodup once, List.length_map]
    _ ≤ (Finset.univ ×ˢ Finset.range cfg.tpChMax : Finset (Bool × Nat)).card :=
      Finset.card_le_card places
    _ = 2 * cfg.tpChMax := by simp

theorem room_left (own : Owned cfg s) (owned : BuffersOwned cfg s)
    (slots : 2 * cfg.tpChMax < queueSize) {i : Nat} (peer : i < cfg.numLlRx) :
    (s.queue i).isFull = false := by
  have bounded := entries_bounded own owned peer
  have size : queueSize = 16 := rfl
  rw [← Bool.not_eq_true, Ring.isFull_iff]
  intro full
  have length : (s.entries i).length + 1 = queueSize := full
  omega

theorem Move.unqueued_log (move : Move cfg env s t) (own : Owned cfg s)
    (owned : BuffersOwned cfg s) (slots : 2 * cfg.tpChMax < queueSize)
    (none : ∀ k, Event.unqueued k ∉ s.log) (k : Nat) : Event.unqueued k ∉ t.log := by
  have worked : ∀ q, Event.unqueued k ∉ (headJob cfg env s q).log := by
    intro q member
    obtain ⟨_, events, log, work⟩ := process_extends cfg env
      ⟨s.front q, (s.dataOf (s.front q)).rxBuffer, s.log⟩
    have member : Event.unqueued k ∈ s.log ++ events := log ▸ member
    rcases List.mem_append.mp member with old | new
    · exact none k old
    · cases work _ new
  cases move with
  | quiet events data queue next noise log =>
      intro member
      rw [log] at member
      rcases List.mem_append.mp member with old | new
      · exact none k old
      · obtain ⟨_, _, _, same⟩ := noise _ new
        cases same
  | unbuffered c i channel peer long busy =>
      simpa using none k
  | unqueued id c i temp channel peer long free full =>
      rw [room_left own owned slots peer] at full
      cases full
  | queued id c i temp channel peer long free room =>
      simpa using none k
  | worked q peer filled anchor stays => exact worked q
  | finished q peer filled anchor leaves => simpa using worked q

/-- In every reachable state: a flag is set exactly if one entry refers to its buffer, a
queue holds no more entries than there are buffers, no message has been lost for want of a
slot, the buffer a message is copied to is not queued, and when there is none the queue has
a head. -/
theorem receive_buffers_owned (cfg : Config) (env : Env) (s₀ : State) (ops : List Op) :
    let s := run (step cfg env) (start cfg s₀) ops
    (∀ i < cfg.numLlRx, ∀ c < cfg.tpChMax, ∀ temp,
      (s.chRxData temp c i).needVerify = true ↔ references s temp c i = 1) ∧
    (∀ i < cfg.numLlRx, (s.entries i).length ≤ 2 * cfg.tpChMax) ∧
    (2 * cfg.tpChMax < queueSize → ∀ k, Event.unqueued k ∉ s.log) ∧
    (∀ i < cfg.numLlRx, ∀ c < cfg.tpChMax, ∀ temp, freeBuffer s c i = some temp →
      ∀ e ∈ s.entries i, refers temp c e = false) ∧
    ∀ i < cfg.numLlRx, ∀ c < cfg.tpChMax, freeBuffer s c i = none →
      getRxQueueHead s i ≠ none := by
  intro s
  obtain ⟨own, owned, slotted⟩ : Owned cfg s ∧ BuffersOwned cfg s ∧
      (2 * cfg.tpChMax < queueSize → ∀ k, Event.unqueued k ∉ s.log) := by
    apply run_moves (fun s => Owned cfg s ∧ BuffersOwned cfg s ∧
      (2 * cfg.tpChMax < queueSize → ∀ k, Event.unqueued k ∉ s.log))
    · rintro u v move - ⟨own, owned, slotted⟩
      exact ⟨move.owned own, move.buffersOwned owned,
        fun slots => move.unqueued_log own owned slots (slotted slots)⟩
    · exact ⟨start_owned s₀, start_buffersOwned s₀, fun _ k => by simp [start, init]⟩
  refine ⟨?_, fun i => entries_bounded own owned, slotted, ?_, ?_⟩
  · intro i peer c channel temp
    rw [owned i peer c channel temp]
    split <;> simp_all
  · intro i peer c channel temp free e member
    have zero := owned i peer c channel temp
    rw [freeBuffer_free free, references] at zero
    simpa using List.countP_eq_zero.mp zero e member
  · intro i peer c channel busy empty
    have one := owned i peer c channel false
    rw [freeBuffer_none busy false, if_pos rfl, references, State.entries] at one
    unfold getRxQueueHead at empty
    split at empty
    · rename_i nothing
      rw [(s.queue i).isEmpty_iff.mp nothing] at one
      cases one
    · cases empty

end AnchorNode.AnchorCom.Rx
