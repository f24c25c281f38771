import AnchorNode.AnchorCom.Occupancy

/-! Every store stays inside its transmit buffer, and every accepted message is formatted at
most once, from the length it was given with. -/

namespace AnchorNode.AnchorCom.Tx

open AnchorNode.Lib

variable {cfg : Config} {env : Env} {s t : State}

/-- The store of `count` bytes from `offset` on lies inside the buffer of message `m`;
only a transmit message has one. -/
def Inside (cfg : Config) (m offset count : Nat) : Prop :=
  (cfg.msgCfg m).isTx = true ∧ offset + count ≤ (cfg.msgCfg m).length + cfg.reservedLen

def WritesInside (cfg : Config) (log : List Event) : Prop :=
  ∀ i m offset count, .written i m offset count ∈ log → Inside cfg m offset count

def isFormatted (ticket : Nat) : Event → Bool
  | .formatted k _ => k == ticket
  | _ => false

/-- A formatted message was accepted with the length it is formatted from, and it is
formatted only once. -/
def FormatsRawOnce (log : List Event) : Prop :=
  ∀ ticket length, .formatted ticket length ∈ log →
    (∃ i m payload, .accepted ticket i m payload ∈ log ∧ payload.length = length) ∧
      log.countP (isFormatted ticket) = 1

/-- A request that is stored is for a transmit message that is not queued for the index in
use, and the sum of its lengths fits `uint16`. -/
def StoresFresh (cfg : Config) (s : State) (op : Op) : Prop :=
  ∀ r, storing cfg s op = some r →
    (cfg.msgCfg r.2).isTx = true ∧ r.1.length + r.1.length2 < 65536 ∧
      held s.toCore (otherEndIdxToUse cfg r.2 r.1.otherEndIdx) r.2 = 0

instance (s : State) (op : Op) : Decidable (StoresFresh cfg s op) :=
  inferInstanceAs (Decidable (∀ r, storing cfg s op = some r → _))

structure EntryFit (cfg : Config) (s : Core) (i : Nat) (e : Entry) : Prop where
  tx : (cfg.msgCfg e.msgIdx).isTx = true
  raw : e.queueState = .queued →
    (s.msgTxInfo i e.msgIdx).length ≤ (cfg.msgCfg e.msgIdx).length ∧
      (∃ payload, .accepted e.ticket i e.msgIdx payload ∈ s.log ∧
        payload.length = (s.msgTxInfo i e.msgIdx).length) ∧
      s.log.countP (isFormatted e.ticket) = 0
  padded : e.queueState = .encReady ∨ e.queueState = .cmacReady →
    (s.msgTxInfo i e.msgIdx).length ≤ (cfg.msgCfg e.msgIdx).length + 15

structure Fit (cfg : Config) (s : Core) : Prop where
  writes : WritesInside cfg s.log
  formats : FormatsRawOnce s.log
  numbered : ∀ ticket length, .formatted ticket length ∈ s.log → ticket < s.nextTicket
  single : ∀ i < cfg.numLlTx, (s.keys i).Pairwise fun k l => k.1 ≠ l.1
  entries : ∀ i < cfg.numLlTx, ∀ e ∈ s.entries i, EntryFit cfg s i e

theorem EntryFit.carry {s t : Core} {i : Nat} {e f : Entry} {events : List Event}
    (fit : EntryFit cfg s i f) (key : e.key = f.key) (state : e.queueState = f.queueState)
    (length : (t.msgTxInfo i f.msgIdx).length = (s.msgTxInfo i f.msgIdx).length)
    (log : t.log = s.log ++ events) (unformatted : events.countP (isFormatted f.ticket) = 0) :
    EntryFit cfg t i e := by
  simp only [Entry.key, Prod.mk.injEq] at key
  obtain ⟨msgIdx, _, _, ticket⟩ := key
  constructor
  · rw [msgIdx]
    exact fit.tx
  · intro queued
    obtain ⟨short, ⟨payload, accepted, raw⟩, never⟩ := fit.raw (state ▸ queued)
    rw [msgIdx, ticket, length, log, List.countP_append, never, unformatted]
    exact ⟨short, ⟨payload, List.mem_append_left _ accepted, raw⟩, rfl⟩
  · intro padded
    rw [msgIdx, length]
    exact fit.padded (state ▸ padded)

theorem EntryFit.past {s t : Core} {i : Nat} {e f : Entry} (fit : EntryFit cfg s i f)
    (key : e.key = f.key) (past : e.queueState ≠ .queued ∧ e.queueState ≠ .encReady ∧
      e.queueState ≠ .cmacReady) : EntryFit cfg t i e := by
  have msgIdx : e.msgIdx = f.msgIdx := congrArg Prod.fst key
  refine ⟨by rw [msgIdx]; exact fit.tx, ?_, ?_⟩
  · intro queued
    exact absurd queued past.1
  · intro padded
    rcases padded with ready | ready
    · exact absurd ready past.2.1
    · exact absurd ready past.2.2

theorem Fit.extend {s t : Core} (fit : Fit cfg s) (events : List Event)
    (log : t.log = s.log ++ events) (next : s.nextTicket ≤ t.nextTicket)
    (stores : WritesInside cfg events) (unformatted : ∀ k length, .formatted k length ∉ events)
    (single : ∀ i < cfg.numLlTx, (t.keys i).Pairwise fun k l => k.1 ≠ l.1)
    (entries : ∀ i < cfg.numLlTx, ∀ e ∈ t.entries i, EntryFit cfg t i e) : Fit cfg t := by
  have none : ∀ ticket, events.countP (isFormatted ticket) = 0 := by
    intro ticket
    rw [List.countP_eq_zero]
    intro e member
    cases e with
    | formatted k length => exact absurd member (unformatted k length)
    | _ => simp [isFormatted]
  have old : ∀ k length, .formatted k length ∈ t.log → .formatted k length ∈ s.log := by
    intro k length member
    rw [log, List.mem_append] at member
    exact member.resolve_right (unformatted k length)
  refine ⟨?_, ?_, ?_, single, entries⟩
  · intro i m offset count member
    rw [log, List.mem_append] at member
    rcases member with before | now
    · exact fit.writes i m offset count before
    · exact stores i m offset count now
  · intro ticket length member
    obtain ⟨⟨i, m, payload, accepted, raw⟩, once⟩ := fit.formats _ _ (old _ _ member)
    rw [log, List.countP_append, once, none]
    exact ⟨⟨i, m, payload, List.mem_append_left _ accepted, raw⟩, rfl⟩
  · intro ticket length member
    exact Nat.lt_of_lt_of_le (fit.numbered _ _ (old _ _ member)) next

def Event.isPlain : Event → Bool
  | .written .. | .formatted .. => false
  | _ => true

structure Plain (s t : Core) : Prop where
  log : ∃ events, t.log = s.log ++ events ∧ ∀ e ∈ events, e.isPlain = true
  length : ∀ i m, (t.msgTxInfo i m).length = (s.msgTxInfo i m).length
  next : t.nextTicket = s.nextTicket
  keys : ∀ i, (t.keys i).Sublist (s.keys i)
  entries : ∀ i, ∀ e ∈ t.entries i, ∃ f ∈ s.entries i, e.key = f.key ∧
    (e.queueState = f.queueState ∨ e.queueState.isSending = true)

section Plain
variable {u : Core} {i : Nat} (events : List Event)

theorem Plain.of_queue (becomes : t.toCore = u) (log : u.log = s.log ++ events)
    (plain : ∀ e ∈ events, e.isPlain = true)
    (length : ∀ i m, (u.msgTxInfo i m).length = (s.msgTxInfo i m).length)
    (next : u.nextTicket = s.nextTicket) (queue : u.queue = s.queue) :
    Plain s.toCore t.toCore := by
  rw [becomes]
  refine ⟨⟨events, log, plain⟩, length, next, ?_, ?_⟩
  · intro i
    rw [keys_eq (congrFun queue i)]
  · intro i e member
    refine ⟨e, ?_, rfl, Or.inl rfl⟩
    rw [Core.entries, ← queue]
    exact member

theorem Plain.of_setFront {e : Entry} (becomes : t.toCore = u)
    (filled : (s.queue i).isEmpty = false) (log : u.log = s.log ++ events)
    (plain : ∀ e ∈ events, e.isPlain = true)
    (length : ∀ i m, (u.msgTxInfo i m).length = (s.msgTxInfo i m).length)
    (next : u.nextTicket = s.nextTicket) (queue : u.queue = (s.setFront i e).queue)
    (key : e.key = (s.front i).key)
    (state : e.queueState = (s.front i).queueState ∨ e.queueState.isSending = true) :
    Plain s.toCore t.toCore := by
  rw [becomes]
  refine ⟨⟨events, log, plain⟩, length, next, ?_, ?_⟩
  · intro j
    rw [keys_eq (s := (s.setFront i e).toCore) (congrFun queue j), keys_setFront filled key j]
  · intro j f member
    have member : f ∈ (s.setFront i e).entries j := by
      rw [Core.entries, ← queue]
      exact member
    rcases entries_replaced filled member with ⟨rfl, rfl⟩ | ⟨old, _⟩
    · exact ⟨s.front j, front_mem filled, key, state⟩
    · exact ⟨f, old, rfl, Or.inl rfl⟩

theorem Plain.of_pop (becomes : t.toCore = u) (filled : (s.queue i).isEmpty = false)
    (log : u.log = s.log ++ events) (plain : ∀ e ∈ events, e.isPlain = true)
    (length : ∀ i m, (u.msgTxInfo i m).length = (s.msgTxInfo i m).length)
    (next : u.nextTicket = s.nextTicket)
    (queue : u.queue = (s.setQueue i (s.queue i).pop).queue) : Plain s.toCore t.toCore := by
  rw [becomes]
  refine ⟨⟨events, log, plain⟩, length, next, ?_, ?_⟩
  · intro j
    rw [keys_eq (s := (s.setQueue i (s.queue i).pop).toCore) (congrFun queue j)]
    exact keys_pop filled j
  · intro j f member
    refine ⟨f, entries_popped filled ?_, rfl, Or.inl rfl⟩
    rw [Core.entries, ← queue]
    exact member

end Plain

theorem Move.plain_or {ok : State → Op → Prop} (move : Move cfg env ok s t) :
    Plain s.toCore t.toCore ∨
      (∃ i e' buf' len' events, AtFront cfg s i ∧ Worked cfg env s i t e' buf' len' events) ∨
      ∃ args m, ok s (.transmit args) ∧ checkTransmit cfg args = .ok m ∧
        bufferUsable cfg args.otherEndIdx m args.overwriteOldData s = true ∧
        t.toCore = (acceptData cfg args m s).1.toCore := by
  cases move with
  | work i e' buf' len' events atFront worked =>
      exact Or.inr (Or.inl ⟨i, e', buf', len', events, atFront, worked⟩)
  | stored args m allowed checked usable becomes =>
      exact Or.inr (Or.inr ⟨args, m, allowed, checked, usable, becomes⟩)
  | quiet events noise becomes =>
      left
      apply Plain.of_queue events becomes rfl _ (fun _ _ => rfl) rfl rfl
      intro e member
      obtain ⟨_, _, _, rfl⟩ := noise e member
      rfl
  | counted i atFront _ becomes =>
      left
      exact Plain.of_setFront [] becomes atFront.filled (by simp) (by simp) (fun _ _ => rfl) rfl
        rfl rfl (Or.inl rfl)
  | requested i _ atFront _ _ _ _ becomes =>
      left
      exact Plain.of_setFront [_] becomes atFront.filled rfl (by simp [Event.isPlain])
        (fun _ _ => rfl) rfl rfl rfl (Or.inr rfl)
  | requestedImc _ _ _ _ _ _ _ _ becomes =>
      left
      exact Plain.of_queue [_] becomes rfl (by simp [Event.isPlain]) (fun _ _ => rfl) rfl rfl
  | answered _ _ _ _ _ _ becomes =>
      left
      exact Plain.of_queue [_] becomes rfl (by simp [Event.isPlain]) (fun _ _ => rfl) rfl rfl
  | sent i atFront _ becomes =>
      left
      exact Plain.of_setFront [] becomes atFront.filled (by simp) (by simp) (fun _ _ => rfl) rfl
        rfl rfl (Or.inr rfl)
  | unsent i n atFront _ becomes =>
      left
      exact Plain.of_setFront [] becomes atFront.filled (by simp) (by simp) (fun _ _ => rfl) rfl
        rfl rfl (Or.inl rfl)
  | retired i atFront _ becomes =>
      left
      apply Plain.of_pop [_] becomes atFront.filled rfl (by simp [Event.isPlain]) _ rfl rfl
      intro j m
      simp only [State.emit_msgTxInfo, State.setQueue_msgTxInfo, State.setInfo_msgTxInfo,
        Function.update_apply]
      grind
  | dropped i atFront _ becomes =>
      left
      apply Plain.of_pop [_] becomes atFront.filled rfl (by simp [Event.isPlain]) _ rfl rfl
      intro j m
      simp only [State.emit_msgTxInfo, State.setQueue_msgTxInfo, State.setCh_msgTxInfo,
        State.setInfo_msgTxInfo, Function.update_apply]
      grind
  | copied id c i args _ _ _ headed _ becomes =>
      left
      cases finishes : copyFinishes cfg s.toCore id c i args with
      | true =>
          have atFront := copyFinishes_atFront headed finishes
          rw [finishes] at becomes
          exact Plain.of_setFront [_] becomes atFront.filled rfl (by simp [Event.isPlain])
            (fun _ _ => rfl) rfl rfl rfl (Or.inr rfl)
      | false =>
          rw [finishes] at becomes
          exact Plain.of_queue [_] becomes rfl (by simp [Event.isPlain]) (fun _ _ => rfl) rfl rfl
  | unheeded k id c i result events _ _ _ noise becomes =>
      left
      apply Plain.of_queue (.confirmed k c i result :: events) becomes rfl _ (fun _ _ => rfl) rfl
        rfl
      intro e member
      rcases List.mem_cons.mp member with rfl | later
      · rfl
      · obtain ⟨_, _, _, rfl⟩ := noise e later
        rfl
  | confirmedImc _ _ _ _ _ _ _ _ becomes =>
      left
      exact Plain.of_queue [_] becomes rfl (by simp [Event.isPlain]) (fun _ _ => rfl) rfl rfl
  | confirmed _ _ _ i result _ _ atFront _ becomes =>
      left
      apply Plain.of_setFront [_] becomes atFront.filled rfl (by simp [Event.isPlain])
        (fun _ _ => rfl) rfl rfl
      · split <;> rfl
      · right
        split <;> rfl

theorem countP_unformatted {events : List Event} {ticket : Nat}
    (unformatted : ∀ length, .formatted ticket length ∉ events) :
    events.countP (isFormatted ticket) = 0 := by
  rw [List.countP_eq_zero]
  intro e member
  cases e with
  | formatted k length =>
      intro same
      have equal : k = ticket := by simpa [isFormatted] using same
      exact unformatted length (equal ▸ member)
  | _ => simp [isFormatted]

theorem Fit.plain {s t : Core} (fit : Fit cfg s) (plain : Plain s t) : Fit cfg t := by
  obtain ⟨events, log, quiet⟩ := plain.log
  have unformatted : ∀ k length, .formatted k length ∉ events := by
    intro k length member
    cases quiet _ member
  apply fit.extend events log (Nat.le_of_eq plain.next.symm) _ unformatted
  · intro i bound
    exact (fit.single i bound).sublist (plain.keys i)
  · intro i bound e member
    obtain ⟨f, old, key, state⟩ := plain.entries i e member
    have before := fit.entries i bound f old
    rcases state with same | sending
    · exact before.carry key same (plain.length _ _) log (countP_unformatted (unformatted _))
    · apply before.past key
      cases at' : e.queueState with
      | transReady => simp
      | transRunning => simp
      | transDone => simp
      | _ => simp [at', TxQueueState.isSending] at sending
  · intro i m offset count member
    cases quiet _ member

theorem work_others {t : Core} {i j len' : Nat} {e e' : Entry}
    (queued : Queued cfg s.toCore) (fit : Fit cfg s.toCore) (atFront : AtFront cfg s i)
    (queue : t.queue = (s.setFront i e').queue)
    (info : t.msgTxInfo = (s.setInfo i (s.front i).msgIdx
      { s.msgTxInfo i (s.front i).msgIdx with length := len' }).msgTxInfo)
    (bound : j < cfg.numLlTx) (member : e ∈ t.entries j) :
    j = i ∧ e = e' ∨ e ∈ s.entries j ∧ e.ticket ≠ (s.front i).ticket ∧
      (t.msgTxInfo j e.msgIdx).length = (s.msgTxInfo j e.msgIdx).length := by
  have member : e ∈ (s.setFront i e').entries j := by
    rw [Core.entries, ← queue]
    exact member
  rcases entries_replaced atFront.filled member with here | ⟨old, tail⟩
  · exact Or.inl here
  · refine Or.inr ⟨old, ?_, ?_⟩
    · by_cases here : j = i
      · subst here
        have ordered := queued.ordered j bound
        rw [entries_front atFront.filled] at ordered
        exact Nat.ne_of_gt ((List.pairwise_cons.mp ordered).1 e (tail rfl))
      · intro equal
        have front := front_mem atFront.filled
        exact here (queued.apart j bound i atFront.bound e old _ front equal)
    · by_cases here : j = i
      · subst here
        have apart := tail_apart (fit.single j bound) atFront.filled (tail rfl)
        simp [info, apart]
      · simp [info, here]

section Lengths
variable {m len : Nat}

theorem paddingLen_le (len : Nat) : paddingLen len ≤ 15 := by
  unfold paddingLen aesKeyLen
  split <;> omega

theorem formatLength_le (cfg : Config) (m : Nat) (short : len < maxMsgTx) :
    formatLength cfg m len ≤ len + 15 := by
  have pad := paddingLen_le len
  unfold maxMsgTx at short
  unfold formatLength u16
  split <;> omega

theorem formatWrites_inside (reserved : headerLen + 15 + freshLen ≤ cfg.reservedLen)
    (tx : (cfg.msgCfg m).isTx = true) (fits : len ≤ (cfg.msgCfg m).length)
    (short : len < maxMsgTx) (i : Nat) : WritesInside cfg (formatWrites cfg i m len) := by
  have pad := paddingLen_le len
  have grown := formatLength_le cfg m short
  unfold headerLen freshLen at reserved
  intro j k offset count member
  unfold formatWrites headerLen freshLen at member
  have inside : k = m ∧ offset + count ≤ (cfg.msgCfg m).length + cfg.reservedLen := by
    split at member
    · split at member
      · simp at member
        omega
      · simp at member
        omega
    · simp at member
      omega
  rw [inside.1]
  exact ⟨tx, inside.2⟩

theorem trailer_inside (reserved : headerLen + 15 + freshLen ≤ cfg.reservedLen)
    (tx : (cfg.msgCfg m).isTx = true) (fits : len ≤ (cfg.msgCfg m).length + 15)
    (short : (cfg.msgCfg m).length < maxMsgTx) (i ticket : Nat) (data cmac wire : List UInt8) :
    WritesInside cfg [.authenticated ticket data cmac, .written i m (u16 (len + headerLen)) 1,
      .written i m (u16 (len + headerLen) + 1) cmacLen, .sealed ticket wire] := by
  unfold headerLen freshLen at reserved
  unfold maxMsgTx at short
  intro j k offset count member
  unfold headerLen cmacLen u16 at member
  have inside : k = m ∧ offset + count ≤ (cfg.msgCfg m).length + cfg.reservedLen := by
    simp at member
    omega
  rw [inside.1]
  exact ⟨tx, inside.2⟩

theorem formatWrites_written {i : Nat} {e : Event} (member : e ∈ formatWrites cfg i m len) :
    ∃ offset count, e = .written i m offset count := by
  unfold formatWrites at member
  split at member
  · split at member
    · simp at member
      rcases member with h | h | h | h | h | h <;> exact ⟨_, _, h⟩
    · simp at member
      rcases member with h | h | h | h <;> exact ⟨_, _, h⟩
  · simp at member
    rcases member with h | h | h <;> exact ⟨_, _, h⟩

end Lengths

theorem countP_formatting (ticket k i m len : Nat) :
    (formatWrites cfg i m len ++ [Event.formatted ticket len]).countP (isFormatted k) =
      if ticket = k then 1 else 0 := by
  have none : (formatWrites cfg i m len).countP (isFormatted k) = 0 := by
    apply countP_unformatted
    intro length member
    obtain ⟨_, _, same⟩ := formatWrites_written member
    cases same
  rw [List.countP_append, none, List.countP_singleton]
  simp [isFormatted]

section Work
variable {i len' : Nat} {e' : Entry} {buf' : Mem} {events : List Event}

theorem work_fit (reserved : headerLen + 15 + freshLen ≤ cfg.reservedLen)
    (queued : Queued cfg s.toCore) (fit : Fit cfg s.toCore) (atFront : AtFront cfg s i)
    (worked : Worked cfg env s i t e' buf' len' events) : Fit cfg t.toCore := by
  obtain ⟨work, becomes⟩ := worked
  have before := fit.entries i atFront.bound _ (front_mem atFront.filled)
  have bound := cfg.length_lt _ atFront.own.msgIdx
  have log : t.log = s.log ++ events := by rw [becomes]
  have next : t.nextTicket = s.nextTicket := by rw [becomes]; rfl
  have length : (t.msgTxInfo i (s.front i).msgIdx).length = len' := by
    rw [becomes]
    simp
  have single : ∀ j < cfg.numLlTx, (t.keys j).Pairwise fun k l => k.1 ≠ l.1 := by
    intro j bound
    have keys : t.keys j = s.keys j := by
      rw [becomes]
      exact keys_setFront atFront.filled work.key j
    rw [keys]
    exact fit.single j bound
  -- only the front entry and what is logged of it need a look
  have entries : (∀ k, k ≠ (s.front i).ticket → ∀ n, .formatted k n ∉ events) →
      EntryFit cfg t.toCore i e' →
        ∀ j < cfg.numLlTx, ∀ e ∈ t.entries j, EntryFit cfg t.toCore j e := by
    intro unformatted front j bound e member
    have queue : t.queue = (s.setFront i e').queue := by rw [becomes]; rfl
    have info : t.msgTxInfo = (s.setInfo i (s.front i).msgIdx
        { s.msgTxInfo i (s.front i).msgIdx with length := len' }).msgTxInfo := by rw [becomes]; rfl
    rcases work_others queued fit atFront queue info bound member with
      ⟨rfl, rfl⟩ | ⟨old, other, same⟩
    · exact front
    · exact (fit.entries j bound e old).carry rfl rfl same log
        (countP_unformatted (unformatted _ other))
  have plainly : (∀ k n, .formatted k n ∉ events) → WritesInside cfg events →
      EntryFit cfg t.toCore i e' → Fit cfg t.toCore := by
    intro unformatted stores front
    exact fit.extend events log (Nat.le_of_eq next.symm) stores unformatted single
      (entries (fun k _ => unformatted k) front)
  have key := work.key
  cases work with
  | unfresh _ _ =>
      apply plainly (by simp) (by simp [WritesInside])
      exact before.carry rfl rfl length log rfl
  | formatted fresh truncFresh waiting given =>
      obtain ⟨raw, accepted, never⟩ := before.raw waiting
      have short : (s.msgTxInfo i (s.front i).msgIdx).length < maxMsgTx := by omega
      have grown := formatLength_le cfg (s.front i).msgIdx short
      have stores := formatWrites_inside reserved before.tx raw short i
      have mine : ∀ k n, .formatted k n ∈ formatWrites cfg i (s.front i).msgIdx
          (s.msgTxInfo i (s.front i).msgIdx).length ++ [.formatted (s.front i).ticket
            (s.msgTxInfo i (s.front i).msgIdx).length] →
          k = (s.front i).ticket ∧ n = (s.msgTxInfo i (s.front i).msgIdx).length := by
        intro k n member
        rcases List.mem_append.mp member with write | own
        · obtain ⟨_, _, same⟩ := formatWrites_written write
          cases same
        · simpa using own
      refine ⟨?_, ?_, ?_, single, entries ?_ ?_⟩
      · intro j m offset count member
        rw [log, List.mem_append, List.mem_append] at member
        rcases member with old | write | own
        · exact fit.writes j m offset count old
        · exact stores j m offset count write
        · simp at own
      · intro k n member
        rw [log] at member ⊢
        rw [List.countP_append, countP_formatting]
        rcases List.mem_append.mp member with old | now
        · obtain ⟨⟨j, m, payload, taken, size⟩, once⟩ := fit.formats k n old
          have other : (s.front i).ticket ≠ k := by
            intro same
            rw [same, once] at never
            cases never
          rw [once, if_neg other]
          exact ⟨⟨j, m, payload, List.mem_append_left _ taken, size⟩, rfl⟩
        · obtain ⟨rfl, rfl⟩ := mine k n now
          obtain ⟨payload, taken, size⟩ := accepted
          rw [never, if_pos rfl]
          exact ⟨⟨i, _, payload, List.mem_append_left _ taken, size⟩, rfl⟩
      · intro k n member
        rw [next]
        rw [log, List.mem_append] at member
        rcases member with old | now
        · exact fit.numbered k n old
        · rw [(mine k n now).1]
          exact atFront.own.ticket
      · intro k other n member
        exact other (mine k n member).1
      · refine ⟨before.tx, ?_, ?_⟩
        · intro queued
          unfold formatEntry at queued
          split at queued <;> cases queued
        · intro _
          have size : (t.msgTxInfo i (formatEntry cfg truncFresh (s.front i)).msgIdx).length =
            formatLength cfg (s.front i).msgIdx (s.msgTxInfo i (s.front i).msgIdx).length := length
          rw [size]
          exact Nat.le_trans grown (Nat.add_le_add_right raw 15)
  | encrypted payload fresh cipher answer ready =>
      apply plainly (by simp) (by simp [WritesInside])
      have padded := before.padded (Or.inl ready)
      have msgIdx : (encryptionResult cfg answer.1 (s.front i)).msgIdx = (s.front i).msgIdx :=
        congrArg Prod.fst key
      refine ⟨by rw [msgIdx]; exact before.tx, ?_, ?_⟩
      · intro queued
        unfold encryptionResult at queued
        split at queued <;> simp_all
      · intro _
        rw [msgIdx, length]
        exact padded
  | unauthenticated data cmacValue answer e' ready whole said read failed =>
      apply plainly (by simp) (by simp [WritesInside])
      have padded := before.padded (Or.inr ready)
      have msgIdx : e'.msgIdx = (s.front i).msgIdx := congrArg Prod.fst key
      refine ⟨by rw [msgIdx]; exact before.tx, ?_, ?_⟩
      · intro queued
        rcases failed with ⟨_, rfl⟩ | ⟨_, rfl⟩ | ⟨_, rfl⟩ <;> simp_all
      · intro _
        rw [msgIdx, length]
        exact padded
  | sealed data cmacValue answer offset buf' len' ready whole said read taken place trailer grown =>
      apply plainly (by simp) _ (before.past key (by simp))
      rw [place]
      exact trailer_inside reserved before.tx (before.padded (Or.inr ready)) bound i _ _ _ _

end Work

section Stored
variable {args : TransmitArgs} {m : Nat}

theorem storeData_length (cfg : Config) (args : TransmitArgs) (m : Nat) (s : State) (j k : Nat) :
    ((storeData cfg args m s).msgTxInfo j k).length =
      if j = otherEndIdxToUse cfg m args.otherEndIdx ∧ k = m then
        u16 (args.length + args.length2)
      else (s.msgTxInfo j k).length := by
  simp only [storeData]
  split
  · simp only [State.setInfo_msgTxInfo, State.store_msgTxInfo, Function.update_apply]
    grind
  · simp only [State.setInfo_msgTxInfo, State.store_msgTxInfo, Function.update_apply]
    grind

theorem requestWrites_inside (reserved : headerLen + 15 + freshLen ≤ cfg.reservedLen)
    (tx : (cfg.msgCfg m).isTx = true) (sum : args.length + args.length2 < 65536)
    (fits : u16 (args.length + args.length2) ≤ (cfg.msgCfg m).length) :
    WritesInside cfg (requestWrites cfg args m) := by
  unfold headerLen freshLen at reserved
  unfold u16 at fits
  intro j k offset count member
  unfold requestWrites headerLen at member
  have inside : k = m ∧ offset + count ≤ (cfg.msgCfg m).length + cfg.reservedLen := by
    split at member
    · simp at member
      omega
    · simp at member
      omega
  rw [inside.1]
  exact ⟨tx, inside.2⟩

theorem payload_length (args : TransmitArgs) :
    args.payload.length = args.length + args.length2 := by
  unfold TransmitArgs.payload
  split
  · simp
  · simp
    omega

theorem held_none {s : Core} {i : Nat} {e : Entry} (none : held s i m = 0)
    (member : e ∈ s.entries i) : e.msgIdx ≠ m := by
  have absent := List.countP_eq_zero.mp none e member
  simpa using absent

theorem stored_fit (reserved : headerLen + 15 + freshLen ≤ cfg.reservedLen)
    (fit : Fit cfg s.toCore) (fresh : StoresFresh cfg s (.transmit args))
    (checked : checkTransmit cfg args = .ok m)
    (usable : bufferUsable cfg args.otherEndIdx m args.overwriteOldData s = true)
    (becomes : t.toCore = (acceptData cfg args m s).1.toCore) : Fit cfg t.toCore := by
  obtain ⟨tx, sum, none⟩ := fresh _ (storing_transmit checked usable)
  simp only at tx sum none
  have ok := checkTransmit_ok checked
  have stores := requestWrites_inside reserved tx sum ok.2.2
  -- the entries of other messages keep their lengths
  have others : ∀ u : Core, (∀ j k, (u.msgTxInfo j k).length =
      ((storeData cfg args m s).msgTxInfo j k).length) → ∀ events, u.log = s.log ++ events →
      (∀ k n, .formatted k n ∉ events) →
        ∀ j < cfg.numLlTx, ∀ e ∈ s.entries j, EntryFit cfg u j e := by
    intro u length events log unformatted j bound e member
    apply (fit.entries j bound e member).carry rfl rfl _ log (countP_unformatted (unformatted _))
    rw [length, storeData_length]
    split
    · rename_i same
      rw [same.1] at member
      exact absurd same.2 (held_none none member)
    · rfl
  have unformatted : ∀ k n, Event.formatted k n ∉ requestWrites cfg args m := by
    intro k n member
    exact requestWrites_all (P := fun e => e ≠ .formatted k n) (fun _ _ _ _ => nofun) cfg args m
      _ member rfl
  cases room : (s.queue (otherEndIdxToUse cfg m args.otherEndIdx)).isFull with
  | true =>
      rw [acceptData_full room] at becomes
      have queue : t.queue = s.queue := by rw [becomes, storeData_queue]
      apply fit.extend (requestWrites cfg args m) _ _ stores unformatted
      · intro i bound
        rw [keys_eq (s := s.toCore) (congrFun queue i)]
        exact fit.single i bound
      · intro i bound e member
        rw [becomes]
        apply others _ (fun _ _ => rfl) _ (storeData_log cfg args m s) unformatted i bound
        rw [Core.entries, ← queue]
        exact member
      · rw [becomes, storeData_log]
      · rw [becomes, storeData_nextTicket]
  | false =>
      rw [acceptData_room room] at becomes
      have log : t.log = s.log ++ (requestWrites cfg args m ++ [.accepted s.nextTicket
          (otherEndIdxToUse cfg m args.otherEndIdx) m args.payload]) := by
        rw [becomes, storeData_log, List.append_assoc]
      have length : ∀ j k, (t.msgTxInfo j k).length =
          ((storeData cfg args m s).msgTxInfo j k).length := by
        intro j k
        rw [becomes]
        simp only [State.setInfo_msgTxInfo, State.setQueue_msgTxInfo, Function.update_apply]
        grind
      have queue : t.queue = Function.update s.queue (otherEndIdxToUse cfg m args.otherEndIdx)
          ((s.queue (otherEndIdxToUse cfg m args.otherEndIdx)).push
            (newEntry cfg s.toCore (otherEndIdxToUse cfg m args.otherEndIdx) m)) := by
        rw [becomes]
        simp only [State.setInfo_queue, State.setQueue_queue, storeData_queue]
      have still : ∀ k n, Event.formatted k n ∉ requestWrites cfg args m ++ [.accepted s.nextTicket
          (otherEndIdxToUse cfg m args.otherEndIdx) m args.payload] := by
        intro k n member
        simp [unformatted] at member
      have known : ∀ j < cfg.numLlTx, ∀ e ∈ s.entries j, EntryFit cfg t.toCore j e :=
        others t.toCore length _ log still
      generalize place : otherEndIdxToUse cfg m args.otherEndIdx = target at *
      have here : t.entries target = s.entries target ++ [newEntry cfg s.toCore target m] := by
        simp [Core.entries, queue, Ring.push_toList _ _ room]
      have elsewhere : ∀ j, j ≠ target → t.entries j = s.entries j := by
        intro j other
        simp [Core.entries, queue, other]
      have size : (t.msgTxInfo target m).length = u16 (args.length + args.length2) := by
        rw [length, storeData_length, if_pos ⟨place.symm, rfl⟩]
      have first : EntryFit cfg t.toCore target (newEntry cfg s.toCore target m) := by
        refine ⟨tx, ?_, ?_⟩
        · intro _
          refine ⟨Nat.le_trans (Nat.le_of_eq size) ok.2.2, ⟨args.payload, ?_, ?_⟩, ?_⟩
          · rw [log]
            simp [newEntry]
          · rw [payload_length]
            exact ((Nat.mod_eq_of_lt sum).symm.trans size.symm)
          · apply countP_unformatted
            intro n member
            rw [log, List.mem_append] at member
            rcases member with old | now
            · exact absurd (fit.numbered _ _ old) (Nat.lt_irrefl _)
            · exact still _ _ now
        · rintro (ready | ready) <;> cases ready
      apply fit.extend _ log _ _ still
      · intro i bound
        by_cases same : i = target
        · subst same
          rw [Core.keys, here, List.map_append, List.pairwise_append]
          refine ⟨fit.single i bound, List.pairwise_singleton _ _, ?_⟩
          intro k old l last
          obtain ⟨e, member, rfl⟩ := List.mem_map.mp old
          rw [List.mem_singleton.mp last]
          exact held_none none member
        · rw [Core.keys, elsewhere i same]
          exact fit.single i bound
      · intro i bound e member
        by_cases same : i = target
        · subst same
          rw [here, List.mem_append, List.mem_singleton] at member
          rcases member with old | rfl
          · exact known i bound e old
          · exact first
        · rw [elsewhere i same] at member
          exact known i bound e member
      · rw [becomes]
        exact Nat.le_succ _
      · intro j k offset count member
        rcases List.mem_append.mp member with write | other
        · exact stores j k offset count write
        · simp at other

end Stored

theorem move_fit (reserved : headerLen + 15 + freshLen ≤ cfg.reservedLen)
    (move : Move cfg env (StoresFresh cfg) s t) (queued : Queued cfg s.toCore)
    (fit : Fit cfg s.toCore) : Fit cfg t.toCore := by
  rcases move.plain_or with plain | ⟨i, e', buf', len', events, atFront, worked⟩ |
    ⟨args, m, fresh, checked, usable, becomes⟩
  · exact fit.plain plain
  · exact work_fit reserved queued fit atFront worked
  · exact stored_fit reserved fit fresh checked usable becomes

theorem start_fit (cfg : Config) (s : State) : Fit cfg (start cfg s).toCore := by
  have empty : ∀ i < cfg.numLlTx, (start cfg s).entries i = [] := by
    intro i bound
    simp [Core.entries, start, init, bound]
  refine ⟨?_, ?_, ?_, ?_, ?_⟩
  · intro i m offset count member
    cases member
  · intro ticket length member
    cases member
  · intro ticket length member
    cases member
  · intro i bound
    rw [Core.keys, empty i bound]
    exact List.Pairwise.nil
  · intro i bound e member
    rw [empty i bound] at member
    cases member

/-- As long as every stored request is for a transmit message that is not queued, with a sum
of lengths that fits `uint16`, every store stays inside its buffer and every accepted message
is formatted at most once, from its own length. -/
theorem stores_inside_buffers (cfg : Config) (env : Env) (s : State) (ops : List Op)
    (reserved : headerLen + 15 + freshLen ≤ cfg.reservedLen)
    (fresh : Guarded (step cfg env) (StoresFresh cfg) (start cfg s) ops) :
    WritesInside cfg (run (step cfg env) (start cfg s) ops).log ∧
      FormatsRawOnce (run (step cfg env) (start cfg s) ops).log := by
  have fit : Fit cfg (run (step cfg env) (start cfg s) ops).toCore := by
    apply run_moves (Fit cfg) _ (start_linked s) (start_fit cfg s) fresh
    intro u v move queued fit
    exact move_fit reserved move queued fit
  exact ⟨fit.writes, fit.formats⟩

theorem stores_inside_buffers_sample :
    WritesInside (sampleConfig .masterMcu) (run (step (sampleConfig .masterMcu) promptEnv)
        (start (sampleConfig .masterMcu) blank) sampleRun).log ∧
      FormatsRawOnce (run (step (sampleConfig .masterMcu) promptEnv)
        (start (sampleConfig .masterMcu) blank) sampleRun).log :=
  stores_inside_buffers _ promptEnv blank sampleRun (by decide) (by decide)

def wrappedRequest : TransmitArgs :=
  ⟨0, 0x10, 65535, some fun _ => 5, 2, some fun _ => 6, false⟩

theorem wrapped_length_overruns :
    ¬ (WritesInside (sampleConfig .masterMcu) (run (step (sampleConfig .masterMcu) promptEnv)
        (start (sampleConfig .masterMcu) blank) [.transmit wrappedRequest]).log ∧
      FormatsRawOnce (run (step (sampleConfig .masterMcu) promptEnv)
        (start (sampleConfig .masterMcu) blank) [.transmit wrappedRequest]).log) := by
  intro both
  have checked : checkTransmit (sampleConfig .masterMcu) wrappedRequest = .ok 0 := by rfl
  have usable : bufferUsable (sampleConfig .masterMcu) wrappedRequest.otherEndIdx 0
      wrappedRequest.overwriteOldData (start (sampleConfig .masterMcu) blank) = true := by rfl
  have room : ((start (sampleConfig .masterMcu) blank).queue
      (otherEndIdxToUse (sampleConfig .masterMcu) 0 wrappedRequest.otherEndIdx)).isFull =
        false := by
    rfl
  have member : Event.written 0 0 3 65535 ∈ (run (step (sampleConfig .masterMcu) promptEnv)
      (start (sampleConfig .masterMcu) blank) [.transmit wrappedRequest]).log := by
    simp only [run_cons, run_nil, step, transmit, checked, usable, if_true]
    rw [acceptData_room room, storeData_log]
    simp [requestWrites, otherEndIdxToUse, sampleConfig, sampleMsg, wrappedRequest, headerLen]
  have inside := (both.1 0 0 3 65535 member).2
  simp [sampleConfig, sampleMsg] at inside

end AnchorNode.AnchorCom.Tx
