import AnchorNode.AnchorCom.Composition

/-! What holds between any two steps as long as the buffers that are in use are left alone, and
how each part of it is carried over a change. -/

namespace AnchorNode.AnchorCom.Tx

open AnchorNode.Lib

variable {cfg : Config} {env : Env}

def Sealed (cfg : Config) (env : Env) (s : Core) (i : Nat) (e : Entry) : Prop :=
  e.queueState.isSending = true ∧ ∃ wire, Ready cfg env s.log e.ticket (s.buffer i e.msgIdx)
    (s.msgTxInfo i e.msgIdx).length wire

/-- What is known of an open transmission: its string is in the buffer it is copied from, which
no entry is going to change. -/
structure Open (cfg : Config) (env : Env) (s : Core) (c i : Nat) (window : Window) : Prop where
  ready : ∃ wire, Ready cfg env s.log window.ticket
      (s.buffer (sourceOf cfg c i) (s.chTxInfo c i).txMsgIdx)
      (s.msgTxInfo (sourceOf cfg c i) (s.chTxInfo c i).txMsgIdx).length wire ∧
    wire.length = window.length ∧ window.taken <+: wire
  offset : (s.chTxInfo c i).txOffset = window.taken.length
  source : sourceOf cfg c i < cfg.numLlTx
  entries : ∀ e ∈ s.entries (sourceOf cfg c i), e.msgIdx = (s.chTxInfo c i).txMsgIdx →
    e.queueState.isSending = true

structure FlagsAt (cfg : Config) (env : Env) (s : Core) (i : Nat) : Prop where
  flagged : ∀ c < cfg.tpChMax, s.flag c i = true → isImcIndex cfg i ∨
    (s.queue i).isEmpty = false ∧ (s.front i).channel = c ∧ Sealed cfg env s i (s.front i)
  done : (s.queue i).isEmpty = false → (s.front i).queueState = .transDone →
    ∀ c < cfg.tpChMax, s.flag c i = false
  imc : isImcIndex cfg i → (s.queue i).isEmpty = true

structure Kept (cfg : Config) (env : Env) (s : Core) : Prop where
  single : ∀ i < cfg.numLlTx, (s.keys i).Pairwise fun k l => k.1 ≠ l.1
  stages : ∀ i < cfg.numLlTx, ∀ e ∈ s.entries i, e.queueState ≠ .encReady →
    Stage.holds cfg env s.log i e (s.buffer i e.msgIdx) (s.msgTxInfo i e.msgIdx).length
  sealed : ∀ i < cfg.numLlTx, ∀ e ∈ s.entries i,
    e.queueState = .transReady ∨ e.queueState = .transRunning → Sealed cfg env s i e
  flags : ∀ i < cfg.numLlTx, FlagsAt cfg env s i
  windows : ∀ c < cfg.tpChMax, ∀ i < cfg.numLlTx, ∀ window ∈ windowsOf cfg s.log c i,
    Open cfg env s c i window
  sliced : Sliced cfg env s.log

section Carry
variable {s t : Core} {i : Nat} {e f : Entry} {events : List Event}

theorem key_msgIdx (key : e.key = f.key) : e.msgIdx = f.msgIdx := congrArg Prod.fst key

theorem key_ticket (key : e.key = f.key) : e.ticket = f.ticket :=
  congrArg (fun k : Nat × Nat × Nat × Nat => k.2.2.2) key

theorem key_channel (key : e.key = f.key) : e.channel = f.channel :=
  congrArg (fun k : Nat × Nat × Nat × Nat => k.2.2.1) key

structure Spared (s t : Core) (i m : Nat) (events : List Event) : Prop where
  log : t.log = s.log ++ events
  buffer : t.buffer i m = s.buffer i m
  length : (t.msgTxInfo i m).length = (s.msgTxInfo i m).length

theorem Sealed.carry (before : Sealed cfg env s i f) (spared : Spared s t i f.msgIdx events)
    (key : e.key = f.key) (sending : e.queueState.isSending = true) : Sealed cfg env t i e := by
  obtain ⟨_, wire, ready⟩ := before
  refine ⟨sending, wire, ?_⟩
  rw [spared.log, key_msgIdx key, spared.buffer, spared.length, key_ticket key]
  exact ready.later events

theorem Stage.carry
    (before : Stage.holds cfg env s.log i f (s.buffer i f.msgIdx)
      (s.msgTxInfo i f.msgIdx).length)
    (spared : Spared s t i f.msgIdx events) (key : e.key = f.key)
    (truncFresh : e.truncFresh = f.truncFresh) (state : e.queueState = f.queueState) :
    Stage.holds cfg env t.log i e (t.buffer i e.msgIdx) (t.msgTxInfo i e.msgIdx).length := by
  have later := Stage.holds_later before events
  rw [spared.log, key_msgIdx key, spared.buffer, spared.length]
  unfold Stage.holds at later ⊢
  rw [state, key_ticket key, key_msgIdx key]
  cases waiting : f.queueState with
  | cmacReady =>
      rw [waiting] at later
      obtain ⟨payload, msg, fresh, composed, lays⟩ := later
      exact ⟨payload, msg, fresh, composed, lays.carry truncFresh (key_msgIdx key)⟩
  | encReady =>
      rw [waiting] at later
      obtain ⟨payload, msg, fresh, accepted, secret, pduId, text, lays⟩ := later
      exact ⟨payload, msg, fresh, accepted, secret, pduId, text,
        lays.carry truncFresh (key_msgIdx key)⟩
  | queued =>
      rw [waiting] at later
      exact later
  | _ => trivial

theorem Open.carry {c : Nat} {window : Window} (before : Open cfg env s c i window)
    (spared : Spared s t (sourceOf cfg c i) (s.chTxInfo c i).txMsgIdx events)
    (channel : (t.chTxInfo c i).txMsgIdx = (s.chTxInfo c i).txMsgIdx ∧
      (t.chTxInfo c i).txOffset = (s.chTxInfo c i).txOffset)
    (entries : ∀ e ∈ t.entries (sourceOf cfg c i), e.msgIdx = (s.chTxInfo c i).txMsgIdx →
      e.queueState.isSending = true) : Open cfg env t c i window := by
  obtain ⟨wire, ready, rest⟩ := before.ready
  refine ⟨⟨wire, ?_, rest⟩, channel.2.trans before.offset, before.source, ?_⟩
  · rw [spared.log, channel.1, spared.buffer, spared.length]
    exact ready.later events
  · intro e member same
    exact entries e member (same.trans channel.1)

theorem FlagsAt.idle (clear : ∀ c < cfg.tpChMax, t.flag c i = false)
    (imc : isImcIndex cfg i → (t.queue i).isEmpty = true) : FlagsAt cfg env t i where
  flagged := by
    intro c bound set
    rw [clear c bound] at set
    cases set
  done := fun _ _ => clear
  imc := imc

theorem FlagsAt.carry (before : FlagsAt cfg env s i)
    (flags : ∀ c, t.flag c i = true → s.flag c i = true)
    (filled : (t.queue i).isEmpty = (s.queue i).isEmpty)
    (front : (s.queue i).isEmpty = false → (t.front i).channel = (s.front i).channel ∧
      ((t.front i).queueState = .transDone → (s.front i).queueState = .transDone) ∧
      (Sealed cfg env s i (s.front i) → Sealed cfg env t i (t.front i))) :
    FlagsAt cfg env t i where
  flagged := by
    intro c bound set
    rcases before.flagged c bound (flags c set) with imc | ⟨own, channel, ready⟩
    · exact Or.inl imc
    · obtain ⟨same, _, carried⟩ := front own
      exact Or.inr ⟨filled.trans own, same.trans channel, carried ready⟩
  done := by
    intro own state c bound
    rw [filled] at own
    have clear := before.done own ((front own).2.1 state) c bound
    rw [← Bool.not_eq_true] at clear ⊢
    exact fun set => clear (flags c set)
  imc := by
    intro imc
    exact filled.trans (before.imc imc)

theorem FlagsAt.channel (flags : FlagsAt cfg env s i) (filled : (s.queue i).isEmpty = false)
    {c : Nat} (bound : c < cfg.tpChMax) (set : s.flag c i = true) :
    (s.front i).channel = c ∧ Sealed cfg env s i (s.front i) := by
  rcases flags.flagged c bound set with imc | ⟨_, own⟩
  · rw [flags.imc imc] at filled
    cases filled
  · exact own

theorem FlagsAt.ordinary (flags : FlagsAt cfg env s i) (filled : (s.queue i).isEmpty = false) :
    ¬ isImcIndex cfg i := by
  intro imc
  rw [flags.imc imc] at filled
  cases filled

theorem FlagsAt.cleared (flags : FlagsAt cfg env s i) (filled : (s.queue i).isEmpty = false)
    (same : ∀ c, t.flag c i = true → s.flag c i = true)
    (clear : t.flag (s.front i).channel i = false) : ∀ c < cfg.tpChMax, t.flag c i = false := by
  intro c bound
  rw [← Bool.not_eq_true]
  intro set
  have own := (flags.channel filled bound (same c set)).1
  rw [← own, clear] at set
  cases set

theorem FlagsAt.waiting (flags : FlagsAt cfg env s i) (filled : (s.queue i).isEmpty = false)
    (waiting : (s.front i).queueState.isSending = false) :
    ∀ c < cfg.tpChMax, s.flag c i = false := by
  intro c bound
  rw [← Bool.not_eq_true]
  intro set
  have sending := (flags.channel filled bound set).2.1
  rw [waiting] at sending
  cases sending

end Carry

section Untouched
variable {s t : Core} {events : List Event}

/-- The entry `e` is what has become of `f`: it has kept its state, or is being sent. -/
structure Follows (cfg : Config) (env : Env) (s : Core) (i : Nat) (f e : Entry) : Prop where
  key : e.key = f.key
  truncFresh : e.truncFresh = f.truncFresh
  state : e.queueState = f.queueState ∨ e.queueState.isSending = true ∧
    (e.queueState ≠ .transDone → Sealed cfg env s i f)

theorem Follows.refl (cfg : Config) (env : Env) (s : Core) (i : Nat) (f : Entry) :
    Follows cfg env s i f f := ⟨rfl, rfl, Or.inl rfl⟩

theorem Follows.sending {i : Nat} {f e : Entry} (follows : Follows cfg env s i f e)
    (before : f.queueState.isSending = true) : e.queueState.isSending = true := by
  rcases follows.state with same | ⟨sending, _⟩
  · rw [same]
    exact before
  · exact sending

structure Untouched (cfg : Config) (env : Env) (s t : Core) (events : List Event) : Prop where
  log : t.log = s.log ++ events
  buffer : t.buffer = s.buffer
  length : ∀ i m, (t.msgTxInfo i m).length = (s.msgTxInfo i m).length
  keys : ∀ i, (t.keys i).Sublist (s.keys i)
  entries : ∀ i, ∀ e ∈ t.entries i, ∃ f ∈ s.entries i, Follows cfg env s i f e

theorem Untouched.spared (untouched : Untouched cfg env s t events) (i m : Nat) :
    Spared s t i m events :=
  ⟨untouched.log, congrFun (congrFun untouched.buffer i) m, untouched.length i m⟩

theorem Untouched.open (untouched : Untouched cfg env s t events) {c i : Nat} {window : Window}
    (before : Open cfg env s c i window)
    (channel : (t.chTxInfo c i).txMsgIdx = (s.chTxInfo c i).txMsgIdx ∧
      (t.chTxInfo c i).txOffset = (s.chTxInfo c i).txOffset) :
    Open cfg env t c i window := by
  apply before.carry (untouched.spared _ _) channel
  intro e member same
  obtain ⟨f, old, follows⟩ := untouched.entries _ e member
  exact follows.sending (before.entries f old ((key_msgIdx follows.key).symm.trans same))

theorem Untouched.kept (untouched : Untouched cfg env s t events) (kept : Kept cfg env s)
    (flags : ∀ i < cfg.numLlTx, FlagsAt cfg env t i)
    (windows : ∀ c < cfg.tpChMax, ∀ i < cfg.numLlTx, ∀ window ∈ windowsOf cfg t.log c i,
      Open cfg env t c i window)
    (sliced : Sliced cfg env t.log) : Kept cfg env t := by
  refine ⟨?_, ?_, ?_, flags, windows, sliced⟩
  · intro i bound
    exact (kept.single i bound).sublist (untouched.keys i)
  · intro i bound e member unready
    obtain ⟨f, old, follows⟩ := untouched.entries i e member
    rcases follows.state with same | ⟨sending, _⟩
    · have before := kept.stages i bound f old (same ▸ unready)
      exact Stage.carry before (untouched.spared i f.msgIdx) follows.key follows.truncFresh same
    · unfold Stage.holds
      cases state : e.queueState with
      | transReady => trivial
      | transRunning => trivial
      | transDone => trivial
      | _ => simp [state, TxQueueState.isSending] at sending
  · intro i bound e member running
    have sending : e.queueState.isSending = true := by
      rcases running with state | state <;> rw [state] <;> rfl
    obtain ⟨f, old, follows⟩ := untouched.entries i e member
    rcases follows.state with same | ⟨_, moved⟩
    · have before := kept.sealed i bound f old (same ▸ running)
      exact before.carry (untouched.spared i f.msgIdx) follows.key sending
    · have undone : e.queueState ≠ .transDone := by
        rcases running with state | state <;> rw [state] <;> decide
      exact (moved undone).carry (untouched.spared i f.msgIdx) follows.key sending

theorem Untouched.aside (untouched : Untouched cfg env s t events) (kept : Kept cfg env s)
    (aside : ∀ e ∈ events, e.isAside = true)
    (channels : ∀ c i, (t.chTxInfo c i).txMsgIdx = (s.chTxInfo c i).txMsgIdx ∧
      (t.chTxInfo c i).txOffset = (s.chTxInfo c i).txOffset)
    (flags : ∀ i < cfg.numLlTx, FlagsAt cfg env t i) : Kept cfg env t := by
  apply untouched.kept kept flags
  · intro c bound i peer window still
    rw [untouched.log] at still
    have before := windowsOf_aside s.log aside still
    exact untouched.open (kept.windows c bound i peer window before) (channels c i)
  · rw [untouched.log]
    exact kept.sliced.aside aside

end Untouched

section Changes
variable {s t : State} {u : Core} {i : Nat} {events : List Event}

theorem Untouched.of_queue (becomes : t.toCore = u) (log : u.log = s.log ++ events)
    (buffer : u.buffer = s.buffer)
    (length : ∀ i m, (u.msgTxInfo i m).length = (s.msgTxInfo i m).length)
    (queue : u.queue = s.queue) : Untouched cfg env s.toCore t.toCore events := by
  rw [becomes]
  refine ⟨log, buffer, length, ?_, ?_⟩
  · intro j
    rw [keys_eq (congrFun queue j)]
  · intro j e member
    refine ⟨e, ?_, Follows.refl cfg env s.toCore j e⟩
    rw [Core.entries, ← queue]
    exact member

theorem Untouched.of_front {e : Entry} (becomes : t.toCore = u)
    (filled : (s.queue i).isEmpty = false) (log : u.log = s.log ++ events)
    (buffer : u.buffer = s.buffer)
    (length : ∀ i m, (u.msgTxInfo i m).length = (s.msgTxInfo i m).length)
    (queue : u.queue = (s.setFront i e).queue)
    (follows : Follows cfg env s.toCore i (s.front i) e) :
    Untouched cfg env s.toCore t.toCore events := by
  rw [becomes]
  refine ⟨log, buffer, length, ?_, ?_⟩
  · intro j
    rw [keys_eq (s := (s.setFront i e).toCore) (congrFun queue j),
      keys_setFront filled follows.key j]
  · intro j f member
    have member : f ∈ (s.setFront i e).entries j := by
      rw [Core.entries, ← queue]
      exact member
    rcases entries_replaced filled member with ⟨rfl, rfl⟩ | ⟨old, _⟩
    · exact ⟨s.front j, front_mem filled, follows⟩
    · exact ⟨f, old, Follows.refl cfg env s.toCore j f⟩

theorem Untouched.of_pop (becomes : t.toCore = u) (filled : (s.queue i).isEmpty = false)
    (log : u.log = s.log ++ events) (buffer : u.buffer = s.buffer)
    (length : ∀ i m, (u.msgTxInfo i m).length = (s.msgTxInfo i m).length)
    (queue : u.queue = (s.setQueue i (s.queue i).pop).queue) :
    Untouched cfg env s.toCore t.toCore events := by
  rw [becomes]
  refine ⟨log, buffer, length, ?_, ?_⟩
  · intro j
    rw [keys_eq (s := (s.setQueue i (s.queue i).pop).toCore) (congrFun queue j)]
    exact keys_pop filled j
  · intro j f member
    refine ⟨f, entries_popped filled ?_, Follows.refl cfg env s.toCore j f⟩
    rw [Core.entries, ← queue]
    exact member

end Changes

end AnchorNode.AnchorCom.Tx
