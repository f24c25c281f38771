import AnchorNode.CanDrv.Elements

/-! What the functions of the driver promise each other: the invariant of the driver, what a context
relies on for the handles it has locked and the frames it takes out, and what it guarantees. -/

namespace AnchorNode.CanDrv

open AnchorNode.Lib

variable {D : Type}

/-- Where frames wait: the TX event FIFO, and the stores of received frames. -/
inductive Lane where
  | tx
  | rx (store : RxStore)

namespace Lane

/-- What comes in, what is reported of it, and what the controller shows of it. -/
abbrev Arrival : Lane → Type
  | .tx => Request × BusFrame
  | .rx _ => RxFrame

abbrev Report : Lane → Type
  | .tx => Nat
  | .rx _ => Mailbox × RxPdu

abbrev Shown : Lane → Type
  | .tx => Nat
  | .rx _ => RxFrame

def flag : Lane → Word
  | .tx => irTefn
  | .rx store => newFlag store

end Lane

structure TxPart where
  requested : Nat → Bool
  element : Nat → Nat → Word
  swPduHandle : Nat → Nat
  requests : List Request
  requestedFor : Nat → Request
  completed : List (Request × BusFrame)
  confirmed : List Nat

section Definitions
variable (cfg : Config) (view : D → View)

def inbox : (lane : Lane) → Inbox (State D) lane.Arrival lane.Report lane.Shown
  | .tx => txInbox view
  | .rx store => rxInbox cfg view store

def processor : Lane → Context
  | .tx => if cfg.canTxProcessing = .interrupt then .isr else .mainFunction
  | .rx _ => if cfg.canRxProcessing = .interrupt then .isr else .mainFunction

def txPart (s : State D) : TxPart where
  requested := (view s.dev).requested
  element := (view s.dev).element
  swPduHandle := s.swPduHandle
  requests := s.requests
  requestedFor := s.requestedFor
  completed := s.completed
  confirmed := s.confirmed

namespace TxPart

def waiting (p : TxPart) : List (Request × BusFrame) := p.completed.drop p.confirmed.length

def markers (p : TxPart) : List Nat := p.waiting.map fun sent => sent.1.buffer

structure Ready (p : TxPart) (b : Nat) : Prop where
  inside : b < cfg.canMsgRamConfig.canTxBufferCount
  fresh : b ∉ p.markers
  names : (p.requestedFor b).buffer = b
  handle : p.swPduHandle b = (p.requestedFor b).pdu.swPduHandle
  built : Built cfg (p.requestedFor b) (p.element b)

/-- How often a request has been carried out or is still pending. -/
def uses (p : TxPart) (request : Request) : Nat :=
  (p.completed.map Prod.fst).count request +
    if p.requested request.buffer = true ∧ p.requestedFor request.buffer = request then 1 else 0

structure Sane (p : TxPart) : Prop where
  ready : ∀ b, p.requested b = true → p.Ready cfg b
  handles : ∀ sent ∈ p.waiting, p.swPduHandle sent.1.buffer = sent.1.pdu.swPduHandle
  once : p.markers.Nodup
  inside : ∀ b ∈ p.markers, b < cfg.canMsgRamConfig.canTxBufferCount
  frames : ∀ sent ∈ p.completed, sent.2 = frameOf cfg sent.1 ∧ Sendable cfg sent.1.pdu
  asked : ∀ request, p.uses request ≤ p.requests.count request

theorem Sane.requested {p : TxPart} (sane : p.Sane cfg) {sent : Request × BusFrame}
    (completed : sent ∈ p.completed) : sent.1 ∈ p.requests := by
  have once : 0 < (p.completed.map Prod.fst).count sent.1 :=
    List.count_pos_iff.mpr (List.mem_map_of_mem completed)
  exact List.count_pos_iff.mp (once.trans_le ((Nat.le_add_right _ _).trans (sane.asked sent.1)))

structure Left (p p' : TxPart) (b : Nat) : Prop where
  requested : p'.requested b = false
  fresh : b ∉ p.markers → b ∉ p'.markers
  handle : p'.swPduHandle b = p.swPduHandle b
  element : p'.element b = p.element b

end TxPart

structure Stored (received : RxStore → List RxFrame) : Prop where
  room : ∀ store, (received store).length ≤ capacity cfg store
  fits : ∀ store, ∀ frame ∈ received store, rxLength frame.r1 ≤ bufferSizeFd cfg.canFdDataBufSize

/-- The invariant of the driver. -/
structure Sane (s : State D) : Prop where
  lanes : ∀ lane, (inbox cfg view lane).Sound s
  tx : (txPart view s).Sane cfg
  stored : Stored cfg (view s.dev).received

/-- The handles that a context has locked stay its own. -/
def Undisturbed (i : Context) (s s' : State D) : Prop :=
  ∀ hth, hth < cfg.canHthObjectsCount → s.hthMutex hth = some i → s'.hthMutex hth = some i ∧
    ∀ b, Owns cfg hth b → (view s.dev).requested b = false →
      (txPart view s).Left (txPart view s') b

/-- What a context relies on. -/
structure Rely (i : Context) (s s' : State D) : Prop where
  sane : Sane cfg view s → Sane cfg view s'
  mine : Undisturbed cfg view i s s'
  lanes : ∀ lane, processor cfg lane = i → (inbox cfg view lane).Grows s s'

/-- What a context guarantees that takes out of the lanes `may` only. -/
structure Guarantee (i : Context) (may : Lane → Prop) (s s' : State D) : Prop where
  sane : Sane cfg view s → Sane cfg view s'
  others : ∀ j, j ≠ i → Undisturbed cfg view j s s'
  lanes : ∀ lane, ¬ may lane → (inbox cfg view lane).Grows s s'

end Definitions

variable {cfg : Config} {view : D → View} {s s' s'' : State D} {i : Context} {may : Lane → Prop}

theorem Undisturbed.refl (s : State D) : Undisturbed cfg view i s s :=
  fun _ _ mine => ⟨mine, fun _ _ quiet => ⟨quiet, id, rfl, rfl⟩⟩

theorem Undisturbed.trans (first : Undisturbed cfg view i s s')
    (second : Undisturbed cfg view i s' s'') : Undisturbed cfg view i s s'' := by
  intro hth known mine
  obtain ⟨mine', left⟩ := first hth known mine
  obtain ⟨mine'', left'⟩ := second hth known mine'
  refine ⟨mine'', fun b owns quiet => ?_⟩
  have once := left b owns quiet
  have twice := left' b owns once.requested
  exact ⟨twice.requested, twice.fresh ∘ once.fresh, twice.handle.trans once.handle,
    twice.element.trans once.element⟩

theorem Undisturbed.same (tx : txPart view s' = txPart view s)
    (mutex : s'.hthMutex = s.hthMutex) : Undisturbed cfg view i s s' := by
  intro hth _ mine
  refine ⟨by rw [mutex]; exact mine, fun b _ quiet => ?_⟩
  rw [tx]
  exact ⟨quiet, id, rfl, rfl⟩

def terms (cfg : Config) (view : D → View) (i : Context) (may : Lane → Prop) : Terms (State D) where
  rely := Rely cfg view i
  guar := Guarantee cfg view i may
  refl s := ⟨id, Undisturbed.refl s, fun _ _ => Inbox.Grows.refl s⟩
  trans first second := ⟨second.sane ∘ first.sane, first.mine.trans second.mine,
    fun lane here => (first.lanes lane here).trans (second.lanes lane here)⟩

theorem Guarantee.refl (s : State D) : Guarantee cfg view i may s s :=
  ⟨id, fun _ _ => Undisturbed.refl s, fun _ _ => Inbox.Grows.refl s⟩

theorem Guarantee.mono {may' : Lane → Prop} (more : ∀ lane, may lane → may' lane)
    (guarantee : Guarantee cfg view i may s s') : Guarantee cfg view i may' s s' :=
  ⟨guarantee.sane, guarantee.others, fun lane none => guarantee.lanes lane (none ∘ more lane)⟩

section Assertions

def Kept (cfg : Config) (view : D → View) (i : Context) (P : State D → Prop) : Prop :=
  ∀ s s', Sane cfg view s → Rely cfg view i s s' → P s → P s'

def Lasting (cfg : Config) (view : D → View) (among : Lane → Prop) (P : State D → Prop) : Prop :=
  ∀ s s', Sane cfg view s → (∀ lane, among lane → (inbox cfg view lane).Grows s s') → P s → P s'

def Mine (cfg : Config) (i : Context) (lane : Lane) : Prop := processor cfg lane = i

variable {P P' : State D → Prop} {lane : Lane} {among : Lane → Prop}

theorem Lasting.kept (lasting : Lasting cfg view (Mine cfg i) P) : Kept cfg view i P :=
  fun s s' sane rely => lasting s s' sane rely.lanes

theorem Kept.and (kept : Kept cfg view i P) (kept' : Kept cfg view i P') :
    Kept cfg view i fun s => P s ∧ P' s :=
  fun s s' sane rely holds => ⟨kept s s' sane rely holds.1, kept' s s' sane rely holds.2⟩

theorem Lasting.and (lasting : Lasting cfg view among P) (lasting' : Lasting cfg view among P') :
    Lasting cfg view among fun s => P s ∧ P' s :=
  fun s s' sane grows holds => ⟨lasting s s' sane grows holds.1, lasting' s s' sane grows holds.2⟩

theorem Lasting.mono {among' : Lane → Prop} (more : ∀ lane, among lane → among' lane)
    (lasting : Lasting cfg view among P) : Lasting cfg view among' P :=
  fun s s' sane grows => lasting s s' sane fun lane here => grows lane (more lane here)

theorem lasting_true : Lasting cfg view among fun _ => True := fun _ _ _ _ _ => trivial

theorem kept_true : Kept cfg view i fun _ => True := fun _ _ _ _ _ => trivial

section One
variable (here : among lane)
include here

theorem lasting_settled : Lasting cfg view among (inbox cfg view lane).Settled :=
  fun _ _ sane grows => Inbox.Settled.grows (sane.lanes lane) (grows lane here)

theorem lasting_calm : Lasting cfg view among (inbox cfg view lane).Calm :=
  fun _ _ sane grows => Inbox.Calm.grows (sane.lanes lane) (grows lane here)

theorem lasting_inHand (a : lane.Arrival) :
    Lasting cfg view among ((inbox cfg view lane).InHand a) :=
  fun _ _ sane grows => Inbox.InHand.grows (sane.lanes lane) (grows lane here)

theorem lasting_counted (n : Nat) : Lasting cfg view among ((inbox cfg view lane).Counted n) :=
  fun _ _ sane grows => Inbox.Counted.grows (sane.lanes lane) (grows lane here)

theorem lasting_head (c : lane.Shown) : Lasting cfg view among ((inbox cfg view lane).Head c) :=
  fun _ _ sane grows => Inbox.Head.grows (sane.lanes lane) (grows lane here)

theorem lasting_index (n : Nat) :
    Lasting cfg view among fun s => (inbox cfg view lane).index s = n :=
  fun _ _ _ grows index => (grows lane here).index.trans index

end One

def Idle (cfg : Config) (view : D → View) (i : Context) (s : State D) : Prop :=
  ∀ lane, Mine cfg i lane → (inbox cfg view lane).Calm s

end Assertions

section Rules
variable {chip : Chip D} {α β : Type} {P P' : State D → Prop} {R R' : α → State D → Prop}

def Does (cfg : Config) (chip : Chip D) (view : D → View) (i : Context) (may : Lane → Prop)
    (P : State D → Prop) (p : Driver α) (R : α → State D → Prop) : Prop :=
  Triple (setting cfg chip view).toResource (terms cfg view i may)
    (fun s => Sane cfg view s ∧ P s) p (fun a s => Sane cfg view s ∧ R a s)

theorem Kept.stable (kept : Kept cfg view i P) :
    Stable (terms cfg view i may) fun s => Sane cfg view s ∧ P s :=
  fun s s' holds others => ⟨others.sane holds.1, kept s s' holds.1 others holds.2⟩

theorem does_pure {a : α} (kept : Kept cfg view i P)
    (enough : ∀ s, Sane cfg view s → P s → R a s) :
    Does cfg chip view i may P (.done a) R :=
  triple_done kept.stable fun s holds => ⟨holds.1, enough s holds.1 holds.2⟩

theorem does_ask {q : Query} {R : Answer q → State D → Prop} (kept : Kept cfg view i P)
    (kept_post : ∀ a, Kept cfg view i (R a))
    (step : ∀ s c, Sane cfg view s → P s → Allowed cfg s q c →
      Guarantee cfg view i may s (perform chip s q c).2 ∧
        R (perform chip s q c).1 (perform chip s q c).2) :
    Does cfg chip view i may P (ask q) R := by
  refine triple_question kept.stable (fun a => (kept_post a).stable) fun s c holds allowed => ?_
  obtain ⟨guarantee, reached⟩ := step s c holds.1 holds.2 allowed
  exact ⟨guarantee, guarantee.sane holds.1, reached⟩

theorem does_bind {p : Driver α} {f : α → Driver β} {R' : β → State D → Prop}
    (first : Does cfg chip view i may P p R)
    (rest : ∀ a, Does cfg chip view i may (R a) (f a) R') :
    Does cfg chip view i may P (p >>= f) R' :=
  triple_bind first rest

theorem does_mono {p : Driver α} (does : Does cfg chip view i may P p R)
    (stronger : ∀ s, Sane cfg view s → P' s → P s)
    (weaker : ∀ a s, Sane cfg view s → R a s → R' a s) :
    Does cfg chip view i may P' p R' :=
  triple_mono does (fun s holds => ⟨holds.1, stronger s holds.1 holds.2⟩)
    fun a s holds => ⟨holds.1, weaker a s holds.1 holds.2⟩

theorem does_may {may' : Lane → Prop} {p : Driver α} (does : Does cfg chip view i may P p R)
    (more : ∀ lane, may lane → may' lane) : Does cfg chip view i may' P p R :=
  triple_weaken does (fun _ _ => id) fun _ _ => Guarantee.mono more

theorem does_frame {p : Driver α} (does : Does cfg chip view i may P p R)
    (lasting : Lasting cfg view (fun lane => Mine cfg i lane ∧ ¬ may lane) P') :
    Does cfg chip view i may (fun s => P s ∧ P' s) p (fun a s => R a s ∧ P' s) := by
  have kept : Kept cfg view i P' := (lasting.mono fun lane here => here.1).kept
  have framed := triple_frame does kept.stable fun s s' holds guarantee =>
    ⟨guarantee.sane holds.1, lasting s s' holds.1
      (fun lane here => guarantee.lanes lane here.2) holds.2⟩
  exact triple_mono framed (fun s holds => ⟨⟨holds.1, holds.2.1⟩, holds.1, holds.2.2⟩)
    fun a s holds => ⟨holds.1.1, holds.1.2, holds.2.2⟩

theorem does_when {c : Prop} [Decidable c] {p : Driver α} {q : Driver β}
    {M : State D → Prop} {R' : β → State D → Prop}
    (yes : c → Does cfg chip view i may P p (fun _ => M))
    (no : ¬ c → ∀ s, Sane cfg view s → P s → M s)
    (rest : Does cfg chip view i may M q R') :
    Does cfg chip view i may P (if c then p >>= fun _ => q else q) R' := by
  split
  · next here => exact does_bind (yes here) fun _ => rest
  · next none => exact does_mono rest (no none) fun _ _ _ => id

theorem does_exists {ι : Type} {P : ι → State D → Prop} {p : Driver α}
    (each : ∀ a, Does cfg chip view i may (P a) p R) :
    Does cfg chip view i may (fun s => ∃ a, P a s) p R := by
  rintro s ⟨sane, a, holds⟩
  exact each a s ⟨sane, holds⟩

theorem does_fact {φ : Prop} {p : Driver α} (does : φ → Does cfg chip view i may P p R) :
    Does cfg chip view i may (fun s => φ ∧ P s) p R := by
  rintro s ⟨sane, fact, holds⟩
  exact does fact s ⟨sane, holds⟩

theorem does_look {q : Query} {R : Answer q → State D → Prop} (kept : Kept cfg view i P)
    (kept_post : ∀ a, Kept cfg view i (R a))
    (same : ∀ (s : State D) c, (perform chip s q c).2 = s)
    (learnt : ∀ s c, Sane cfg view s → P s → Allowed cfg s q c →
      R (perform chip s q c).1 s) :
    Does cfg chip view i may P (ask q) R := by
  refine does_ask kept kept_post fun s c sane holds allowed => ?_
  rw [same]
  exact ⟨Guarantee.refl s, learnt s c sane holds allowed⟩

end Rules

end AnchorNode.CanDrv
