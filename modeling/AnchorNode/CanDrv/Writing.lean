import AnchorNode.CanDrv.Access

/-! `Can_44_TCAN4x5x_Write`: whoever has locked a handle has its buffers to itself, so the frame
that a request sends is the one that was written. -/

namespace AnchorNode.CanDrv

open AnchorNode.Lib

variable {D : Type} {cfg : Config} {chip : Chip D} {view : D → View} {i : Context} {s s' : State D}
  {hth b : Nat} {request : Request}

section Buffers

theorem findFree_some {txbrp : Word} {count first : Nat}
    (found : findFree txbrp count first = some b) :
    first ≤ b ∧ b < first + count ∧ txbrp &&& (1#32 <<< b) = 0#32 := by
  induction count generalizing first with
  | zero => simp [findFree] at found
  | succ count ih =>
      rw [findFree] at found
      split at found
      · next free =>
          obtain rfl := Option.some.inj found
          exact ⟨le_refl _, by omega, free⟩
      · obtain ⟨least, most, free⟩ := ih found
        exact ⟨by omega, by omega, free⟩

end Buffers

section Stages

def Locked (i : Context) (hth : Nat) (s : State D) : Prop := s.hthMutex hth = some i

structure Reserved (view : D → View) (i : Context) (hth b : Nat) (s : State D) : Prop where
  locked : Locked i hth s
  quiet : (view s.dev).requested b = false

structure Noted (view : D → View) (i : Context) (hth : Nat) (request : Request) (s : State D) :
    Prop extends Reserved view i hth request.buffer s where
  fresh : request.buffer ∉ (txPart view s).markers
  handle : s.swPduHandle request.buffer = request.pdu.swPduHandle

structure Loaded (cfg : Config) (view : D → View) (i : Context) (hth : Nat) (request : Request)
    (s : State D) : Prop extends Noted view i hth request s where
  built : Built cfg request ((view s.dev).element request.buffer)

section Kept
variable (known : hth < cfg.canHthObjectsCount)
include known

theorem kept_locked : Kept cfg view i (Locked i hth) :=
  fun _ _ _ rely locked => (rely.mine hth known locked).1

theorem Reserved.later (owns : Owns cfg hth b) (rely : Rely cfg view i s s')
    (reserved : Reserved view i hth b s) :
    Reserved view i hth b s' ∧ (txPart view s).Left (txPart view s') b := by
  obtain ⟨locked, quiet⟩ := reserved
  obtain ⟨locked', left⟩ := rely.mine hth known locked
  exact ⟨⟨locked', (left b owns quiet).requested⟩, left b owns quiet⟩

theorem kept_reserved (owns : Owns cfg hth b) : Kept cfg view i (Reserved view i hth b) :=
  fun _ _ _ rely reserved => (reserved.later known owns rely).1

theorem kept_noted (owns : Owns cfg hth request.buffer) :
    Kept cfg view i (Noted view i hth request) := by
  intro s s' _ rely noted
  obtain ⟨reserved, left⟩ := noted.toReserved.later known owns rely
  exact ⟨reserved, left.fresh noted.fresh, left.handle.trans noted.handle⟩

theorem kept_loaded (owns : Owns cfg hth request.buffer) :
    Kept cfg view i (Loaded cfg view i hth request) := by
  intro s s' sane rely loaded
  obtain ⟨-, left⟩ := loaded.toReserved.later known owns rely
  refine ⟨kept_noted known owns s s' sane rely loaded.toNoted, ?_⟩
  have same : (view s'.dev).element request.buffer = (view s.dev).element request.buffer :=
    left.element
  rw [same]
  exact loaded.built

end Kept

theorem other_buffer (configured : WellConfigured cfg) {hth' b' : Nat} {j : Context}
    (other : j ≠ i) (known : hth < cfg.canHthObjectsCount)
    (known' : hth' < cfg.canHthObjectsCount) (locked : Locked i hth s) (locked' : Locked j hth' s)
    (owns : Owns cfg hth b) (owns' : Owns cfg hth' b') : b' ≠ b := by
  rintro rfl
  obtain rfl := configured.apart hth hth' b' known known' owns owns'
  exact other (Option.some.inj (locked'.symm.trans locked))

theorem undisturbed_elsewhere (configured : WellConfigured cfg)
    (known : hth < cfg.canHthObjectsCount)
    (owns : Owns cfg hth b) (locked : Locked i hth s) (mutex : s'.hthMutex = s.hthMutex)
    (elsewhere : ∀ b', b' ≠ b → (view s.dev).requested b' = false →
      (txPart view s).Left (txPart view s') b') (j : Context) (other : j ≠ i) :
    Undisturbed cfg view j s s' := by
  intro hth' known' locked'
  refine ⟨by rw [mutex]; exact locked', fun b' owns' quiet => elsewhere b' ?_ quiet⟩
  exact other_buffer configured other known known' locked locked' owns owns'

end Stages

section Steps
variable (request : Request) (configured : WellConfigured cfg) (contract : Contract cfg chip view)
  (known : hth < cfg.canHthObjectsCount) (owns : Owns cfg hth request.buffer)
  {may : Lane → Prop}

include configured known owns in
theorem does_setSwPduHandle : Does cfg chip view i may (Reserved view i hth request.buffer)
    (setSwPduHandle request.buffer request.pdu.swPduHandle)
    (fun _ => Noted view i hth request) := by
  refine does_ask (kept_reserved known owns) (fun _ => kept_noted known owns)
    fun s c sane reserved fresh => ?_
  refine ⟨Guarantee.on_tx (fun lane => ?_) (fun sane => ?_) rfl ?_, ?_⟩
  · refine Unmoved.grows ?_ lane id
    exact ⟨rfl, rfl, rfl, rfl, rfl, rfl, rfl, rfl⟩
  · obtain ⟨ready, handles, once, inside, frames, asked⟩ := sane.tx
    refine ⟨fun b requested => ?_, fun sent waits => ?_, once, inside, frames, asked⟩
    · have was := ready b requested
      have other : b ≠ request.buffer := by
        rintro rfl
        exact Bool.noConfusion (requested.symm.trans reserved.quiet)
      exact ⟨was.inside, was.fresh, was.names,
        (Function.update_of_ne other _ _).trans was.handle, was.built⟩
    · have other : sent.1.buffer ≠ request.buffer := fun same =>
        fresh (same ▸ List.mem_map_of_mem waits)
      exact (Function.update_of_ne other _ _).trans (handles sent waits)
  · refine undisturbed_elsewhere configured known owns reserved.locked rfl fun b other quiet => ?_
    exact ⟨quiet, id, Function.update_of_ne other _ _, rfl⟩
  · exact ⟨⟨reserved.locked, reserved.quiet⟩, fresh, Function.update_self _ _ _⟩

include configured known owns in
theorem Noted.load {d : D} {element : Nat → Word} (noted : Noted view i hth request s)
    (built : Built cfg request element) (after : view d = { view s.dev with
      element := Function.update (view s.dev).element request.buffer element }) :
    Guarantee cfg view i may s { s with dev := d } ∧
      Loaded cfg view i hth request { s with dev := d } := by
  have tx : txPart view { s with dev := d } = { txPart view s with
      element := Function.update (view s.dev).element request.buffer element } := by
    simp only [txPart, after]
  have unmoved : Unmoved view s { s with dev := d } := by
    constructor <;> first | rfl | rw [after]
  refine ⟨Guarantee.on_tx (fun lane => unmoved.grows lane ?_) (fun sane => ?_) unmoved.received ?_,
    ?_⟩
  · rw [after]
    exact id
  · obtain ⟨ready, handles, once, inside, frames, asked⟩ := sane.tx
    rw [tx]
    refine ⟨fun b requested => ?_, handles, once, inside, frames, asked⟩
    have was := ready b requested
    have other : b ≠ request.buffer := by
      rintro rfl
      exact Bool.noConfusion (requested.symm.trans noted.quiet)
    exact ⟨was.inside, was.fresh, was.names, was.handle,
      was.built.congr rfl (Function.update_of_ne other _ _)⟩
  · refine undisturbed_elsewhere configured known owns noted.locked rfl fun b other quiet => ?_
    rw [tx]
    exact ⟨quiet, id, rfl, Function.update_of_ne other _ _⟩
  · refine ⟨⟨⟨noted.locked, ?_⟩, noted.fresh, noted.handle⟩, ?_⟩
    · rw [after]
      exact noted.quiet
    · rw [after]
      exact built.congr rfl (Function.update_self _ _ _)

def State.requesting (s : State D) (request : Request) (d : D) : State D :=
  { s with
    requests := s.requests ++ [request]
    requestedFor := Function.update s.requestedFor request.buffer request
    dev := d }

theorem asked_ask (p : TxPart) (request other : Request)
    (asked : p.uses other ≤ p.requests.count other) :
    { p with
      requested := fun b => p.requested b || decide (b = request.buffer)
      requests := p.requests ++ [request]
      requestedFor := Function.update p.requestedFor request.buffer request }.uses other ≤
      (p.requests ++ [request]).count other := by
  unfold TxPart.uses at asked ⊢
  rw [List.count_append, List.count_singleton]
  by_cases same : other.buffer = request.buffer
  · simp only [same, Function.update_self, decide_true, Bool.or_true, true_and, beq_iff_eq]
    omega
  · have apart : request ≠ other := fun equal => same (congrArg Request.buffer equal.symm)
    simpa only [same, Function.update_of_ne (h := same), decide_false, Bool.or_false, beq_iff_eq,
      apart, if_false, Nat.add_zero] using asked

include configured known owns in
theorem Loaded.ask {d : D} (loaded : Loaded cfg view i hth request s)
    (after : view d = { view s.dev with
      requested := fun b => (view s.dev).requested b || decide (b = request.buffer) }) :
    Guarantee cfg view i may s (s.requesting request d) := by
  have tx : txPart view (s.requesting request d) =
      { txPart view s with
        requested := fun b => (view s.dev).requested b || decide (b = request.buffer)
        requests := s.requests ++ [request]
        requestedFor := Function.update s.requestedFor request.buffer request } := by
    simp only [txPart, State.requesting, after]
  have unmoved : Unmoved view s (s.requesting request d) := by
    constructor <;> first | rfl | rw [State.requesting, after]
  refine Guarantee.on_tx (fun lane => unmoved.grows lane ?_) (fun sane => ?_) unmoved.received ?_
  · rw [State.requesting, after]
    exact id
  · obtain ⟨ready, handles, once, inside, frames, asked⟩ := sane.tx
    rw [tx]
    refine ⟨fun b requested => ?_, handles, once, inside, frames, fun other =>
      asked_ask (txPart view s) request other (asked other)⟩
    by_cases same : b = request.buffer
    · subst same
      have mine : Function.update s.requestedFor request.buffer request request.buffer = request :=
        Function.update_self _ _ _
      refine ⟨configured.inside hth _ known owns, loaded.fresh, ?_, ?_, ?_⟩
      · exact congrArg Request.buffer mine
      · exact loaded.handle.trans (congrArg (·.pdu.swPduHandle) mine).symm
      · exact loaded.built.congr mine rfl
    · change ((view s.dev).requested b || decide (b = request.buffer)) = true at requested
      rw [decide_eq_false same, Bool.or_false] at requested
      have was := ready b requested
      have other : Function.update s.requestedFor request.buffer request b = s.requestedFor b :=
        Function.update_of_ne same _ _
      refine ⟨was.inside, was.fresh, ?_, ?_, ?_⟩
      · exact (congrArg Request.buffer other).trans was.names
      · exact was.handle.trans (congrArg (·.pdu.swPduHandle) other).symm
      · exact was.built.congr other rfl
  · refine undisturbed_elsewhere configured known owns loaded.locked rfl fun b other quiet => ?_
    rw [tx]
    exact ⟨by simpa [other] using quiet, id, rfl, rfl⟩

include configured contract known owns in
theorem does_fill {residue : Nat → UInt8} {hoh : Nat}
    (checked : writeDetCheck cfg hoh request.pdu = none) :
    Does cfg chip view i may (Noted view i hth request)
      (spiWrite (.ram (txBufferElem cfg request.buffer))
        (txElement cfg request.txObj request.pdu residue request.buffer))
      (fun _ => Loaded cfg view i hth request) := by
  have inside := configured.inside hth _ known owns
  have few := configured.txBuffers
  refine does_spiWrite (kept_noted known owns) (kept_loaded known owns) (by nofun)
    fun s sane noted => ?_
  exact noted.load request configured known owns
    (txElement_built configured checked (by omega))
    (contract.fill s.dev request.buffer _ inside
      (txElement_length (checked_length checked).2.1) noted.quiet)

include configured contract known owns in
theorem does_requestTransmission : Does cfg chip view i may (Loaded cfg view i hth request)
    (requestTransmission request) (fun _ => Locked i hth) := by
  have inside := configured.inside hth _ known owns
  have narrow : request.buffer < 32 := Nat.lt_of_lt_of_le inside configured.txBuffers
  refine does_ask (kept_loaded known owns) (fun _ => kept_locked known)
    fun s c sane loaded allowed => ?_
  obtain ⟨fault, calls⟩ := c
  obtain rfl : fault = none := allowed.resolve_left (by nofun)
  refine ⟨loaded.ask request configured known owns ?_, loaded.locked⟩
  simp only [contract.request, getLsbD_bit narrow]

include configured contract known in
theorem does_mcanWrite {pdu : CanPdu} {residue : Nat → UInt8} {hoh : Nat}
    (checked : writeDetCheck cfg hoh pdu = none) :
    Does cfg chip view i may (Locked i hth)
      (mcanWrite cfg pdu residue (cfg.canTxObjConfig (cfg.canHthIndex hth)))
      (fun _ => Locked i hth) := by
  have locked : Kept cfg view i (Locked i hth) := kept_locked known
  refine does_bind (does_readVerified (R := fun w s => Locked i hth s ∧ ∀ b, Owns cfg hth b →
    w.getLsbD b = false → (view s.dev).requested b = false) locked ?_ (by decide) ?_) ?_
  · intro w s s' sane rely holds
    refine ⟨locked s s' sane rely holds.1, fun b owns clear => ?_⟩
    exact (Reserved.later known owns rely ⟨holds.1, holds.2 b owns clear⟩).1.quiet
  · intro s _ holds
    refine ⟨holds, fun b owns clear => ?_⟩
    have inside := configured.inside hth b known owns
    rw [← contract.txbrp s.dev b (Nat.lt_of_lt_of_le inside configured.txBuffers)]
    exact clear
  rintro ⟨status, txbrp⟩
  cases found : findFree txbrp (cfg.canTxObjConfig (cfg.canHthIndex hth)).canHwObjectCount
      (cfg.canTxObjConfig (cfg.canHthIndex hth)).canTxBufferIndex with
  | none =>
      simp only [found]
      exact does_mono (does_pure locked fun _ _ => id) (fun _ _ holds => holds.1) fun _ _ _ => id
  | some b =>
      obtain ⟨least, most, free⟩ := findFree_some found
      have owns : Owns cfg hth b := ⟨least, most⟩
      have narrow := Nat.lt_of_lt_of_le (configured.inside hth b known owns) configured.txBuffers
      have clear := (and_bit_eq_zero txbrp narrow).mp free
      let request : Request := ⟨b, cfg.canTxObjConfig (cfg.canHthIndex hth), pdu⟩
      simp only [found]
      refine does_mono (P := Reserved view i hth b) ?_
        (fun s _ holds => ⟨holds.1, holds.2 b owns clear⟩) fun _ _ _ => id
      refine does_bind (does_setSwPduHandle request configured known owns) fun _ => ?_
      refine does_bind (does_fill request configured contract known owns checked) fun _ => ?_
      exact does_bind (does_requestTransmission request configured contract known owns) fun _ =>
        does_pure locked fun _ _ => id

include known in
theorem does_unlockHth :
    Does cfg chip view i may (Locked i hth) (unlockHth hth) (fun _ _ => True) := by
  refine does_ask (kept_locked known) (fun _ => kept_true) fun s c sane locked _ =>
    ⟨Guarantee.on_tx (fun lane => ?_) (fun sane => sane.tx) rfl fun j other => ?_, trivial⟩
  · refine Unmoved.grows ?_ lane id
    exact ⟨rfl, rfl, rfl, rfl, rfl, rfl, rfl, rfl⟩
  · intro hth' _ theirs
    have apart : hth' ≠ hth := by
      rintro rfl
      exact other (Option.some.inj (theirs.symm.trans locked))
    exact ⟨(Function.update_of_ne apart _ _).trans theirs, fun _ _ quiet => ⟨quiet, id, rfl, rfl⟩⟩

theorem does_lockHth (known : hth < cfg.canHthObjectsCount) :
    Does cfg chip view i may (fun _ => True) (lockHth i hth)
      (fun taken s => taken = true → Locked i hth s) := by
  refine does_ask kept_true (fun taken s s' sane rely locked yes => ?_) fun s c sane _ _ => ?_
  · exact kept_locked known s s' sane rely (locked yes)
  · by_cases free : s.hthMutex hth = none
    · have answer : perform chip s (.lockHth i hth) c =
          (true, { s with hthMutex := Function.update s.hthMutex hth (some i) }) := if_pos free
      rw [answer]
      refine ⟨Guarantee.on_tx (fun lane => ?_) (fun sane => sane.tx) rfl fun j other => ?_,
        fun _ => Function.update_self _ _ _⟩
      · refine Unmoved.grows ?_ lane id
        exact ⟨rfl, rfl, rfl, rfl, rfl, rfl, rfl, rfl⟩
      · intro hth' _ theirs
        have apart : hth' ≠ hth := by
          rintro rfl
          exact nomatch theirs.symm.trans free
        exact ⟨(Function.update_of_ne apart _ _).trans theirs,
          fun _ _ quiet => ⟨quiet, id, rfl, rfl⟩⟩
    · have answer : perform chip s (.lockHth i hth) c = (false, s) := if_neg free
      rw [answer]
      exact ⟨Guarantee.refl s, nofun⟩

end Steps

section Write
variable (configured : WellConfigured cfg) (contract : Contract cfg chip view)
include configured contract

theorem does_canWrite {call : WriteCall} (checked : Checked cfg call) :
    Does cfg chip view i (fun _ => False) (fun _ => True) (canWrite cfg i call)
      (fun _ _ => True) := by
  unfold canWrite
  split
  · refine does_bind (does_detReportError lasting_true fun _ _ => id) fun _ => ?_
    exact does_pure kept_true fun _ _ => id
  · next passed =>
      have checked : writeDetCheck cfg call.hth call.pdu = none := by
        rcases checked with enabled | checked
        · rwa [if_pos enabled] at passed
        · exact checked
      have known := checked_hth checked
      have locked : Kept cfg view i (Locked i _) := kept_locked known
      refine does_bind (does_lockHth known) fun taken => ?_
      cases taken with
      | false => exact does_pure (fun _ _ _ _ _ => nofun) fun _ _ _ => trivial
      | true =>
          refine does_mono (P := Locked i _) ?_ (fun _ _ holds => holds rfl) fun _ _ _ => id
          have rest : Does cfg chip view i (fun _ => False) (Locked i _) (do
              let result ← mcanWrite cfg call.pdu call.residue
                (cfg.canTxObjConfig (cfg.canHthIndex (call.hth - cfg.canHrhObjectsCount)))
              unlockHth (call.hth - cfg.canHrhObjectsCount)
              return result) (fun _ _ => True) :=
            does_bind (does_mcanWrite configured contract known checked) fun _ =>
              does_bind (does_unlockHth known) fun _ => does_pure kept_true fun _ _ => id
          dsimp only
          rw [if_pos rfl]
          split_ifs
          · refine does_bind (does_look (R := fun _ => Locked i _) locked (fun _ => locked)
              (fun _ _ => rfl) fun _ _ _ holds _ => holds) fun icom => ?_
            split_ifs
            · exact does_pure locked fun _ _ _ => trivial
            · exact rest
          · exact rest

theorem does_writeAll {calls : List WriteCall} (checked : ∀ call ∈ calls, Checked cfg call) :
    Does cfg chip view i (fun _ => False) (fun _ => True) (writeAll cfg i calls)
      (fun _ _ => True) := by
  unfold writeAll
  induction calls with
  | nil => exact does_pure kept_true fun _ _ => id
  | cons call calls ih =>
      have one := does_canWrite (i := i) configured contract (checked call List.mem_cons_self)
      refine does_bind (R := fun _ _ => True)
        (does_bind one fun _ => does_pure kept_true fun _ _ => id) fun _ => ?_
      exact ih fun call member => checked call (List.mem_cons_of_mem _ member)

end Write

end AnchorNode.CanDrv
