import AnchorNode.CanDrv.Terms

/-! How the functions of the driver reach the controller: what a read tells, and which steps keep
the guarantee. -/

namespace AnchorNode.CanDrv

open AnchorNode.Lib

variable {D : Type} {cfg : Config} {chip : Chip D} {view : D → View} {i : Context}
  {may : Lane → Prop} {s s' : State D} {α β : Type}

section Guarantees

theorem Guarantee.off_tx (tx : txPart view s' = txPart view s) (mutex : s'.hthMutex = s.hthMutex)
    (touched : Sane cfg view s → ∀ lane, may lane → (inbox cfg view lane).Sound s')
    (stored : Sane cfg view s → Stored cfg (view s'.dev).received)
    (lanes : ∀ lane, ¬ may lane → (inbox cfg view lane).Grows s s') :
    Guarantee cfg view i may s s' := by
  refine ⟨fun sane => ⟨fun lane => ?_, by rw [tx]; exact sane.tx, stored sane⟩,
    fun _ _ => Undisturbed.same tx mutex, lanes⟩
  by_cases here : may lane
  · exact touched sane lane here
  · exact (sane.lanes lane).grows (lanes lane here)

theorem Guarantee.on_tx (lanes : ∀ lane, (inbox cfg view lane).Grows s s')
    (tx : Sane cfg view s → (txPart view s').Sane cfg)
    (received : (view s'.dev).received = (view s.dev).received)
    (others : ∀ j, j ≠ i → Undisturbed cfg view j s s') : Guarantee cfg view i may s s' :=
  ⟨fun sane => ⟨fun lane => (sane.lanes lane).grows (lanes lane), tx sane,
    by rw [received]; exact sane.stored⟩, others, fun lane _ => lanes lane⟩

structure Unmoved (view : D → View) (s s' : State D) : Prop where
  events : (view s'.dev).events = (view s.dev).events
  eventIndex : (view s'.dev).eventIndex = (view s.dev).eventIndex
  received : (view s'.dev).received = (view s.dev).received
  rxIndex : (view s'.dev).rxIndex = (view s.dev).rxIndex
  completed : s'.completed = s.completed
  confirmed : s'.confirmed = s.confirmed
  arrived : s'.arrived = s.arrived
  indicated : s'.indicated = s.indicated

theorem inbox_flag (lane : Lane) (s : State D) :
    (inbox cfg view lane).flag s ↔ (view s.dev).intr &&& lane.flag ≠ 0#32 := by
  cases lane <;> exact Iff.rfl

section Unmoved
variable (unmoved : Unmoved view s s') (lane : Lane)
include unmoved

theorem Unmoved.arrived_same :
    (inbox cfg view lane).arrived s' = (inbox cfg view lane).arrived s := by
  cases lane with
  | tx => exact unmoved.completed
  | rx store => exact congrFun unmoved.arrived store

theorem Unmoved.reported_same :
    (inbox cfg view lane).reported s' = (inbox cfg view lane).reported s := by
  cases lane with
  | tx => exact unmoved.confirmed
  | rx store => exact congrFun unmoved.indicated store

theorem Unmoved.queue_same : (inbox cfg view lane).queue s' = (inbox cfg view lane).queue s := by
  cases lane with
  | tx => exact unmoved.events
  | rx store => exact congrFun unmoved.received store

theorem Unmoved.grows (flag : (view s.dev).intr &&& lane.flag ≠ 0#32 →
    (view s'.dev).intr &&& lane.flag ≠ 0#32) : (inbox cfg view lane).Grows s s' := by
  refine Inbox.Grows.same (unmoved.arrived_same lane) (unmoved.reported_same lane)
    (unmoved.queue_same lane) ?_ ?_
  · cases lane with
    | tx => exact unmoved.eventIndex
    | rx store => exact congrFun unmoved.rxIndex store
  · simpa only [inbox_flag] using flag

theorem Unmoved.sound (sound : (inbox cfg view lane).Sound s) :
    (inbox cfg view lane).Sound s' :=
  sound.same (unmoved.arrived_same lane) (unmoved.reported_same lane) (unmoved.queue_same lane)

theorem Unmoved.settled (settled : (inbox cfg view lane).Settled s) :
    (inbox cfg view lane).Settled s' := by
  rw [Inbox.Settled, Inbox.unreported] at settled ⊢
  rw [unmoved.queue_same, unmoved.arrived_same, unmoved.reported_same, settled]

end Unmoved

theorem Guarantee.aside (context : Context) (state : DeviceState) (mode : ControllerMode)
    (icom busOffs : Nat) (reports : List ErrorId) : Guarantee cfg view i may s { s with
      exCntxt := context, rwDevState := state, controllerMode := mode, gComConfigId := icom,
      busOffs := busOffs, reports := reports } := by
  refine Guarantee.on_tx (fun lane => ?_) (fun sane => sane.tx) rfl fun _ _ =>
    Undisturbed.same rfl rfl
  refine Unmoved.grows ?_ lane id
  exact ⟨rfl, rfl, rfl, rfl, rfl, rfl, rfl, rfl⟩

end Guarantees

section Looking
variable {P : State D → Prop}

theorem does_spiRead {address : Address} {count : Nat} {R : List Word → State D → Prop}
    (kept : Kept cfg view i P) (kept_post : ∀ words, Kept cfg view i (R words))
    (regular : address ≠ .reg .intr)
    (learnt : ∀ s, Sane cfg view s → P s → R (chip.read s.dev address count) s) :
    Does cfg chip view i may P (spiRead address count) (fun a s => R a.2 s) := by
  refine does_look kept (fun a => kept_post a.2) ?_ fun s c sane holds allowed => ?_
  · intro s c
    cases c with
    | mk fault calls => cases fault <;> rfl
  · obtain ⟨fault, calls⟩ := c
    obtain rfl : fault = none := allowed.resolve_left regular
    exact learnt s sane holds

theorem does_spiRead_any {address : Address} {count : Nat} (kept : Kept cfg view i P) :
    Does cfg chip view i may P (spiRead address count) (fun _ => P) := by
  refine does_look kept (fun _ => kept) ?_ fun _ _ _ holds _ => holds
  intro s c
  cases c with
  | mk fault calls => cases fault <;> rfl

theorem does_readVerified {r : Register} {R : Word → State D → Prop}
    (kept : Kept cfg view i P) (kept_post : ∀ w, Kept cfg view i (R w))
    (regular : r ≠ .intr ∧ r ≠ .ndat1)
    (learnt : ∀ s, Sane cfg view s → P s → R (chip.register s.dev r) s) :
    Does cfg chip view i may P (readVerified cfg r) (fun a s => R a.2 s) := by
  have other : Address.reg r ≠ .reg .intr := fun same => regular.1 (Address.reg.inj same)
  refine does_bind (does_spiRead (R := fun words s => P s ∧ R (words.getD 0 0#32) s) kept
    (fun _ => kept.and (kept_post _)) other fun s sane holds => ⟨holds, learnt s sane holds⟩) ?_
  rintro ⟨status, words⟩
  refine does_bind (R := fun words s => R (words.getD 0 0#32) s) ?_ fun words =>
    does_pure (kept_post _) fun _ _ => id
  unfold verifySpiRead
  split
  · rw [if_neg fun same => regular.2 (Address.reg.inj same)]
    refine does_bind (does_spiRead (R := fun words s => R (words.getD 0 0#32) s)
      (kept.and (kept_post _)) (fun _ => kept_post _) other fun s sane holds =>
        learnt s sane holds.1) ?_
    rintro ⟨status', again⟩
    exact does_pure (kept_post _) fun _ _ => id
  · exact does_pure (kept.and (kept_post _)) fun _ _ holds => holds.2

theorem does_readVerified_any {r : Register} (kept : Kept cfg view i P) :
    Does cfg chip view i may P (readVerified cfg r) (fun _ => P) := by
  refine does_bind (does_spiRead_any kept) ?_
  rintro ⟨status, words⟩
  refine does_bind (R := fun _ => P) ?_ fun words => does_pure kept fun _ _ => id
  have again (address : Address) (count : Nat) : Does cfg chip view i may P
      (spiRead address count >>= fun again => pure again.2) (fun _ => P) :=
    does_bind (does_spiRead_any kept) fun _ => does_pure kept fun _ _ => id
  unfold verifySpiRead
  split_ifs
  · exact again _ _
  · exact does_pure kept fun _ _ => id
  · exact again _ _
  · exact does_pure kept fun _ _ => id

theorem does_detReportError {error : ErrorId} (lasting : Lasting cfg view (Mine cfg i) P)
    (plain : ∀ s reports, P s → P { s with reports := reports }) :
    Does cfg chip view i may P (detReportError error) (fun _ => P) :=
  does_ask lasting.kept (fun _ => lasting.kept) fun s _ _ holds _ =>
    ⟨Guarantee.aside s.exCntxt s.rwDevState s.controllerMode s.gComConfigId s.busOffs _,
      plain s _ holds⟩

end Looking

section Writing
variable {P : State D → Prop}

def State.written (s : State D) (chip : Chip D) (address : Address) (words : List Word) : State D :=
  { s with dev := chip.write s.dev address words }

theorem does_spiWrite {address : Address} {words : List Word} {R : State D → Prop}
    (kept : Kept cfg view i P) (kept_post : Kept cfg view i R) (regular : address ≠ .reg .intr)
    (step : ∀ s, Sane cfg view s → P s →
      Guarantee cfg view i may s (s.written chip address words) ∧
        R (s.written chip address words)) :
    Does cfg chip view i may P (spiWrite address words) (fun _ => R) := by
  refine does_ask kept (fun _ => kept_post) fun s c sane holds allowed => ?_
  obtain ⟨fault, calls⟩ := c
  obtain rfl : fault = none := allowed.resolve_left regular
  exact step s sane holds

theorem does_clear (contract : Contract cfg chip view) {w : Word} (kept : Kept cfg view i P)
    (others : ∀ lane : Lane, ¬ may lane → w &&& lane.flag = 0#32)
    (plain : ∀ s s', Unmoved view s s' → P s → P s') :
    Does cfg chip view i may P (spiWrite (.reg .intr) [w]) (fun _ => P) := by
  refine does_ask kept (fun _ => kept) fun s c sane holds _ => ?_
  obtain ⟨fault, calls⟩ := c
  cases fault with
  | some junk => exact ⟨Guarantee.refl s, holds⟩
  | none =>
      have cleared : view (s.written chip (.reg .intr) [w]).dev =
          { view s.dev with intr := (view s.dev).intr &&& ~~~w } := contract.clear s.dev w
      have unmoved : Unmoved view s (s.written chip (.reg .intr) [w]) := by
        constructor <;> first | rfl | rw [cleared]
      have guarantee : Guarantee cfg view i may s (s.written chip (.reg .intr) [w]) := by
        refine Guarantee.off_tx ?_ rfl (fun sane lane _ => unmoved.sound lane (sane.lanes lane))
          (fun sane => ?_) fun lane none => unmoved.grows lane ?_
        · simp only [txPart, cleared]
          rfl
        · rw [unmoved.received]
          exact sane.stored
        · rw [cleared, cleared_and (others lane none)]
          exact id
      exact ⟨guarantee, plain s _ unmoved holds⟩

theorem does_clear_other (contract : Contract cfg chip view) {w : Word}
    (others : ∀ lane : Lane, w &&& lane.flag = 0#32) (lasting : Lasting cfg view (Mine cfg i) P) :
    Does cfg chip view i may P (spiWrite (.reg .intr) [w]) (fun _ => P) := by
  have cleared : Does cfg chip view i (fun _ => False) (fun _ => True)
      (spiWrite (.reg .intr) [w]) (fun _ _ => True) :=
    does_clear contract kept_true (fun lane _ => others lane) fun _ _ _ _ => trivial
  have framed := does_frame cleared (lasting.mono fun _ here => ⟨here, id⟩)
  exact does_mono (does_may framed fun _ => False.elim) (fun _ _ holds => ⟨trivial, holds⟩)
    fun _ _ _ holds => holds.2

end Writing

section Masks

theorem masked_apart {m f : Word} (apart : m &&& f = 0#32) (w : Word) : w &&& m &&& f = 0#32 := by
  rw [BitVec.and_assoc, apart, BitVec.and_zero]

end Masks

end AnchorNode.CanDrv
