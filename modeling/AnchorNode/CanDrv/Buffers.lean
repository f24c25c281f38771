import AnchorNode.CanDrv.Indicating

/-! The dedicated buffers share one interrupt flag and are served from the highest one with new data
down. -/

namespace AnchorNode.CanDrv

open AnchorNode.Lib

variable {D : Type} {cfg : Config} {chip : Chip D} {view : D → View} {i : Context}
  {ndat : BitVec 64}

def Dedicated (lane : Lane) : Prop := ∃ index, lane = .rx (.buffer index)

def Pending (cfg : Config) (view : D → View) (ndat : BitVec 64) (s : State D) : Prop :=
  ∀ index, (ndat.getLsbD index = true → (inbox cfg view (.rx (.buffer index))).Settled s ∧
      (inbox cfg view (.rx (.buffer index))).Counted 1 s) ∧
    (ndat.getLsbD index = false → (inbox cfg view (.rx (.buffer index))).Calm s)

def Besides (cfg : Config) (view : D → View) (ndat : BitVec 64) (b : Nat) (s : State D) : Prop :=
  ∀ index, index ≠ b → (ndat.getLsbD index = true →
      (inbox cfg view (.rx (.buffer index))).Settled s ∧
      (inbox cfg view (.rx (.buffer index))).Counted 1 s) ∧
    (ndat.getLsbD index = false → (inbox cfg view (.rx (.buffer index))).Calm s)

section Assertions
variable {among : Lane → Prop}

theorem lasting_besides (ndat : BitVec 64) (b : Nat)
    (here : ∀ index, index ≠ b → among (.rx (.buffer index))) :
    Lasting cfg view among (Besides cfg view ndat b) := by
  intro s s' sane grows besides index other
  have lane := here index other
  exact ⟨fun set => ((lasting_settled lane).and (lasting_counted lane 1)) s s' sane grows
    ((besides index other).1 set),
    fun clear => lasting_calm lane s s' sane grows ((besides index other).2 clear)⟩

theorem lasting_pending (here : ∀ index, among (.rx (.buffer index))) :
    Lasting cfg view among (Pending cfg view ndat) := by
  intro s s' sane grows pending index
  exact ⟨fun set => ((lasting_settled (here index)).and (lasting_counted (here index) 1)) s s' sane
    grows ((pending index).1 set),
    fun clear => lasting_calm (here index) s s' sane grows ((pending index).2 clear)⟩

end Assertions

section Loop

theorem acknowledge_buffer {index : Nat} (inside : index < 64) :
    spiWrite (.reg (acknowledgeRegister (.buffer index))) [1#32 <<< (index % 32)] =
      if index < 32 then spiWrite (.reg .ndat1) [1#32 <<< index]
      else spiWrite (.reg .ndat2) [1#32 <<< (index - 32)] := by
  by_cases low : index < 32
  · rw [if_pos low, Nat.mod_eq_of_lt low]
    simp only [acknowledgeRegister, if_pos low]
  · rw [if_neg low, Nat.mod_eq_sub_mod (by omega), Nat.mod_eq_of_lt (by omega)]
    simp only [acknowledgeRegister, if_neg low]

theorem processRxBuffers_step (some : ndat ≠ 0#64) {index : Nat} (inside : index < 64)
    (highest : (getmsb ndat).toNat = index) :
    processRxBuffers cfg i ndat = (do
      let msg ← fetchRxElement (rxElem cfg (.buffer index) index)
      let _ ← spiWrite (.reg (acknowledgeRegister (.buffer index))) [1#32 <<< (index % 32)]
      rxNotification cfg i (.buffer index) msg) >>=
        (fun _ => processRxBuffers cfg i (ndat &&& ~~~(1#64 <<< index))) := by
  rw [processRxBuffers, dif_pos some]
  rw [acknowledge_buffer inside]
  simp only [highest, bind_assoc]
  split <;> rfl

variable (configured : WellConfigured cfg) (contract : Contract cfg chip view)
  (mine : ∀ index, Mine cfg i (.rx (.buffer index)))
include configured contract mine

theorem does_buffer {index : Nat} (inside : index < 64) :
    Does cfg chip view i (fun other => other = .rx (.buffer index))
      (fun s => (inbox cfg view (.rx (.buffer index))).Settled s ∧
        (inbox cfg view (.rx (.buffer index))).Counted 1 s)
      (do
        let msg ← fetchRxElement (rxElem cfg (.buffer index) index)
        let _ ← spiWrite (.reg (acknowledgeRegister (.buffer index))) [1#32 <<< (index % 32)]
        rxNotification cfg i (.buffer index) msg)
      (fun _ s => (inbox cfg view (.rx (.buffer index))).Settled s ∧
        (inbox cfg view (.rx (.buffer index))).Counted 0 s) := by
  have regular : Address.reg (acknowledgeRegister (.buffer index)) ≠ .reg .intr := by
    by_cases low : index < 32 <;> simp [acknowledgeRegister, low]
  refine does_mono (does_exists fun frame => does_element (mine index) index frame
    (does_fetchRxElement contract (mine index) index frame) regular
    (fun s sane settled head _ => rx_taken sane settled head (contract.rx_clear s.dev index inside))
    0 fun msg frame read => ?_) (fun s sane holds => ?_) fun _ _ _ => id
  · rw [show msg = _ from read]
    exact does_rxNotification configured contract (mine index) frame 0
  · obtain ⟨frame, head⟩ := holds.2.head
    exact ⟨frame, ⟨contract.rx_buffer s.dev index, head⟩, holds⟩

theorem does_processRxBuffers (ndat : BitVec 64) : Does cfg chip view i Dedicated
    (Pending cfg view ndat) (processRxBuffers cfg i ndat) (fun _ => Pending cfg view 0#64) := by
  -- on the flags that are left; the buffer that is served is taken out of the word
  induction size : ndat.toNat using Nat.strong_induction_on generalizing ndat with
  | _ size' ih =>
      by_cases none : ndat = 0#64
      · subst none
        rw [processRxBuffers, dif_neg (by simp)]
        exact does_pure (lasting_pending mine).kept fun _ _ => id
      · obtain ⟨index, inside, highest, found⟩ := getmsb_highest none
        have smaller := clear_getmsb_lt none
        rw [found, Int.toNat_natCast] at smaller
        rw [processRxBuffers_step none inside (by rw [found, Int.toNat_natCast])]
        have served : Does cfg chip view i Dedicated _ _ _ := does_may
          (does_frame (does_buffer configured contract mine inside)
            (lasting_besides ndat index fun other apart => ⟨mine other, by simpa⟩))
          fun lane here => ⟨index, here⟩
        refine does_bind (does_mono served (fun s _ pending => ?_) fun _ s _ holds => ?_)
          fun _ => ih _ (size ▸ smaller) _ rfl
        · exact ⟨(pending index).1 highest.bit, fun other _ => pending other⟩
        · obtain ⟨⟨settled, counted⟩, besides⟩ := holds
          intro other
          rw [getLsbD_clear_bit ndat inside]
          by_cases same : other = index
          · subst same
            simpa using counted.calm settled
          · simpa [same] using besides other same

def newData (words : List Word) : BitVec 64 :=
  (words.getD 0 0#32).setWidth 64 ||| (words.getD 1 0#32).setWidth 64 <<< 32

omit configured mine in
theorem newData_bit (d : D) {index : Nat} (inside : index < 64) :
    (newData (chip.read d (.reg .ndat1) 2)).getLsbD index =
      !((view d).received (.buffer index)).isEmpty := by
  rw [newData, BitVec.getLsbD_or, BitVec.getLsbD_setWidth, BitVec.getLsbD_shiftLeft,
    BitVec.getLsbD_setWidth]
  by_cases low : index < 32
  · rw [contract.ndat1 d index low]
    simp [low, inside]
  · have upper := contract.ndat2 d (index - 32) (by omega)
    rw [show index - 32 + 32 = index by omega] at upper
    rw [upper, BitVec.getLsbD_of_ge _ _ (Nat.le_of_not_lt low)]
    simp [low, inside, show index - 32 < 64 by omega]

theorem does_processRxBuffer : Does cfg chip view i Dedicated
    (fun s => ∀ index, (inbox cfg view (.rx (.buffer index))).Settled s) (processRxBuffer cfg i)
    (fun _ s => ∀ index, (inbox cfg view (.rx (.buffer index))).Calm s) := by
  have settled : Kept cfg view i fun s =>
      ∀ index, (inbox cfg view (.rx (.buffer index))).Settled s := fun s s' sane rely holds index =>
    (lasting_settled (mine index)).kept s s' sane rely (holds index)
  have pending (words : List Word) : Kept cfg view i (Pending cfg view (newData words)) :=
    (lasting_pending mine).kept
  have reads (s : State D) (sane : Sane cfg view s)
      (holds : ∀ index, (inbox cfg view (.rx (.buffer index))).Settled s) :
      Pending cfg view (newData (chip.read s.dev (.reg .ndat1) 2)) s := by
    intro index
    have few : ((view s.dev).received (.buffer index)).length ≤ capacity cfg (.buffer index) :=
      sane.stored.room (.buffer index)
    have calm (none : ((view s.dev).received (.buffer index)).isEmpty = true) :
        (inbox cfg view (.rx (.buffer index))).Calm s :=
      ⟨holds index, Or.inl (List.isEmpty_iff.mp none)⟩
    by_cases inside : index < 64
    · rw [newData_bit contract s.dev inside]
      refine ⟨fun set => ⟨holds index, ?_⟩, fun clear => calm (by simpa using clear)⟩
      have some : 0 < ((view s.dev).received (.buffer index)).length := by
        simpa [List.length_pos_iff] using set
      refine ⟨some, Or.inl (few.trans ?_)⟩
      unfold capacity
      dsimp only
      split <;> omega
    · rw [BitVec.getLsbD_of_ge _ _ (Nat.le_of_not_lt inside)]
      refine ⟨nofun, fun _ => calm (List.isEmpty_iff_length_eq_zero.mpr (Nat.le_zero.mp ?_))⟩
      have beyond : ¬ index < cfg.canMsgRamConfig.canDedicatedRxBufferCount := by
        have := configured.rxBuffers
        omega
      exact few.trans (le_of_eq (if_neg beyond))
  have other : Address.reg .ndat1 ≠ .reg .intr := by decide
  refine does_bind (does_spiRead (R := fun words s =>
    (∀ index, (inbox cfg view (.rx (.buffer index))).Settled s) ∧
      Pending cfg view (newData words) s) settled (fun words => settled.and (pending words)) other
    fun s sane holds => ⟨holds, reads s sane holds⟩) ?_
  rintro ⟨_, words⟩
  refine does_bind (R := fun words => Pending cfg view (newData words)) ?_ fun words => ?_
  · have again : Does cfg chip view i Dedicated
        (fun s => (∀ index, (inbox cfg view (.rx (.buffer index))).Settled s) ∧
          Pending cfg view (newData words) s)
        (spiRead (.reg .ndat1) 2 >>= fun again => pure again.2)
        (fun words => Pending cfg view (newData words)) := by
      refine does_bind (does_spiRead (R := fun words => Pending cfg view (newData words))
        (settled.and (pending _)) pending other fun s sane holds => reads s sane holds.1) ?_
      rintro ⟨status, again⟩
      exact does_pure (pending again) fun _ _ => id
    have kept : Does cfg chip view i Dedicated
        (fun s => (∀ index, (inbox cfg view (.rx (.buffer index))).Settled s) ∧
          Pending cfg view (newData words) s)
        (pure words) (fun words => Pending cfg view (newData words)) :=
      does_pure (settled.and (pending _)) fun _ _ holds => holds.2
    unfold verifySpiRead
    split
    · rw [if_pos rfl]
      split
      · exact again
      · exact kept
    · exact kept
  · refine does_mono (does_processRxBuffers configured contract mine (newData words))
      (fun _ _ => id) fun _ s _ holds index => ?_
    exact (holds index).2 BitVec.getLsbD_zero

end Loop

end AnchorNode.CanDrv
