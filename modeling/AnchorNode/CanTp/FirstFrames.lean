import AnchorNode.CanTp.Carried
import AnchorNode.CanTp.Ownership

/-! The length a first frame announces, through the length type of the module. -/

namespace AnchorNode.CanTp

open AnchorNode.Lib

variable {b : Build} {cfg : Config b} {env : Env} {s s' : State} {ctx : RxContext} {data : Mem}
  {sduLength : Nat}

/-- The upper layer is told `ffDl` bytes, and once it takes the first of them the others remain. -/
def Announced (ffDl remaining : Nat) : Event → Prop
  | .startOfReception _ _ _ length _ _ => length = ffDl
  | .copyRxData _ _ _ bytes .ok _ => remaining + bytes.length = ffDl
  | _ => True

/-- The call from `s` to `s'` announces a reception of `ffDl` bytes on channel `c`, if any. -/
def Announces (s s' : State) (c ffDl : Nat) : Prop :=
  ∃ events, s'.log = s.log ++ events ∧
    ∀ e ∈ events, Announced ffDl (s'.channel c).sduLengthRemaining e

theorem firstFrame_context (s : State) (first : ctx.frameType = .first) :
    (rxSduLengthCheck b s ctx data sduLength).1 =
      { ctx with
        canDl := (firstFrameDl b ctx data sduLength).canDl
        dataOffset := (firstFrameDl b ctx data sduLength).dataOffset
        sduLength := b.toLength (encodedFfDl data ctx.addressSize) } := by
  simp only [rxSduLengthCheck, first]
  rfl

theorem fdCallOut_announced (b : Build) (env : Env) (ctx : RxContext) (data : Mem) (n : Nat)
    (s : State) :
    ∃ called, (fdCallOut b env ctx data n s).2.log = s.log ++ called ∧
      ∀ ffDl remaining, ∀ e ∈ called, Announced ffDl remaining e := by
  obtain ⟨called, record, callout⟩ := fdCallOut_record b env ctx data n s
  refine ⟨called, by rw [record], fun ffDl remaining e member => ?_⟩
  obtain ⟨bytes, answer, rfl⟩ := callout e member
  trivial

theorem getConnectionAcceptance_announced
    (accepted : getConnectionAcceptance b env ctx data sduLength s = .ok s') :
    ∃ before, s'.log = s.log ++ before ∧
      ∀ ffDl remaining, ∀ e ∈ before, Announced ffDl remaining e := by
  obtain ⟨called, log, quiet⟩ := fdCallOut_announced b env ctx data sduLength s
  rcases getConnectionAcceptance_cases accepted with rfl | rfl
  · exact ⟨called, log, quiet⟩
  · refine ⟨called ++ [_], by simp [pduRConfirmation, log]; rfl, ?_⟩
    intro ffDl remaining e member
    rcases List.mem_append.mp member with member | member
    · exact quiet ffDl remaining e member
    · rw [List.mem_singleton.mp member]
      trivial

theorem processRxFirstFrame_announces (env : Env) (s : State)
    (payload : u8 (b.subLength sduLength ctx.dataOffset) ≤ ctx.sduLength)
    (small : ctx.sduLength < 2 ^ b.lengthBits) :
    Announces s (processRxFirstFrame b env ctx data sduLength s) ctx.channelId ctx.sduLength := by
  have left := subLength_le small payload
  simp only [processRxFirstFrame]
  cases accepted : getConnectionAcceptance b env ctx data sduLength s with
  | error s₁ =>
      obtain ⟨called, log, quiet⟩ := fdCallOut_announced b env ctx data sduLength s
      rw [getConnectionAcceptance_refused accepted]
      exact ⟨called, log, quiet _ _⟩
  | ok s₁ =>
      obtain ⟨before, log, quiet⟩ := getConnectionAcceptance_announced accepted
      have told (s' : State) (after : List Event)
          (log' : s'.log = s₁.log ++ after)
          (announced : ∀ e ∈ after, Announced ctx.sduLength
            (s'.channel ctx.channelId).sduLengthRemaining e) :
          Announces s s' ctx.channelId ctx.sduLength := by
        refine ⟨before ++ after, by rw [log', log, List.append_assoc], ?_⟩
        intro e member
        rcases List.mem_append.mp member with member | member
        · exact quiet _ _ e member
        · exact announced e member
      simp only
      generalize env.startOfReception _ _ _ = answer
      obtain ⟨result, size⟩ := answer
      cases result with
      | ok =>
          simp only
          split
          · generalize env.copyRxData _ _ _ = copied
            obtain ⟨outcome, room⟩ := copied
            simp only
            split
            · rename_i refused
              refine told _ [_, _, _, _] (by simp [pduRConfirmation]; exact ⟨rfl, rfl, rfl, rfl⟩) ?_
              cases outcome <;> simp_all [Announced]
            · -- the payload is taken: what remains is the rest of the announced length
              refine told _ [_, _] (by simp; exact ⟨rfl, rfl⟩) ?_
              have whole : b.subLength ctx.sduLength (u8 (b.subLength sduLength ctx.dataOffset)) +
                  u8 (b.subLength sduLength ctx.dataOffset) = ctx.sduLength := by
                rw [left]
                exact Nat.sub_add_cancel payload
              cases outcome <;> simp [Announced, whole]
          · exact told _ [_, _] (by simp [pduRConfirmation]; exact ⟨rfl, rfl⟩)
              (by simp [Announced])
      | ovfl => exact told _ [_] (by simp; rfl) (by simp [Announced])
      | notOk => exact told _ [_] (by simp; rfl) (by simp [Announced])
      | busy => exact told _ [_] (by simp; rfl) (by simp [Announced])

/-- A first frame that passed the length check. -/
structure PassedFirst (b : Build) (s : State) (ctx : RxContext) (data : Mem) (sduLength : Nat) :
    Prop where
  first : ctx.frameType = .first
  address : ctx.addressSize ≤ 1
  frame : sduLength < invalidDl
  passed : (rxSduLengthCheck b s ctx data sduLength).2 = .ok

theorem PassedFirst.payload_le (sound : ∀ length dl, b.dlcCheck length dl = .ok ↔ dl ≤ length)
    (passed : PassedFirst b s ctx data sduLength) :
    u8 (b.subLength sduLength (rxSduLengthCheck b s ctx data sduLength).1.dataOffset) ≤
      encodedFfDl data ctx.addressSize := by
  have wide : 2 ^ 16 ≤ 2 ^ b.lengthBits := Nat.pow_le_pow_right (by decide) b.lengthBits_le
  obtain ⟨first, address, frame, passed⟩ := passed
  have long : (firstFrameDl b ctx data sduLength).canDl ≤ sduLength := by
    simp only [rxSduLengthCheck, first] at passed
    exact (sound _ _).mp passed
  obtain ⟨lower, upper, -, -, payload, offset, offset'⟩ := firstFrameDl_passed frame long
  have encoded : (firstFrameDl b ctx data sduLength).dl = encodedFfDl data ctx.addressSize := rfl
  rw [firstFrame_context s first]
  simp only
  rw [subLength_le (by omega) (by omega), u8_small (by omega)]
  omega

/-- The length of an accepted first frame survives the length type exactly when the type can
hold it: then the upper layer is told FF_DL, and the channel counts down from it. -/
theorem firstFrame_length_kept_iff (b : Build) (cfg : Config b) (s : State) (ctx : RxContext)
    (data : Mem) (sduLength : Nat)
    (sound : ∀ length dl, b.dlcCheck length dl = .ok ↔ dl ≤ length)
    (passed : PassedFirst b s ctx data sduLength) :
    let checked := (rxSduLengthCheck b s ctx data sduLength).1
    let ffDl := encodedFfDl data ctx.addressSize
    (checked.sduLength = ffDl ∧
        ∀ env, Announces s (processFrame b cfg env checked data sduLength s)
          checked.channelId ffDl) ↔
      ffDl < 2 ^ b.lengthBits := by
  have length : (rxSduLengthCheck b s ctx data sduLength).1.sduLength =
      encodedFfDl data ctx.addressSize % 2 ^ b.lengthBits := firstFrame_sduLength passed.first
  intro checked ffDl
  constructor
  · rintro ⟨kept, -⟩
    have positive : 0 < 2 ^ b.lengthBits := Nat.two_pow_pos _
    rw [← kept, length]
    exact Nat.mod_lt _ positive
  · intro small
    have kept : checked.sduLength = ffDl := length.trans (Nat.mod_eq_of_lt small)
    refine ⟨kept, fun env => ?_⟩
    have first : checked.frameType = .first :=
      (rxSduLengthCheck_same s ctx data sduLength).frameType.trans passed.first
    simp only [processFrame, first]
    rw [← kept]
    refine processRxFirstFrame_announces env s ?_ (kept ▸ small)
    rw [kept]
    exact passed.payload_le sound

def narrowBuild : Build := { nodeBuild with lengthBits := 16, lengthBits_le := by decide }

def narrowConfig : Config narrowBuild := { nodeConfig with channels_fit := by decide }

def narrowContext : RxContext where
  isFunctional := false
  isPaddingOn := false
  isFdEnabled := false
  address := 0
  frameType := .first
  flowStatus := 0
  sn := 0
  dataOffset := 0
  addressSize := 0
  canDl := 0
  channelId := 0
  sduId := 0
  pduId := 0
  pduRPduHandleId := 20
  sduLength := 0

def narrowFrame (i : Nat) : UInt8 := [0x10, 20, 1, 2, 3, 4, 5, 6].getD i 0

theorem firstFrame_length_kept_short :
    let checked := (rxSduLengthCheck narrowBuild nodeRam narrowContext narrowFrame 8).1
    let ffDl := encodedFfDl narrowFrame narrowContext.addressSize
    ffDl = 20 ∧ checked.sduLength = ffDl ∧ ∀ env, Announces nodeRam
      (processFrame narrowBuild narrowConfig env checked narrowFrame 8 nodeRam)
      checked.channelId ffDl := by
  have passed : PassedFirst narrowBuild nodeRam narrowContext narrowFrame 8 :=
    ⟨rfl, by decide, by decide, by decide⟩
  exact ⟨by decide, (firstFrame_length_kept_iff narrowBuild narrowConfig nodeRam narrowContext
    narrowFrame 8 nodeBuild_sound.2 passed).mpr (by decide)⟩

def longFrame (i : Nat) : UInt8 := [0x10, 0, 0, 1, 0, 0, 0xAA, 0xBB].getD i 0

def afterLongFrame : State :=
  run (step narrowBuild narrowConfig nodeEnv) (start narrowBuild narrowConfig nodeRam)
    [.rxIndication 0 (some ⟨some longFrame, 8⟩)]

/-- The frame is accepted, the upper layer is told 0 bytes, and the channel goes on to wait for
65534 more than that. -/
theorem long_firstFrame_truncated :
    encodedFfDl longFrame 0 = 65536 ∧
      (rxSduLengthCheck narrowBuild nodeRam narrowContext longFrame 8).2 = .ok ∧
      afterLongFrame.log =
        [.startOfReception 0 0 20 0 .ok 100, .copyRxData 0 0 20 [0xAA, 0xBB] .ok 100] ∧
      (afterLongFrame.channel 0).sduLength = 0 ∧
      (afterLongFrame.channel 0).sduLengthRemaining = 65534 := by
  refine ⟨by decide, by decide, ?_, ?_, ?_⟩
  · decide +kernel
  · decide +kernel
  · decide +kernel

end AnchorNode.CanTp
