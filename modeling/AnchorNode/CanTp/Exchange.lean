import AnchorNode.CanTp.Elsewhere

/-! What the log says of one channel: the data, frames and results that crossed its interfaces. -/

namespace AnchorNode.CanTp

section Transmissions

def txCopied (c x : Nat) (events : List Event) : List UInt8 :=
  events.flatMap fun
    | .copyTxData d y _ data .ok _ => if d = c ∧ y = x then data else []
    | _ => []

def sentFrames (c : Nat) (events : List Event) : List (List UInt8) :=
  events.filterMap fun
    | .canIfTransmit frame .ok => if frame.ch = c then some frame.bytes else none
    | _ => none

def txResults (c : Nat) (events : List Event) : List StdReturn :=
  events.filterMap fun
    | .txConfirmation d _ _ result => if d = c then some result else none
    | _ => none

theorem sentFrames_elsewhere {c : Nat} {events : List Event}
    (elsewhere : ∀ e ∈ events, e.channel? ≠ some c) : sentFrames c events = [] := by
  rw [sentFrames, List.filterMap_eq_nil_iff]
  intro e member
  have other := elsewhere e member
  cases e with
  | canIfTransmit frame result => cases result <;> simp_all [Event.channel?]
  | _ => rfl

structure TxSilent (c x : Nat) (events : List Event) : Prop where
  copied : txCopied c x events = []
  frames : sentFrames c events = []
  results : txResults c events = []

variable {c : Nat} {events new : List Event}

theorem txSilent_elsewhere (elsewhere : ∀ e ∈ new, e.channel? ≠ some c) : TxSilent c x new := by
  refine ⟨?_, sentFrames_elsewhere elsewhere, ?_⟩
  · rw [txCopied, List.flatMap_eq_nil_iff]
    intro e member
    have other := elsewhere e member
    cases e with
    | copyTxData d y id data answer available =>
        cases answer <;> simp_all [Event.channel?]
    | _ => rfl
  · rw [txResults, List.filterMap_eq_nil_iff]
    intro e member
    have other := elsewhere e member
    cases e with
    | txConfirmation d y id result => simp_all [Event.channel?]
    | _ => rfl

end Transmissions

section Receptions

def rxCopied (c r : Nat) (events : List Event) : List UInt8 :=
  events.flatMap fun
    | .copyRxData d q _ data _ _ => if d = c ∧ q = r then data else []
    | _ => []

def rxStarts (c : Nat) (events : List Event) : List Nat :=
  events.filterMap fun
    | .startOfReception d _ _ length _ _ => if d = c then some length else none
    | _ => none

def rxResults (c : Nat) (events : List Event) : List StdReturn :=
  events.filterMap fun
    | .rxIndication d _ _ result => if d = c then some result else none
    | _ => none

structure RxAccount (c r : Nat) (events : List Event) (starts : List Nat) (copied : List UInt8)
    (results : List StdReturn) (frames : List (List UInt8)) : Prop where
  starts : rxStarts c events = starts
  copied : rxCopied c r events = copied
  results : rxResults c events = results
  frames : sentFrames c events = frames

variable {c r : Nat} {events new : List Event} {starts starts' : List Nat}
  {copied copied' : List UInt8} {results results' : List StdReturn}
  {frames frames' : List (List UInt8)}

theorem RxAccount.append (first : RxAccount c r events starts copied results frames)
    (second : RxAccount c r new starts' copied' results' frames') :
    RxAccount c r (events ++ new) (starts ++ starts') (copied ++ copied') (results ++ results')
      (frames ++ frames') := by
  refine ⟨?_, ?_, ?_, ?_⟩
  · rw [← first.starts, ← second.starts]
    exact List.filterMap_append
  · rw [← first.copied, ← second.copied]
    exact List.flatMap_append
  · rw [← first.results, ← second.results]
    exact List.filterMap_append
  · rw [← first.frames, ← second.frames]
    exact List.filterMap_append

theorem rxAccount_elsewhere (elsewhere : ∀ e ∈ new, e.channel? ≠ some c) :
    RxAccount c r new [] [] [] [] := by
  refine ⟨?_, ?_, ?_, sentFrames_elsewhere elsewhere⟩
  · rw [rxStarts, List.filterMap_eq_nil_iff]
    intro e member
    have other := elsewhere e member
    cases e with
    | startOfReception => simp_all [Event.channel?]
    | _ => rfl
  · rw [rxCopied, List.flatMap_eq_nil_iff]
    intro e member
    have other := elsewhere e member
    cases e with
    | copyRxData => simp_all [Event.channel?]
    | _ => rfl
  · rw [rxResults, List.filterMap_eq_nil_iff]
    intro e member
    have other := elsewhere e member
    cases e with
    | rxIndication => simp_all [Event.channel?]
    | _ => rfl

end Receptions

end AnchorNode.CanTp
