import AnchorNode.Uds.Interference

/-! The handlers of the services with their accesses to the request made explicit: reading a byte
behind its end, or taking more from its length than there is, has no value. -/

namespace AnchorNode.Uds

open AnchorNode.Lib

/-- The bytes behind the service id, where they lie and how many there are. -/
structure Window where
  address : Nat
  bytes : Mem
  length : Nat

namespace Window

def byte (w : Window) (k : Nat) : Option UInt8 := if k < w.length then some (w.bytes k) else none

def behind (w : Window) (n : Nat) : Option Nat := if n ≤ w.length then some (w.length - n) else none

end Window

section Handlers
variable (w : Window) (a : Answer) (c : Core)

def checkedRdbi : Option (Core × UInt8) :=
  if w.length ≠ 2 then some (c.answerLength 0, incorrectMessageLength)
  else do
    let msb ← w.byte 0
    let lsb ← w.byte 1
    let c := (c.emit (.service .rdbi [make16Bit msb lsb])).store 3 a.written
    let respLen := if a.code = responsePending then 0 else a.respLen
    some (settle c a.accepted [msb, lsb] respLen, a.code)

def checkedWdbi : Option (Core × UInt8) := do
  let msb ← w.byte 0
  let lsb ← w.byte 1
  let left ← w.behind 2
  let c := (c.emit (.service .wdbi [make16Bit msb lsb, left])).store 3 a.written
  some (settle c a.accepted [msb, lsb] a.respLen, a.code)

def checkedRc : Option (Core × UInt8) := do
  let first ← w.byte 0
  let msb ← w.byte 1
  let lsb ← w.byte 2
  let left ← w.behind 3
  let sub := extractSubFn first c
  let c := { sub.1 with req := w.address + 3, reqLen := left }
  let c := (c.emit (.service .rc [make16Bit msb lsb, sub.2.toNat, left])).store 4 a.written
  some (settle c a.accepted [sub.2, msb, lsb] a.respLen, a.code)

def checkedRdtci : Option (Core × UInt8) := do
  let first ← w.byte 0
  let left ← w.behind 1
  let sub := extractSubFn first c
  let c := (sub.1.emit (.service .rdtci [sub.2.toNat, left])).store 2 a.written
  some (settle c a.positive [sub.2] a.respLen, a.code)

def checkedCdtci : Option (Core × UInt8) :=
  if w.length ≠ 3 then some (c.answerLength 0, incorrectMessageLength)
  else do
    let high ← w.byte 0
    let mid ← w.byte 1
    let low ← w.byte 2
    let c := c.emit (.service .cdtci [(high.toNat * 256 + mid.toNat) * 256 + low.toNat])
    some (c.answerLength 0, a.code)

def checkedDsc : Option (Core × UInt8) :=
  if w.length ≠ 1 then some (c.answerLength 0, incorrectMessageLength)
  else do
    let first ← w.byte 0
    let sub := extractSubFn first c
    let c := (sub.1.emit (.service .dsc [sub.2.toNat])).store 2 a.written
    some (settle c a.accepted [sub.2] a.respLen, a.code)

def checkedTp : Option (Core × UInt8) := do
  let first ← w.byte 0
  let sub := extractSubFn first c
  if w.length ≠ 1 then some (sub.1.answerLength 0, incorrectMessageLength)
  else if sub.2 ≠ 0 then some (sub.1.answerLength 0, subFunctionNotSupported)
  else some (settle sub.1 true [sub.2] 0, positiveResponse)

def checkedSa : Option (Core × UInt8) := do
  let first ← w.byte 0
  let left ← w.behind 1
  let sub := extractSubFn first c
  let c := (sub.1.emit (.service .sa [sub.2.toNat, left])).store 2 a.written
  some (settle c a.accepted [sub.2] a.respLen, a.code)

def checkedRd : Option (Core × UInt8) := do
  let dataFormatId ← w.byte 0
  let addrAndLenFormatId ← w.byte 1
  let left ← w.behind 2
  let c := c.emit (.service .rd [left, dataFormatId.toNat, addrAndLenFormatId.toNat])
  some (c.answerLength 0, if a.positive then generalReject else a.code)

def checkedTd : Option (Core × UInt8) := do
  let blockSequence ← w.byte 0
  let left ← w.behind 1
  let c := (c.emit (.service .td [left, blockSequence.toNat])).store 1 a.written
  some (if a.positive then c.answerLength a.respLen else c.answerLength 0, a.code)

def checkedRte : Option (Core × UInt8) := do
  let left ← w.behind 0
  let c := (c.emit (.service .rte [left])).store 1 a.written
  some (if a.positive then c.answerLength a.respLen else c.answerLength 0, a.code)

def checkedEr : Option (Core × UInt8) := do
  let first ← w.byte 0
  let sub := extractSubFn first c
  if w.length ≠ 1 then some (sub.1.answerLength 0, incorrectMessageLength)
  else
    let c := sub.1.emit (.service .er [sub.2.toNat])
    some (settle c a.positive [sub.2] 0, a.code)

def checkedHandle : Service → Option (Core × UInt8)
  | .dsc => checkedDsc w a c
  | .er => checkedEr w a c
  | .cdtci => checkedCdtci w a c
  | .rdtci => checkedRdtci w a c
  | .rdbi => checkedRdbi w a c
  | .sa => checkedSa w a c
  | .wdbi => checkedWdbi w a c
  | .rc => checkedRc w a c
  | .rd => checkedRd w a c
  | .td => checkedTd w a c
  | .rte => checkedRte w a c
  | .tp => checkedTp w c

end Handlers

variable {w : Window} {a : Answer} {c : Core} {cfg : Config} {s : State}

theorem byte_inside {k : Nat} (inside : k < w.length) : w.byte k = some (w.bytes k) :=
  if_pos inside

theorem behind_inside {n : Nat} (inside : n ≤ w.length) : w.behind n = some (w.length - n) :=
  if_pos inside

theorem u16_exact {n : Nat} (fits : n < 65536) (taken : Nat) : u16 (n - taken) = n - taken :=
  Nat.mod_eq_of_lt (by omega)

theorem checkedHandle_inside {svc : Service} (enough : svc.minLength ≤ w.length + 1)
    (fits : w.length < 65536) :
    checkedHandle w a c svc = some (handle w.bytes w.length a c w.address svc) := by
  cases svc with
  | dsc =>
      simp only [Service.minLength] at enough
      simp (disch := omega) only [checkedHandle, checkedDsc, handle, coreDsc, byte_inside]
      split <;> rfl
  | er =>
      simp only [Service.minLength] at enough
      simp (disch := omega) only [checkedHandle, checkedEr, handle, coreEr, byte_inside,
        Option.bind_eq_bind, Option.bind_some]
      split <;> rfl
  | cdtci =>
      simp only [Service.minLength] at enough
      simp (disch := omega) only [checkedHandle, checkedCdtci, handle, coreCdtci, byte_inside]
      split <;> rfl
  | rdtci =>
      simp only [Service.minLength] at enough
      simp (disch := omega) only [checkedHandle, checkedRdtci, handle, coreRdtci, byte_inside,
        behind_inside, u16_exact fits]
      rfl
  | rdbi =>
      simp only [Service.minLength] at enough
      simp (disch := omega) only [checkedHandle, checkedRdbi, handle, coreRdbi, byte_inside]
      split <;> rfl
  | sa =>
      simp only [Service.minLength] at enough
      simp (disch := omega) only [checkedHandle, checkedSa, handle, coreSa, byte_inside,
        behind_inside, u16_exact fits]
      rfl
  | wdbi =>
      simp only [Service.minLength] at enough
      simp (disch := omega) only [checkedHandle, checkedWdbi, handle, coreWdbi, byte_inside,
        behind_inside, u16_exact fits]
      rfl
  | rc =>
      simp only [Service.minLength] at enough
      simp (disch := omega) only [checkedHandle, checkedRc, handle, coreRc, byte_inside,
        behind_inside, u16_exact fits]
      rfl
  | rd =>
      simp only [Service.minLength] at enough
      simp (disch := omega) only [checkedHandle, checkedRd, handle, coreRd, byte_inside,
        behind_inside, u16_exact fits]
      rfl
  | td =>
      simp only [Service.minLength] at enough
      simp (disch := omega) only [checkedHandle, checkedTd, handle, coreTd, byte_inside,
        behind_inside, u16_exact fits]
      rfl
  | rte =>
      simp only [checkedHandle, checkedRte, handle, coreRte, behind_inside (Nat.zero_le _)]
      rfl
  | tp =>
      simp only [Service.minLength] at enough
      simp (disch := omega) only [checkedHandle, checkedTp, handle, coreTp, byte_inside,
        Option.bind_eq_bind, Option.bind_some]
      split
      · rfl
      · split <;> rfl

section Fields
variable (c : Core)

@[simp] theorem settle_req (accepted : Bool) (header : List UInt8) (n : Nat) :
    (settle c accepted header n).req = c.req := by
  unfold settle
  split <;> rfl

@[simp] theorem settle_reqLen (accepted : Bool) (header : List UInt8) (n : Nat) :
    (settle c accepted header n).reqLen = c.reqLen := by
  unfold settle
  split <;> rfl

@[simp] theorem extractSubFn_req (byte : UInt8) : (extractSubFn byte c).1.req = c.req := by
  simp only [extractSubFn]
  split <;> rfl

@[simp] theorem extractSubFn_reqLen (byte : UInt8) :
    (extractSubFn byte c).1.reqLen = c.reqLen := by
  simp only [extractSubFn]
  split <;> rfl

end Fields

theorem handle_request_end {svc : Service} (enough : svc.minLength ≤ w.length + 1)
    (fits : w.length < 65536) (whole : c.req + c.reqLen = w.address + w.length) :
    (handle w.bytes w.length a c w.address svc).1.req +
      (handle w.bytes w.length a c w.address svc).1.reqLen = w.address + w.length := by
  cases svc with
  | rc =>
      have header : 3 ≤ w.length := Nat.le_of_succ_le_succ enough
      have left : u16 (w.length - 3) = w.length - 3 := u16_exact fits 3
      simp only [handle, coreRc, settle_req, settle_reqLen]
      show w.address + 3 + u16 (w.length - 3) = w.address + w.length
      omega
  | dsc =>
      simp only [handle, coreDsc]
      split
      · exact whole
      · simpa [Core.store, Core.emit] using whole
  | er =>
      simp only [handle, coreEr]
      split
      · simpa [Core.answerLength] using whole
      · simpa [Core.emit] using whole
  | cdtci =>
      simp only [handle, coreCdtci]
      split <;> exact whole
  | rdtci => simpa [handle, coreRdtci, Core.store, Core.emit] using whole
  | rdbi =>
      simp only [handle, coreRdbi]
      split
      · exact whole
      · simpa [Core.store, Core.emit] using whole
  | sa => simpa [handle, coreSa, Core.store, Core.emit] using whole
  | wdbi => simpa [handle, coreWdbi, Core.store, Core.emit] using whole
  | rd => exact whole
  | td =>
      simp only [handle, coreTd]
      split <;> exact whole
  | rte =>
      simp only [handle, coreRte]
      split <;> exact whole
  | tp =>
      simp only [handle, coreTp]
      split
      · simpa [Core.answerLength] using whole
      · split
        · simpa [Core.answerLength] using whole
        · simpa using whole

/-- The request is given to the handler of a service. -/
structure Admitted (cfg : Config) (r : Request) (i : Reception) (s : State) (index : Nat)
    (svc : Service) : Prop where
  entry : findService cfg (r.bytes 0) = some (index, svc)
  taken : (cfg.functionAddressing && s.isBusy) = false
  permitted : i.session &&& svc.permittedSession cfg ≠ 0
  enough : svc.minLength ≤ r.length

def begun (r : Request) (address : Nat) (s : State) : State :=
  (coreStartS3 s).onCore fun c => { c with req := address, reqLen := r.length, respLen := 0 }

theorem minLength_pos (svc : Service) : 1 ≤ svc.minLength := by
  cases svc <;> decide

theorem apiDataIndication_given {r : Request} {i : Reception} {address : Nat}
    (given : r.address = some address) (some_byte : 1 ≤ r.length) :
    apiDataIndication cfg r i s =
      if cfg.functionAddressing && s.isBusy then coreStartS3 s
      else process cfg r address i (coreStartS3 s) := by
  simp only [apiDataIndication, given, if_neg (Nat.not_lt_of_le some_byte)]
  rfl

theorem Admitted.answered {r : Request} {i : Reception} {index address : Nat} {svc : Service}
    (admitted : Admitted cfg r i s index svc) (given : r.address = some address) :
    apiDataIndication cfg r i s =
      udsResponse cfg i.confirmed
        (handle (fun k => r.bytes (k + 1)) (r.length - 1) i.answer
          { (begun r address s).toCore with isBusy := true } (address + 1) svc).2 svc index
        { begun r address s with
          toCore := (handle (fun k => r.bytes (k + 1)) (r.length - 1) i.answer
            { (begun r address s).toCore with isBusy := true } (address + 1) svc).1 } := by
  obtain ⟨entry, taken, permitted, enough⟩ := admitted
  have some_byte : 1 ≤ r.length := (minLength_pos svc).trans enough
  rw [apiDataIndication_given given some_byte, taken]
  simp only [process, entry, if_neg permitted, if_neg (Nat.not_lt_of_le enough)]
  rfl

/-- Every handler that gets a request reads its bytes only, passes on what is left of them, and
leaves no more than that to its pending function; no handler gets a request that is too short
or not permitted in the session. -/
theorem handlers_inside (cfg : Config) (s : State) (r : Request) (i : Reception) {address : Nat}
    (given : r.address = some address) (some_byte : 1 ≤ r.length) (fits : r.length < 65536) :
    (∀ index svc, Admitted cfg r i s index svc → ∃ handled,
      checkedHandle ⟨address + 1, fun k => r.bytes (k + 1), r.length - 1⟩ i.answer
          { (begun r address s).toCore with isBusy := true } svc = some handled ∧
        apiDataIndication cfg r i s = udsResponse cfg i.confirmed handled.2 svc index
          { begun r address s with toCore := handled.1 } ∧
        handled.1.req + handled.1.reqLen = address + r.length) ∧
    ((¬ ∃ index svc, Admitted cfg r i s index svc) →
      apiDataIndication cfg r i s = coreStartS3 s ∨
      ∃ code, apiDataIndication cfg r i s =
        sendNegativeResponse cfg i.confirmed (r.bytes 0) code (begun r address s)) := by
  constructor
  · intro index svc admitted
    have enough : svc.minLength ≤ r.length - 1 + 1 := by
      have whole := admitted.enough
      omega
    have fits' : r.length - 1 < 65536 := by omega
    refine ⟨_, checkedHandle_inside enough fits', ?_, ?_⟩
    · exact admitted.answered given
    · have whole : address + r.length = address + 1 + (r.length - 1) := by omega
      rw [whole]
      exact handle_request_end enough fits' whole
  · intro refused
    rw [apiDataIndication_given given some_byte]
    cases taken : cfg.functionAddressing && s.isBusy with
    | true => exact Or.inl rfl
    | false =>
        refine Or.inr ?_
        simp only [Bool.false_eq_true, if_false, process]
        split
        · exact ⟨serviceNotSupported, rfl⟩
        · rename_i index svc entry
          split
          · exact ⟨notInActiveSession, rfl⟩
          · rename_i permitted
            split
            · exact ⟨incorrectMessageLength, rfl⟩
            · rename_i long
              exact absurd ⟨index, svc, entry, taken, permitted, Nat.le_of_not_lt long⟩ refused

def routineRequest : Request :=
  ⟨some 1000, fun k => [0x31, 0x01, 0x02, 0x03, 0xAA, 0xBB].getD k 0, 6⟩

theorem handlers_inside_routine : ∃ handled,
    checkedHandle ⟨1001, fun k => routineRequest.bytes (k + 1), 5⟩ ⟨positiveResponse, 0, []⟩
        { (begun routineRequest 1000 (coreReset powerUp)).toCore with isBusy := true } .rc =
          some handled ∧ handled.1.req + handled.1.reqLen = 1006 := by
  obtain ⟨handled, inside, _, whole⟩ := (handlers_inside sampleConfig (coreReset powerUp)
    routineRequest ⟨4, ⟨positiveResponse, 0, []⟩, false⟩ rfl (by decide) (by decide)).1 7 .rc
    ⟨by decide, rfl, by decide, by decide⟩
  exact ⟨handled, inside, whole⟩

end AnchorNode.Uds
