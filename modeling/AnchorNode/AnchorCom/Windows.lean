import AnchorNode.AnchorCom.Crediting
import AnchorNode.AnchorCom.Bounds
import AnchorNode.AnchorCom.Secured

/-! What the lower layer gets to see: the transmissions that are open on each channel and peer,
with the bytes copied in them, and the messages that have been made from one request. -/

namespace AnchorNode.AnchorCom.Tx

open AnchorNode.Lib

variable {cfg : Config} {env : Env} {s t : State}

/-- An open transmission: the request it is for, its length, and the bytes copied so far. -/
structure Window where
  ticket : Nat
  length : Nat
  taken : List UInt8
  deriving DecidableEq, Repr

/-- The open transmissions by channel and peer. -/
abbrev Windows := Nat → Nat → List Window

def Windows.set (w : Windows) (c i : Nat) (windows : List Window) : Windows :=
  Function.update w c (Function.update (w c) i windows)

def Windows.close (w : Windows) (k c i : Nat) : Windows :=
  w.set c i ((w c i).filter fun window => window.ticket != k)

/-- The bytes in front of a copy: those copied so far, or those up to where a retry goes back. -/
def Window.upTo (window : Window) (retry : Option Nat) : List UInt8 :=
  window.taken.take (retry.getD window.taken.length)

@[simp] theorem Window.upTo_none (window : Window) : window.upTo none = window.taken :=
  List.take_length

/-- What a copy makes of a transmission; the build that does not wait for the confirmation is done
with the last byte. -/
def Window.copied (cfg : Config) (window : Window) (retry : Option Nat) (bytes : List UInt8) :
    Option Window :=
  if cfg.build = .ncj29d5 ∧ (window.upTo retry ++ bytes).length = window.length then none
  else some { window with taken := window.upTo retry ++ bytes }

/-- A transmission is open from the call of the lower layer until its confirmation, or until the
lower layer has refused it. A copy belongs to every transmission that is open on its channel and
peer. -/
def trackWindow (cfg : Config) (w : Windows) : Event → Windows
  | .request k c i length => w.set c i (⟨k, length, []⟩ :: w c i)
  | .answered k c i .notOk => w.close k c i
  | .confirmed k c i _ => w.close k c i
  | .copied c i retry bytes =>
    w.set c i ((w c i).filterMap fun window => window.copied cfg retry bytes)
  | _ => w

def windowsOf (cfg : Config) (log : List Event) : Windows :=
  log.foldl (trackWindow cfg) fun _ _ => []

theorem windowsOf_append (cfg : Config) (log : List Event) (e : Event) :
    windowsOf cfg (log ++ [e]) = trackWindow cfg (windowsOf cfg log) e := by
  simp [windowsOf]

@[simp] theorem Windows.set_apply (w : Windows) (c i : Nat) (windows : List Window)
    (c' i' : Nat) : w.set c i windows c' i' = if c' = c ∧ i' = i then windows else w c' i' := by
  unfold Windows.set
  by_cases channels : c' = c
  · subst channels
    by_cases peers : i' = i
    · subst peers
      simp
    · simp [peers]
  · simp [channels]

theorem Windows.close_subset {w : Windows} {k c i c' i' : Nat} {window : Window}
    (still : window ∈ w.close k c i c' i') : window ∈ w c' i' := by
  rw [Windows.close, Windows.set_apply] at still
  split at still
  · rename_i here
    rw [here.1, here.2]
    exact List.mem_of_mem_filter still
  · exact still

def Event.isAside : Event → Bool
  | .request _ _ _ _ | .copied _ _ _ _ => false
  | _ => true

theorem windowsOf_aside (log : List Event) {events : List Event}
    (aside : ∀ e ∈ events, e.isAside = true) {c i : Nat} {window : Window}
    (still : window ∈ windowsOf cfg (log ++ events) c i) : window ∈ windowsOf cfg log c i := by
  induction events generalizing log with
  | nil => rwa [List.append_nil] at still
  | cons e es ih =>
      rw [List.append_cons] at still
      have later := ih (log ++ [e]) (fun f member => aside f (by simp [member])) still
      have quiet := aside e (by simp)
      rw [windowsOf_append] at later
      cases e with
      | request => cases quiet
      | copied => cases quiet
      | answered k c' i' result =>
          cases result with
          | ok => exact later
          | notOk => exact Windows.close_subset later
      | confirmed k c' i' result => exact Windows.close_subset later
      | _ => exact later

section Genuine

/-- A freshness value has been given out with this truncation. -/
def Fresh (env : Env) (truncFresh : UInt8) (fresh : List UInt8) : Prop :=
  ∃ log mem, env.txFreshness log = some (mem, truncFresh) ∧ fresh = mem.read 0 freshLen

/-- A message that has been made from the payload of request `k`: its text is the payload as it
has been formatted, encrypted if necessary. -/
structure Composed (cfg : Config) (env : Env) (log : List Event) (k i m : Nat)
    (payload fresh : List UInt8) (msg : Secured) : Prop where
  accepted : .accepted k i m payload ∈ log
  pduId : msg.pduId = (cfg.msgCfg m).pduId
  text : Enciphers cfg env m (formatText cfg m payload) fresh msg.text
  encrypted : (cfg.msgCfg m).encDecFlag = true →
    .encrypted k (formatText cfg m payload) fresh msg.text ∈ log

/-- The string has been formatted, encrypted if necessary and authenticated from the data of the
one request `k`: prefix, text, truncated freshness value and CMAC. -/
def Genuine (cfg : Config) (env : Env) (log : List Event) (k : Nat) (wire : List UInt8) : Prop :=
  ∃ i m payload msg fresh truncFresh cmac, Composed cfg env log k i m payload fresh msg ∧
    Fresh env truncFresh fresh ∧ Tags env (msg.authentic (getTxChanId cfg m i) fresh) cmac ∧
    .authenticated k (msg.authentic (getTxChanId cfg m i) fresh) cmac ∈ log ∧
    wire = msg.wire truncFresh cmac

theorem Composed.later {log : List Event} {k i m : Nat} {payload fresh : List UInt8}
    {msg : Secured} (composed : Composed cfg env log k i m payload fresh msg)
    (events : List Event) : Composed cfg env (log ++ events) k i m payload fresh msg where
  accepted := List.mem_append_left _ composed.accepted
  pduId := composed.pduId
  text := composed.text
  encrypted := fun secret => List.mem_append_left _ (composed.encrypted secret)

theorem Genuine.later {log : List Event} {k : Nat} {wire : List UInt8}
    (genuine : Genuine cfg env log k wire) (events : List Event) :
    Genuine cfg env (log ++ events) k wire := by
  obtain ⟨i, m, payload, msg, fresh, truncFresh, cmac, composed, given, tags, tag, whole⟩ := genuine
  exact ⟨i, m, payload, msg, fresh, truncFresh, cmac, composed.later events, given, tags,
    List.mem_append_left _ tag, whole⟩

end Genuine

section Slices

def sliceAllowed (cfg : Config) (env : Env) (log : List Event) : Event → Prop
  | .copied c i retry bytes => windowsOf cfg log c i ≠ [] ∧ ∀ window ∈ windowsOf cfg log c i,
      ∃ wire, Genuine cfg env log window.ticket wire ∧ wire.length = window.length ∧
        window.upTo retry ++ bytes <+: wire
  | _ => True

def Sliced (cfg : Config) (env : Env) (log : List Event) : Prop :=
  Recorded (sliceAllowed cfg env) log

theorem Sliced.aside {log : List Event} (sliced : Sliced cfg env log) {events : List Event}
    (aside : ∀ e ∈ events, e.isAside = true) : Sliced cfg env (log ++ events) := by
  apply Recorded.always sliced
  intro e member log
  have quiet := aside e member
  cases e with
  | copied => cases quiet
  | _ => trivial

end Slices

section Conditions

/-- The peer index from whose buffer a copy for channel `c` and peer `i` reads. -/
def sourceOf (cfg : Config) (c i : Nat) : Nat := copySource cfg (cfg.lowerTxCbPdu c i) i

/-- The id of the broadcast to the other MCU stands at its index, and nowhere else. -/
def ImcWired (cfg : Config) : Prop :=
  ∀ c < cfg.tpChMax, ∀ i < cfg.numLlTx,
    isImc cfg (cfg.lowerTxCbPdu c i) = true ↔ isImcIndex cfg i

def calls (cfg : Config) (s : State) : Op → Option (Nat × Nat)
  | .resume =>
    match s.task with
    | some ⟨i, .request, _⟩ =>
      if s.txHeadPtr.isSome ∧ (s.front i).queueState = .transReady then
        some ((s.front i).channel, i)
      else none
    | some ⟨i, .requestImc, _⟩ =>
      if s.txHeadPtr.isSome ∧ sendsImc cfg s i (s.queue i).head then
        some ((s.front i).channel, i + 1)
      else none
    | _ => none
  | _ => none

def copying (cfg : Config) (s : State) : Op → Option (Nat × Nat × Nat)
  | .copyTxData id (some args) =>
    match findByLLPdu cfg id cfg.lowerTxCbPdu cfg.numLlTx with
    | some (c, i) =>
      if getTxQueueHead s i = none ∧ isImc cfg id = false then none
      else some (c, i, copyOffset args (s.chTxInfo c i))
    | none => none
  | _ => none

theorem copying_copyTxData {id c i : Nat} {args : CopyArgs}
    (found : findByLLPdu cfg id cfg.lowerTxCbPdu cfg.numLlTx = some (c, i))
    (headed : (s.queue i).isEmpty = false ∨ isImc cfg id = true) :
    copying cfg s (.copyTxData id (some args)) =
      some (c, i, copyOffset args (s.chTxInfo c i)) := by
  have proceeds : ¬ (getTxQueueHead s i = none ∧ isImc cfg id = false) := by
    rintro ⟨empty, plain⟩
    rcases headed with filled | imc
    · simp [getTxQueueHead, filled] at empty
    · rw [plain] at imc
      cases imc
  simp [copying, found, proceeds]

theorem copying_bounds {op : Op} {c i offset : Nat}
    (copies : copying cfg s op = some (c, i, offset)) : c < cfg.tpChMax ∧ i < cfg.numLlTx := by
  cases op with
  | copyTxData id args =>
      cases args with
      | none => cases copies
      | some args =>
          simp only [copying] at copies
          split at copies
          · rename_i place found
            split at copies
            · cases copies
            · cases copies
              have bounds := findByLLPdu_bounds found
              exact ⟨bounds.1, bounds.2.1⟩
          · cases copies
  | _ => cases copies

/-- A request is stored in a buffer that no queued entry and no open transmission uses, fits
`uint16`, and is not for the index of the broadcast to the other MCU. A transmission is started
where none is open. The lower layer copies in an open transmission, and a retry goes back. The
last byte of a message of the build that does not wait for the confirmation is copied when no
other channel has a transmission to that peer in progress. -/
structure Undisturbed (cfg : Config) (s : State) (op : Op) : Prop where
  short : ∀ r, storing cfg s op = some r → r.1.length + r.1.length2 < 65536
  unqueued : ∀ r, storing cfg s op = some r →
    held s.toCore (otherEndIdxToUse cfg r.2 r.1.otherEndIdx) r.2 = 0
  unread : ∀ r, storing cfg s op = some r → ∀ c < cfg.tpChMax, ∀ i < cfg.numLlTx,
    windowsOf cfg s.log c i ≠ [] →
      sourceOf cfg c i = otherEndIdxToUse cfg r.2 r.1.otherEndIdx →
        (s.chTxInfo c i).txMsgIdx ≠ r.2
  own : ∀ r, storing cfg s op = some r →
    ¬ isImcIndex cfg (otherEndIdxToUse cfg r.2 r.1.otherEndIdx)
  started : ∀ p, calls cfg s op = some p → windowsOf cfg s.log p.1 p.2 = []
  within : ∀ p, copying cfg s op = some p → windowsOf cfg s.log p.1 p.2.1 ≠ []
  back : ∀ p, copying cfg s op = some p → p.2.2 ≤ (s.chTxInfo p.1 p.2.1).txOffset
  finished : ∀ p, finishing cfg s op = some p → ∀ c < cfg.tpChMax, c ≠ p.1 →
    s.flag c p.2 = false

instance (s : State) (op : Op) : Decidable (Undisturbed cfg s op) :=
  decidable_of_iff
    ((∀ r, storing cfg s op = some r → r.1.length + r.1.length2 < 65536) ∧
      (∀ r, storing cfg s op = some r →
        held s.toCore (otherEndIdxToUse cfg r.2 r.1.otherEndIdx) r.2 = 0) ∧
      (∀ r, storing cfg s op = some r → ∀ c < cfg.tpChMax, ∀ i < cfg.numLlTx,
        windowsOf cfg s.log c i ≠ [] →
          sourceOf cfg c i = otherEndIdxToUse cfg r.2 r.1.otherEndIdx →
            (s.chTxInfo c i).txMsgIdx ≠ r.2) ∧
      (∀ r, storing cfg s op = some r →
        ¬ isImcIndex cfg (otherEndIdxToUse cfg r.2 r.1.otherEndIdx)) ∧
      (∀ p, calls cfg s op = some p → windowsOf cfg s.log p.1 p.2 = []) ∧
      (∀ p, copying cfg s op = some p → windowsOf cfg s.log p.1 p.2.1 ≠ []) ∧
      (∀ p, copying cfg s op = some p → p.2.2 ≤ (s.chTxInfo p.1 p.2.1).txOffset) ∧
      ∀ p, finishing cfg s op = some p → ∀ c < cfg.tpChMax, c ≠ p.1 → s.flag c p.2 = false)
    ⟨fun ⟨short, unqueued, unread, own, started, within, back, finished⟩ =>
      ⟨short, unqueued, unread, own, started, within, back, finished⟩,
    fun ok => ⟨ok.short, ok.unqueued, ok.unread, ok.own, ok.started, ok.within, ok.back,
      ok.finished⟩⟩

end Conditions

end AnchorNode.AnchorCom.Tx
