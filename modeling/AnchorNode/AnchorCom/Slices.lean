import AnchorNode.AnchorCom.BufferChanges

/-! While a transmission is open, the lower layer gets one genuine string, whatever happens
between its calls. -/

namespace AnchorNode.AnchorCom.Tx

open AnchorNode.Lib

variable {cfg : Config} {env : Env} {s t : State} {i : Nat} {events : List Event}

section Fronts

theorem front_only {e : Entry} (single : (s.keys i).Pairwise fun k l => k.1 ≠ l.1)
    (filled : (s.queue i).isEmpty = false) (member : e ∈ s.entries i)
    (same : e.msgIdx = (s.front i).msgIdx) : e = s.front i := by
  rw [entries_front filled] at member
  rcases List.mem_cons.mp member with front | tail
  · exact front
  · exact absurd same (tail_apart single filled tail)

theorem Untouched.preserved (untouched : Untouched cfg env s.toCore t.toCore events)
    (kept : Kept cfg env s.toCore) (kept' : Kept cfg env t.toCore) :
    Preserved cfg env s.toCore t.toCore := by
  refine ⟨kept', ?_⟩
  intro i bound filled filled' key ready
  obtain ⟨f, old, follows⟩ := untouched.entries i _ (front_mem filled')
  have message : f.msgIdx = (s.front i).msgIdx :=
    (key_msgIdx follows.key).symm.trans (key_msgIdx key)
  have same := front_only (kept.single i bound) filled old message
  rw [same] at follows
  exact ready.carry (untouched.spared i _) key (follows.sending ready.1)

section Flags
variable (untouched : Untouched cfg env s.toCore t.toCore events) (kept : Kept cfg env s.toCore)
  (flags : ∀ c i, t.flag c i = true → s.flag c i = true)
include untouched kept flags

theorem Untouched.flags_still (bound : i < cfg.numLlTx) (queue : t.queue i = s.queue i) :
    FlagsAt cfg env t.toCore i := by
  have front : t.front i = s.front i := by rw [Core.front, queue]; rfl
  apply (kept.flags i bound).carry (fun c => flags c i) (by rw [queue])
  intro _
  rw [front]
  exact ⟨rfl, id, fun ready => ready.carry (untouched.spared i _) rfl ready.1⟩

theorem Untouched.flags_replaced {q : Nat} {e : Entry} (filled : (s.queue q).isEmpty = false)
    (queue : t.queue = (s.setFront q e).queue) (follows : Follows cfg env s.toCore q (s.front q) e)
    (undone : e.queueState = .transDone → (s.front q).queueState = .transDone) :
    ∀ i < cfg.numLlTx, FlagsAt cfg env t.toCore i := by
  intro i bound
  by_cases here : i = q
  · subst here
    have now : t.queue i = (s.queue i).set (s.queue i).head e := by simp [queue]
    have front : t.front i = e := by simp [Core.front, now, Ring.front]
    apply (kept.flags i bound).carry (fun c => flags c i) (by rw [now, Ring.set_isEmpty])
    intro _
    rw [front]
    refine ⟨key_channel follows.key, undone, fun ready => ?_⟩
    exact ready.carry (untouched.spared i _) follows.key (follows.sending ready.1)
  · apply untouched.flags_still kept flags bound
    simp [queue, here]

theorem Untouched.flags_cleared {q : Nat} (ordinary : ¬ isImcIndex cfg q)
    (elsewhere : ∀ i, i ≠ q → t.queue i = s.queue i)
    (clear : ∀ c < cfg.tpChMax, t.flag c q = false) :
    ∀ i < cfg.numLlTx, FlagsAt cfg env t.toCore i := by
  intro i bound
  by_cases here : i = q
  · subst here
    exact FlagsAt.idle clear fun imc => absurd imc ordinary
  · exact untouched.flags_still kept flags bound (elsewhere i here)

end Flags

end Fronts

def Core.place (s : Core) (c i : Nat) : Nat × Nat :=
  ((s.chTxInfo c i).txMsgIdx, (s.chTxInfo c i).txOffset)

theorem Untouched.passes (untouched : Untouched cfg env s.toCore t.toCore events)
    (kept : Kept cfg env s.toCore) (aside : ∀ e ∈ events, e.isAside = true)
    (place : ∀ c i, t.place c i = s.place c i)
    (flags : ∀ i < cfg.numLlTx, FlagsAt cfg env t.toCore i) :
    Preserved cfg env s.toCore t.toCore := by
  apply untouched.preserved kept
  exact untouched.aside kept aside (fun c i => Prod.mk.inj (place c i)) flags

section Requests
variable {c p q k n : Nat}

theorem Untouched.opens (untouched : Untouched cfg env s.toCore t.toCore events)
    (kept : Kept cfg env s.toCore) (atFront : AtFront cfg s q)
    (ready : Sealed cfg env s.toCore q (s.front q)) (source : sourceOf cfg c p = q)
    (channel : t.chTxInfo c p = ⟨true, 0, (s.front q).msgIdx⟩) :
    Open cfg env t.toCore c p
      ⟨(s.front q).ticket, (s.msgTxInfo q (s.front q).msgIdx).length, []⟩ := by
  have spared := untouched.spared q (s.front q).msgIdx
  obtain ⟨sending, wire, whole⟩ := ready
  refine ⟨⟨wire, ?_, whole.2.1.symm, List.nil_prefix⟩, ?_, ?_, ?_⟩
  · rw [source, channel, spared.log, spared.buffer, spared.length]
    exact whole.later events
  · rw [channel]
    rfl
  · rw [source]
    exact atFront.bound
  · intro e member same
    rw [source] at member
    rw [channel] at same
    obtain ⟨f, old, follows⟩ := untouched.entries q e member
    have front := front_only (kept.single q atFront.bound) atFront.filled old
      ((key_msgIdx follows.key).symm.trans same)
    rw [front] at follows
    exact follows.sending sending

theorem Untouched.requested
    (untouched : Untouched cfg env s.toCore t.toCore [.request k c p n])
    (kept : Kept cfg env s.toCore) (none : windowsOf cfg s.log c p = [])
    (others : ∀ c' i', ¬ (c' = c ∧ i' = p) → t.place c' i' = s.place c' i')
    (opens : p < cfg.numLlTx → Open cfg env t.toCore c p ⟨k, n, []⟩)
    (flags : ∀ i < cfg.numLlTx, FlagsAt cfg env t.toCore i) : Kept cfg env t.toCore := by
  apply untouched.kept kept flags
  · intro d channel i bound window now
    rw [untouched.log, windowsOf_append] at now
    simp only [trackWindow, Windows.set_apply, none] at now
    split at now
    · rename_i here
      obtain ⟨rfl, rfl⟩ := here
      rw [List.mem_singleton.mp now]
      exact opens bound
    · rename_i other
      exact untouched.open (kept.windows d channel i bound window now)
        (Prod.mk.inj (others d i other))
  · rw [untouched.log]
    exact recorded_append.mpr ⟨kept.sliced, trivial⟩

end Requests

section Copies
variable {id c : Nat} {args : CopyArgs} {window : Window}

theorem Open.offset_le (opened : Open cfg env s.toCore c i window) :
    (s.chTxInfo c i).txOffset ≤
      (s.msgTxInfo (sourceOf cfg c i) (s.chTxInfo c i).txMsgIdx).length := by
  obtain ⟨wire, ready, _, taken⟩ := opened.ready
  rw [opened.offset, ready.2.1]
  exact taken.length_le

theorem Open.upTo (opened : Open cfg env s.toCore c i window)
    (back : copyOffset args (s.chTxInfo c i) ≤ (s.chTxInfo c i).txOffset) :
    window.upTo (args.retry.map u16) =
      window.taken.take (copyOffset args (s.chTxInfo c i)) ∧
      copyOffset args (s.chTxInfo c i) ≤ window.taken.length := by
  rw [opened.offset] at back
  refine ⟨?_, back⟩
  rw [Window.upTo, copyOffset, opened.offset]

theorem Open.slice (opened : Open cfg env s.toCore c i window) (own : cfg.lowerTxCbPdu c i = id)
    (back : copyOffset args (s.chTxInfo c i) ≤ (s.chTxInfo c i).txOffset) :
    (∃ wire, Ready cfg env s.log window.ticket
        (s.buffer (sourceOf cfg c i) (s.chTxInfo c i).txMsgIdx)
        (s.msgTxInfo (sourceOf cfg c i) (s.chTxInfo c i).txMsgIdx).length wire ∧
      wire.length = window.length ∧
        window.upTo (args.retry.map u16) ++ copiedBytes cfg s.toCore id c i args <+: wire) ∧
      u16 (copyOffset args (s.chTxInfo c i) + copyCount cfg s.toCore id c i args) =
        (window.upTo (args.retry.map u16) ++ copiedBytes cfg s.toCore id c i args).length := by
  obtain ⟨wire, ready, length, taken⟩ := opened.ready
  have ⟨_, stored, holds, small⟩ := ready
  have source : copySource cfg id i = sourceOf cfg c i := by rw [sourceOf, own]
  obtain ⟨front, inside⟩ := opened.upTo back
  have whole := taken.length_le
  have same : window.upTo (args.retry.map u16) =
      wire.take (copyOffset args (s.chTxInfo c i)) := by
    rw [front, List.prefix_iff_eq_take.mp taken, List.take_take, Nat.min_eq_left inside]
  have remaining : copyRemaining cfg s.toCore id c i args =
      wire.length - copyOffset args (s.chTxInfo c i) := by
    rw [copyRemaining, source, stored, sub16]
    omega
  let count := copyCount cfg s.toCore id c i args
  have few : count ≤ wire.length - copyOffset args (s.chTxInfo c i) := by
    rw [← remaining]
    exact Nat.min_le_right _ _
  have bytes : copiedBytes cfg s.toCore id c i args =
      (wire.drop (copyOffset args (s.chTxInfo c i))).take count := by
    rw [copiedBytes, source, Nat.add_comm]
    exact read_slice holds _ _ (by omega)
  have joined : window.upTo (args.retry.map u16) ++ copiedBytes cfg s.toCore id c i args =
      wire.take (copyOffset args (s.chTxInfo c i) + count) := by
    rw [List.take_add, ← same, bytes]
  refine ⟨⟨wire, ready, length, ?_⟩, ?_⟩
  · rw [joined]
    exact List.take_prefix _ _
  · rw [joined, List.length_take, u16]
    omega

theorem Untouched.copied
    (untouched : Untouched cfg env s.toCore t.toCore
      [.copied c i (args.retry.map u16) (copiedBytes cfg s.toCore id c i args)])
    (kept : Kept cfg env s.toCore) (channel : c < cfg.tpChMax) (bound : i < cfg.numLlTx)
    (own : cfg.lowerTxCbPdu c i = id) (within : windowsOf cfg s.log c i ≠ [])
    (back : copyOffset args (s.chTxInfo c i) ≤ (s.chTxInfo c i).txOffset)
    (here : t.place c i = ((s.chTxInfo c i).txMsgIdx,
      u16 (copyOffset args (s.chTxInfo c i) + copyCount cfg s.toCore id c i args)))
    (others : ∀ c' i', ¬ (c' = c ∧ i' = i) → t.place c' i' = s.place c' i')
    (flags : ∀ i < cfg.numLlTx, FlagsAt cfg env t.toCore i) : Kept cfg env t.toCore := by
  have opened := kept.windows c channel i bound
  apply untouched.kept kept flags
  · intro d channel' j bound' window now
    rw [untouched.log, windowsOf_append] at now
    simp only [trackWindow, Windows.set_apply] at now
    split at now
    · rename_i same
      obtain ⟨rfl, rfl⟩ := same
      obtain ⟨before, member, copied⟩ := List.mem_filterMap.mp now
      unfold Window.copied at copied
      split at copied
      · cases copied
      · rw [← Option.some.inj copied]
        have old := opened before member
        obtain ⟨⟨wire, ready, length, taken⟩, offset⟩ := old.slice own back
        have msgIdx : (t.chTxInfo d j).txMsgIdx = (s.chTxInfo d j).txMsgIdx :=
          (Prod.mk.inj here).1
        have spared := untouched.spared (sourceOf cfg d j) (s.chTxInfo d j).txMsgIdx
        refine ⟨⟨wire, ?_, length, taken⟩, (Prod.mk.inj here).2.trans offset, old.source, ?_⟩
        · rw [msgIdx, spared.log, spared.buffer, spared.length]
          exact ready.later _
        · intro e member same
          obtain ⟨f, present, follows⟩ := untouched.entries _ e member
          apply follows.sending (old.entries f present _)
          exact (key_msgIdx follows.key).symm.trans (same.trans msgIdx)
    · rename_i other
      exact untouched.open (kept.windows d channel' j bound' window now)
        (Prod.mk.inj (others d j other))
  · rw [untouched.log]
    refine recorded_append.mpr ⟨kept.sliced, ?_⟩
    refine ⟨within, ?_⟩
    intro window member
    obtain ⟨⟨wire, ready, length, taken⟩, _⟩ := (opened window member).slice own back
    exact ⟨wire, ready.1, length, taken⟩

end Copies

end AnchorNode.AnchorCom.Tx
