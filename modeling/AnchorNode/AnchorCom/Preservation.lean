import AnchorNode.AnchorCom.Slices
import AnchorNode.AnchorCom.Encryptions

/-! Every move that leaves the buffers that are in use alone preserves what is known between two
steps. -/

namespace AnchorNode.AnchorCom.Tx

open AnchorNode.Lib

variable {cfg : Config} {env : Env} {s t : State} {i : Nat}

section Moves

theorem setCh_place (s : State) (c i : Nat) (ch : ChTxInfo) (c' i' : Nat) :
    (s.setCh c i ch).place c' i' =
      if c' = c ∧ i' = i then (ch.txMsgIdx, ch.txOffset) else s.place c' i' := by
  unfold Core.place
  by_cases channels : c' = c
  · subst channels
    by_cases peers : i' = i
    · subst peers
      simp
    · simp [peers]
  · simp [channels]

theorem reports_aside {events : List Event}
    (noise : ∀ e ∈ events, ∃ id api error, e = .reportError id api error) :
    ∀ e ∈ events, e.isAside = true := by
  intro e member
  obtain ⟨_, _, _, rfl⟩ := noise e member
  rfl

theorem sourceOf_own (wired : ImcWired cfg) {c : Nat} (channel : c < cfg.tpChMax)
    (bound : i < cfg.numLlTx) (ordinary : ¬ isImcIndex cfg i) : sourceOf cfg c i = i := by
  have other : ¬ isImc cfg (cfg.lowerTxCbPdu c i) = true :=
    fun imc => ordinary ((wired c channel i bound).mp imc)
  simp [sourceOf, copySource, other]

theorem sourceOf_imc (wired : ImcWired cfg) {c : Nat} (channel : c < cfg.tpChMax)
    (bound : i + 1 < cfg.numLlTx) (imc : isImcIndex cfg (i + 1)) : sourceOf cfg c (i + 1) = i := by
  have same := (wired c channel (i + 1) bound).mpr imc
  simp [sourceOf, copySource, same]

theorem Kept.requested (kept : Kept cfg env s.toCore) (wired : ImcWired cfg) {q : Nat}
    (atFront : AtFront cfg s q) (ready : (s.front q).queueState = .transReady)
    (none : windowsOf cfg s.log (s.front q).channel q = [])
    (becomes : t.toCore = (((s.setFront q { s.front q with queueState := .transRunning }).setCh
      (s.front q).channel q ⟨true, 0, (s.front q).msgIdx⟩).emit (.request (s.front q).ticket
        (s.front q).channel q (s.msgTxInfo q (s.front q).msgIdx).length)).toCore) :
    Preserved cfg env s.toCore t.toCore := by
  have sealed := kept.sealed q atFront.bound _ (front_mem atFront.filled) (Or.inl ready)
  have follows : Follows cfg env s.toCore q (s.front q)
      { s.front q with queueState := .transRunning } := ⟨rfl, rfl, Or.inr ⟨rfl, fun _ => sealed⟩⟩
  have untouched : Untouched cfg env s.toCore t.toCore [_] :=
    .of_front becomes atFront.filled rfl rfl (fun _ _ => rfl) rfl follows
  have before := kept.flags q atFront.bound
  have ordinary := before.ordinary atFront.filled
  have channel : (s.front q).channel < cfg.tpChMax := by
    rw [atFront.own.channel]
    exact cfg.channel_lt _ atFront.own.msgIdx
  have queue : t.queue q = (s.queue q).set (s.queue q).head
      { s.front q with queueState := .transRunning } := by
    rw [becomes]
    simp
  have front : t.front q = { s.front q with queueState := .transRunning } := by
    simp [Core.front, queue, Ring.front]
  have filled : (t.queue q).isEmpty = false := by rw [queue, Ring.set_isEmpty, atFront.filled]
  have set : ∀ c j, t.flag c j = true → c = (s.front q).channel ∧ j = q ∨ s.flag c j = true := by
    intro c j now
    rw [becomes] at now
    change ((s.setFront q _).setCh (s.front q).channel q _).flag c j = true at now
    rw [setCh_flag] at now
    split at now
    · rename_i here
      exact Or.inl here
    · exact Or.inr now
  have flags : ∀ j < cfg.numLlTx, FlagsAt cfg env t.toCore j := by
    intro j bound
    by_cases here : j = q
    · subst here
      refine ⟨?_, ?_, fun imc => absurd imc ordinary⟩
      · intro c bound now
        have own : (s.front j).channel = c := by
          rcases set c j now with new | old
          · exact new.1.symm
          · exact (before.channel atFront.filled bound old).1
        rw [front]
        exact Or.inr ⟨filled, own, sealed.carry (untouched.spared j _) rfl rfl⟩
      · intro _ done
        rw [front] at done
        cases done
    · have same : t.queue j = s.queue j := by
        rw [becomes]
        simp [here]
      have front : t.front j = s.front j := by rw [Core.front, same]; rfl
      apply (kept.flags j bound).carry
      · intro c now
        exact (set c j now).resolve_left fun both => here both.2
      · rw [same]
      · intro _
        rw [front]
        exact ⟨rfl, id, fun ready => ready.carry (untouched.spared j _) rfl ready.1⟩
  apply untouched.preserved kept
  apply untouched.requested kept none _ _ flags
  · intro c j other
    rw [becomes]
    exact (setCh_place _ _ _ _ c j).trans (if_neg other)
  · intro bound
    apply untouched.opens kept atFront sealed (sourceOf_own wired channel bound ordinary)
    rw [becomes]
    simp

theorem Kept.requestedImc (kept : Kept cfg env s.toCore) (wired : ImcWired cfg) {q : Nat}
    (atFront : AtFront cfg s q) (sealed : Sealed cfg env s.toCore q (s.front q))
    (radio : cfg.masterHasRf = true) (broadcast : (cfg.msgCfg (s.front q).msgIdx).broadcast = true)
    (none : windowsOf cfg s.log (s.front q).channel (q + 1) = [])
    (becomes : t.toCore = ((s.setCh (s.front q).channel (q + 1)
      ⟨true, 0, (s.front q).msgIdx⟩).emit (.request (s.front q).ticket (s.front q).channel (q + 1)
        (s.msgTxInfo q (s.front q).msgIdx).length)).toCore) :
    Preserved cfg env s.toCore t.toCore := by
  have untouched : Untouched cfg env s.toCore t.toCore [_] :=
    .of_queue becomes rfl rfl (fun _ _ => rfl) rfl
  have imc : isImcIndex cfg (q + 1) := ⟨radio, by rw [atFront.own.broadcast broadcast]⟩
  have channel : (s.front q).channel < cfg.tpChMax := by
    rw [atFront.own.channel]
    exact cfg.channel_lt _ atFront.own.msgIdx
  have queue : t.queue = s.queue := by rw [becomes]; rfl
  have flags : ∀ j < cfg.numLlTx, FlagsAt cfg env t.toCore j := by
    intro j bound
    have before := kept.flags j bound
    by_cases here : j = q + 1
    · subst here
      refine ⟨fun _ _ _ => Or.inl imc, ?_, ?_⟩
      · intro filled
        rw [queue, before.imc imc] at filled
        cases filled
      · rw [queue]
        exact before.imc
    · have front : t.front j = s.front j := by rw [Core.front, queue]; rfl
      apply before.carry
      · intro c now
        rw [becomes] at now
        change (s.setCh (s.front q).channel (q + 1) _).flag c j = true at now
        rw [setCh_flag, if_neg (fun both => here both.2)] at now
        exact now
      · rw [queue]
      · intro _
        rw [front]
        exact ⟨rfl, id, fun ready => ready.carry (untouched.spared j _) rfl ready.1⟩
  apply untouched.preserved kept
  apply untouched.requested kept none _ _ flags
  · intro c j other
    rw [becomes]
    exact (setCh_place _ _ _ _ c j).trans (if_neg other)
  · intro bound
    apply untouched.opens kept atFront sealed (sourceOf_imc wired channel bound imc)
    rw [becomes]
    simp

theorem Kept.copied (kept : Kept cfg env s.toCore) {id c q : Nat} {args : CopyArgs}
    (undisturbed : Undisturbed cfg s (.copyTxData id (some args))) (bound : q < cfg.numLlTx)
    (found : findByLLPdu cfg id cfg.lowerTxCbPdu cfg.numLlTx = some (c, q))
    (headed : AtFront cfg s q ∨ (s.queue q).isEmpty = true ∧ isImc cfg id = true)
    (given : args.hasBuffer = true)
    (becomes : t.toCore = (((if copyFinishes cfg s.toCore id c q args then
        s.setFront q { s.front q with queueState := .transDone } else s).setCh c q
      { s.chTxInfo c q with
        txInProgress := (s.chTxInfo c q).txInProgress && !copyFinishes cfg s.toCore id c q args
        txOffset := u16 (copyOffset args (s.chTxInfo c q) +
          copyCount cfg s.toCore id c q args) }).emit
        (.copied c q (args.retry.map u16) (copiedBytes cfg s.toCore id c q args))).toCore) :
    Preserved cfg env s.toCore t.toCore := by
  obtain ⟨channel, _, own⟩ := findByLLPdu_bounds found
  have copies := @copying_copyTxData _ _ _ _ _ args found
    (headed.imp (fun atFront => atFront.filled) fun imc => imc.2)
  have set : ∀ d j, t.flag d j = if d = c ∧ j = q then
      s.flag c q && !copyFinishes cfg s.toCore id c q args else s.flag d j := by
    intro d j
    rw [becomes]
    refine (setCh_flag _ c q _ d j).trans ?_
    split
    · rfl
    · split <;> rfl
  have fewer : ∀ d j, t.flag d j = true → s.flag d j = true := by
    intro d j now
    rw [set] at now
    split at now
    · rename_i here
      rw [here.1, here.2]
      exact (Bool.and_eq_true_iff.mp now).1
    · exact now
  have place : ∀ d j, t.place d j = if d = c ∧ j = q then ((s.chTxInfo c q).txMsgIdx,
      u16 (copyOffset args (s.chTxInfo c q) + copyCount cfg s.toCore id c q args))
      else s.place d j := by
    intro d j
    rw [becomes]
    refine (setCh_place _ c q _ d j).trans ?_
    split
    · rfl
    · split <;> rfl
  have copied : ∀ events, events = [.copied c q (args.retry.map u16)
        (copiedBytes cfg s.toCore id c q args)] → Untouched cfg env s.toCore t.toCore events →
      (∀ j < cfg.numLlTx, FlagsAt cfg env t.toCore j) → Preserved cfg env s.toCore t.toCore := by
    intro events same untouched flags
    subst same
    apply untouched.preserved kept
    apply untouched.copied kept channel bound own (undisturbed.within _ copies)
      (undisturbed.back _ copies) _ _ flags
    · rw [place, if_pos ⟨rfl, rfl⟩]
    · intro d j other
      rw [place, if_neg other]
  cases finishes : copyFinishes cfg s.toCore id c q args with
  | false =>
      rw [finishes] at becomes
      have untouched : Untouched cfg env s.toCore t.toCore [_] :=
        .of_queue becomes rfl rfl (fun _ _ => rfl) rfl
      apply copied _ rfl untouched
      intro j bound
      apply untouched.flags_still kept fewer bound
      rw [becomes]
      rfl
  | true =>
      have atFront := copyFinishes_atFront headed finishes
      rw [finishes] at becomes
      have follows : Follows cfg env s.toCore q (s.front q)
          { s.front q with queueState := .transDone } :=
        ⟨rfl, rfl, Or.inr ⟨rfl, fun undone => absurd rfl undone⟩⟩
      have untouched : Untouched cfg env s.toCore t.toCore [_] :=
        .of_front becomes atFront.filled rfl rfl (fun _ _ => rfl) rfl follows
      apply copied _ rfl untouched
      apply untouched.flags_cleared kept fewer ((kept.flags q bound).ordinary atFront.filled)
      · intro j other
        rw [becomes]
        simp [other]
      · intro d peer
        rw [set]
        split
        · rw [finishes]
          simp
        · rename_i other
          apply undisturbed.finished (c, q) _ d peer fun same => other ⟨same, rfl⟩
          simp [finishing, found, given, finishes]

theorem Kept.logged (kept : Kept cfg env s.toCore) (events : List Event)
    (aside : ∀ e ∈ events, e.isAside = true)
    (becomes : t.toCore = { s.toCore with log := s.log ++ events }) :
    Preserved cfg env s.toCore t.toCore := by
  have untouched : Untouched cfg env s.toCore t.toCore events :=
    .of_queue becomes rfl rfl (fun _ _ => rfl) rfl
  apply untouched.passes kept aside
  · intro c j
    rw [becomes]
    rfl
  · intro j bound
    apply untouched.flags_still kept _ bound
    · rw [becomes]
    · intro c j set
      rwa [becomes] at set

theorem Kept.moves_on (kept : Kept cfg env s.toCore) {q : Nat} {e : Entry}
    (atFront : AtFront cfg s q) (becomes : t.toCore = (s.setFront q e).toCore)
    (follows : Follows cfg env s.toCore q (s.front q) e)
    (undone : e.queueState = .transDone → (s.front q).queueState = .transDone) :
    Preserved cfg env s.toCore t.toCore := by
  have untouched : Untouched cfg env s.toCore t.toCore [] :=
    .of_front becomes atFront.filled (List.append_nil _).symm rfl (fun _ _ => rfl) rfl follows
  apply untouched.passes kept (List.forall_mem_nil _)
  · intro c j
    rw [becomes]
    rfl
  · apply untouched.flags_replaced kept _ atFront.filled _ follows undone
    · intro c j set
      rwa [becomes] at set
    · rw [becomes]

theorem Kept.leaves (kept : Kept cfg env s.toCore) {q : Nat} (atFront : AtFront cfg s q)
    (events : List Event) {u : Core} (aside : ∀ e ∈ events, e.isAside = true)
    (becomes : t.toCore = u) (log : u.log = s.log ++ events) (buffer : u.buffer = s.buffer)
    (length : ∀ i m, (u.msgTxInfo i m).length = (s.msgTxInfo i m).length)
    (queue : u.queue = (s.setQueue q (s.queue q).pop).queue)
    (place : ∀ c i, u.place c i = s.place c i)
    (fewer : ∀ c i, u.flag c i = true → s.flag c i = true)
    (clear : ∀ c < cfg.tpChMax, u.flag c q = false) : Preserved cfg env s.toCore t.toCore := by
  have untouched : Untouched cfg env s.toCore t.toCore events :=
    .of_pop becomes atFront.filled log buffer length queue
  subst becomes
  apply untouched.passes kept aside place
  apply untouched.flags_cleared kept fewer ((kept.flags q atFront.bound).ordinary atFront.filled)
  · intro j other
    rw [queue]
    simp [other]
  · exact clear

section Cleared
variable {c q : Nat}
  (set : ∀ d j, t.flag d j = if d = c ∧ j = q then false else s.flag d j)
include set

theorem flags_fewer (d j : Nat) (now : t.flag d j = true) : s.flag d j = true := by
  rw [set] at now
  split at now
  · cases now
  · exact now

theorem Kept.last_cleared (kept : Kept cfg env s.toCore) (atFront : AtFront cfg s q)
    (own : (s.front q).channel = c) : ∀ d < cfg.tpChMax, t.flag d q = false := by
  apply (kept.flags q atFront.bound).cleared atFront.filled fun d => flags_fewer set d q
  rw [set, own, if_pos ⟨rfl, rfl⟩]

end Cleared

theorem setCh_flag_place (s : State) (c q : Nat) (b : Bool) (d j : Nat) :
    (s.setCh c q { s.chTxInfo c q with txInProgress := b }).place d j = s.place d j := by
  rw [setCh_place]
  split
  · rename_i here
    rw [here.1, here.2]
    rfl
  · rfl

theorem Kept.confirmed (kept : Kept cfg env s.toCore) {k c q : Nat} {result : StdReturn}
    (channel : c < cfg.tpChMax) (atFront : AtFront cfg s q)
    (progress : (s.chTxInfo c q).txInProgress = true)
    (becomes : t.toCore = (((s.emit (.confirmed k c q result)).setCh c q
      { s.chTxInfo c q with txInProgress := false }).setFront q
        (if result = .ok then { s.front q with queueState := .transDone }
         else { s.front q with
           queueState := .transReady
           errCounter := (s.front q).errCounter + 1 })).toCore) :
    Preserved cfg env s.toCore t.toCore := by
  have before := kept.flags q atFront.bound
  obtain ⟨own, sealed⟩ := before.channel atFront.filled channel progress
  have follows : Follows cfg env s.toCore q (s.front q)
      (if result = .ok then { s.front q with queueState := .transDone }
       else { s.front q with
         queueState := .transReady
         errCounter := (s.front q).errCounter + 1 }) := by
    split
    · exact ⟨rfl, rfl, Or.inr ⟨rfl, fun undone => absurd rfl undone⟩⟩
    · exact ⟨rfl, rfl, Or.inr ⟨rfl, fun _ => sealed⟩⟩
  have untouched : Untouched cfg env s.toCore t.toCore [_] :=
    .of_front becomes atFront.filled rfl rfl (fun _ _ => rfl) rfl follows
  have set : ∀ d j, t.flag d j = if d = c ∧ j = q then false else s.flag d j := by
    intro d j
    rw [becomes]
    exact setCh_flag _ _ _ _ d j
  apply untouched.passes kept
  · intro e member
    rw [List.mem_singleton.mp member]
    rfl
  · intro d j
    rw [becomes]
    exact setCh_flag_place _ c q false d j
  · apply untouched.flags_cleared kept (flags_fewer set) (before.ordinary atFront.filled)
    · intro j other
      rw [becomes]
      simp [other]
    · exact kept.last_cleared set atFront own

theorem Move.preserved (move : Move cfg env (Undisturbed cfg) s t) (wired : ImcWired cfg)
    (call : ∀ i, inCall s i = true → Sealed cfg env s.toCore i (s.front i))
    (unencrypted : Unencrypted s t)
    (kept : Kept cfg env s.toCore) : Preserved cfg env s.toCore t.toCore := by
  cases move with
  | quiet events noise becomes => exact kept.logged events (reports_aside noise) becomes
  | work q e' buf' len' events atFront worked =>
      apply kept.worked atFront worked
      apply kept.stages q atFront.bound _ (front_mem atFront.filled)
      intro ready
      have log : t.log = s.log ++ events := by rw [worked.becomes]
      have work := worked.work
      rw [Unencrypted, log, List.countP_append] at unencrypted
      cases work with
      | encrypted => simp [Event.isEncrypted] at unencrypted
      | unfresh queued => simp [ready] at queued
      | formatted _ _ queued => simp [ready] at queued
      | unauthenticated _ _ _ _ waiting => simp [ready] at waiting
      | sealed _ _ _ _ _ _ waiting => simp [ready] at waiting
  | counted q atFront running becomes =>
      exact kept.moves_on atFront becomes ⟨rfl, rfl, Or.inl rfl⟩ id
  | requested q todo atFront task pointer allowed ready becomes =>
      apply kept.requested wired atFront ready _ becomes
      exact allowed.started ((s.front q).channel, q) (by simp [calls, task, pointer, ready])
  | requestedImc q todo atFront task now allowed radio broadcast becomes =>
      apply kept.requestedImc wired atFront (call q now) radio broadcast _ becomes
      simp only [inCall, Bool.and_eq_true] at now
      apply allowed.started ((s.front q).channel, q + 1)
      simp [calls, task, now, sendsImc, radio, front_entry, broadcast]
  | answered q peer result atFront now own becomes =>
      apply kept.logged [.answered (s.front q).ticket (s.front q).channel peer result] _ becomes
      intro e member
      rw [List.mem_singleton.mp member]
      rfl
  | sent q atFront now becomes =>
      apply kept.moves_on atFront becomes ⟨rfl, rfl, Or.inr ⟨rfl, fun _ => call q now⟩⟩
      intro done
      cases done
  | unsent q n atFront now becomes =>
      exact kept.moves_on atFront becomes ⟨rfl, rfl, Or.inl rfl⟩ id
  | retired q atFront done becomes =>
      apply kept.leaves atFront [.retired (s.front q).ticket] _ becomes rfl rfl
      · intro j m
        simp only [State.emit_msgTxInfo, State.setQueue_msgTxInfo, State.setInfo_msgTxInfo,
          Function.update_apply]
        grind
      · rfl
      · exact fun _ _ => rfl
      · exact fun _ _ => id
      · exact (kept.flags q atFront.bound).done atFront.filled done
      · intro e member
        rw [List.mem_singleton.mp member]
        rfl
  | dropped q atFront failed becomes =>
      have set : ∀ d j, t.flag d j = if d = (s.front q).channel ∧ j = q then false
          else s.flag d j := by
        intro d j
        rw [becomes]
        exact setCh_flag _ _ _ _ d j
      apply kept.leaves atFront [.dropped (s.front q).ticket] _ becomes rfl rfl
      · intro j m
        simp only [State.emit_msgTxInfo, State.setQueue_msgTxInfo, State.setCh_msgTxInfo,
          State.setInfo_msgTxInfo, Function.update_apply]
        grind
      · rfl
      · exact fun d j => setCh_flag_place _ (s.front q).channel q false d j
      · exact becomes ▸ flags_fewer set
      · exact becomes ▸ kept.last_cleared set atFront rfl
      · intro e member
        rw [List.mem_singleton.mp member]
        rfl
  | stored args m allowed checked usable becomes => exact kept.stored allowed checked usable becomes
  | copied id c q args allowed bound found headed given becomes =>
      exact kept.copied allowed bound found headed given becomes
  | unheeded k id c q result events allowed found idle noise becomes =>
      apply kept.logged (.confirmed k c q result :: events) _ becomes
      intro e member
      rcases List.mem_cons.mp member with rfl | later
      · rfl
      · exact reports_aside noise e later
  | confirmedImc k id c q result allowed found empty becomes =>
      have untouched : Untouched cfg env s.toCore t.toCore [.confirmed k c q result] :=
        .of_queue becomes rfl rfl (fun _ _ => rfl) rfl
      apply untouched.passes kept
      · intro e member
        rw [List.mem_singleton.mp member]
        rfl
      · intro d j
        rw [becomes]
        exact setCh_flag_place _ c q false d j
      · intro j bound
        apply untouched.flags_still kept (flags_fewer _) bound
        · rw [becomes]
          rfl
        · exact c
        · exact q
        · intro d j
          rw [becomes]
          exact setCh_flag _ _ _ _ d j
  | confirmed k id c q result allowed found atFront progress becomes =>
      exact kept.confirmed (findByLLPdu_bounds found).1 atFront progress becomes

end Moves

end AnchorNode.AnchorCom.Tx
