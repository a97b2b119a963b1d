import PicoDualCore.AtomicLog
import PicoDualCore.QueueAccounting
set_option autoImplicit false

/-!
What one heap-governed admission does, from its call to its answer. The input of a moment is the
heap at that moment, read or not: the law holds of every choice of the readings nobody takes.
-/

namespace PicoDualCore
open AtomicProgram

namespace OutboundQueue

abbrev QueueMoment := Moment OutboundQueue HeapInput

def QueueMoment.Evicts (m : QueueMoment) : Prop :=
  m.before.messagesEvicted < m.after.messagesEvicted

instance (m : QueueMoment) : Decidable m.Evicts :=
  inferInstanceAs (Decidable (m.before.messagesEvicted < m.after.messagesEvicted))

def QueueMoment.BelowFloor (m : QueueMoment) : Prop :=
  m.input.memFree < m.before.minimumFreeHeapBytes

def QueueMoment.BelowReserve (m : QueueMoment) : Prop :=
  m.input.memFree < m.before.preferredFreeHeapBytes

def evictions (log : List QueueMoment) : Nat := log.countP (fun m => decide m.Evicts)

def MayDisplace (priority : Priority) (e : Entry) : Prop :=
  priority.value ≤ e.retentionPriority.value ∧
    e.retentionPriority.value ≠ RETENTION_PRIORITY_CRITICAL

/-- No eviction without a reading that asked for it. -/
structure NoMoreThanNeeded (log : List QueueMoment) : Prop where
  first : ∀ before m after, log = before ++ m :: after → m.Evicts →
    (∀ r ∈ before, ¬ r.Evicts) →
    (∃ r ∈ before, r.BelowReserve ∨ r.BelowFloor) ∨ m.before.belowCountLimit = false
  later : ∀ before m since m' after, log = before ++ m :: (since ++ m' :: after) → m.Evicts →
    m'.Evicts → (∀ r ∈ since, ¬ r.Evicts) → ∃ r ∈ since, r.BelowFloor

structure Accepted (start : OutboundQueue) (kind : Kind) (payload : Bytes) (priority : Priority)
    (log : List QueueMoment) (q : OutboundQueue) : Prop where
  tail : ∃ ref survivors, q.queue = survivors ++ [⟨ref, kind, priority, payload, none⟩] ∧
    survivors.Sublist start.queue ∧ ∃ m ∈ log,
      m.after.queue = m.before.queue ++ [⟨ref, kind, priority, payload, none⟩] ∧
      start.minimumFreeHeapBytes ≤ m.input.memFree
  ceiling : ∀ m, start.maxMessages = some m → q.depth ≤ m
  rejected : q.messagesRejected = start.messagesRejected

structure Rejected (start : OutboundQueue) (priority : Priority) (q : OutboundQueue) : Prop where
  unretained : q.retained.Sublist start.retained
  rejected : q.messagesRejected = start.messagesRejected + 1
  exhausted : ∀ e ∈ q.queue, ¬ MayDisplace priority e

section Moments

variable {log : List QueueMoment} {m : QueueMoment}

theorem evictions_kept (hm : ¬ m.Evicts) : evictions (log ++ [m]) = evictions log := by
  simp [evictions, hm]

theorem evictions_evicts (hm : m.Evicts) : evictions (log ++ [m]) = evictions log + 1 := by
  simp [evictions, hm]

theorem evictions_eq_zero : evictions log = 0 ↔ ∀ r ∈ log, ¬ r.Evicts := by
  simp [evictions, List.countP_eq_zero]

def Pressed (log : List QueueMoment) : Prop :=
  ∃ before since, log = before ++ since ∧ evictions since = 0 ∧ ∃ r ∈ since, r.BelowFloor

def Strained (log : List QueueMoment) : Prop :=
  evictions log = 0 ∧ ∃ r ∈ log, r.BelowReserve

theorem Pressed.kept (h : Pressed log) (hm : ¬ m.Evicts) : Pressed (log ++ [m]) := by
  obtain ⟨before, since, rfl, hsince, r, hr, hlow⟩ := h
  refine ⟨before, since ++ [m], by simp, by rw [evictions_kept hm, hsince], r, ?_, hlow⟩
  exact List.mem_append_left _ hr

theorem Pressed.last (hm : ¬ m.Evicts) (hlow : m.BelowFloor) : Pressed (log ++ [m]) :=
  ⟨log, [m], rfl, evictions_eq_zero.mpr (by simpa using hm), m, by simp, hlow⟩

theorem Strained.kept (h : Strained log) (hm : ¬ m.Evicts) : Strained (log ++ [m]) := by
  obtain ⟨hnone, r, hr, hlow⟩ := h
  exact ⟨by rw [evictions_kept hm, hnone], r, List.mem_append_left _ hr, hlow⟩

theorem snoc_eq_append_cons {α : Type} {log before after : List α} {a b : α}
    (h : log ++ [a] = before ++ b :: after) :
    (after = [] ∧ log = before ∧ a = b) ∨
      ∃ after', after = after' ++ [a] ∧ log = before ++ b :: after' := by
  rcases List.eq_nil_or_concat after with rfl | ⟨after', c, rfl⟩
  · obtain ⟨hlog, hab⟩ := List.append_inj' h rfl
    exact .inl ⟨rfl, hlog, by simpa using hab⟩
  · rw [List.concat_eq_append, ← List.cons_append, ← List.append_assoc] at h
    obtain ⟨hlog, hac⟩ := List.append_inj' h rfl
    cases hac
    exact .inr ⟨after', List.concat_eq_append, hlog⟩

theorem NoMoreThanNeeded.nil : NoMoreThanNeeded [] := by
  constructor <;> simp

theorem NoMoreThanNeeded.kept (h : NoMoreThanNeeded log) (hm : ¬ m.Evicts) :
    NoMoreThanNeeded (log ++ [m]) := by
  constructor
  · intro before r after heq hr hbefore
    rcases snoc_eq_append_cons heq with ⟨-, -, rfl⟩ | ⟨after', -, hlog⟩
    · exact (hm hr).elim
    · exact h.first before r after' hlog hr hbefore
  · intro before r since r' after heq hr hr' hsince
    rw [← List.cons_append, ← List.append_assoc] at heq
    rcases snoc_eq_append_cons heq with ⟨-, -, rfl⟩ | ⟨after', -, hlog⟩
    · exact (hm hr').elim
    · exact h.later before r since r' after' (by simpa using hlog) hr hr' hsince

theorem NoMoreThanNeeded.evicts (h : NoMoreThanNeeded log)
    (hneed : Pressed log ∨ Strained log ∨
      evictions log = 0 ∧ m.before.belowCountLimit = false) :
    NoMoreThanNeeded (log ++ [m]) := by
  constructor
  · intro before r after heq hr hbefore
    rcases snoc_eq_append_cons heq with ⟨-, rfl, rfl⟩ | ⟨after', -, hlog⟩
    · rcases hneed with ⟨first, since, rfl, -, r, hr, hlow⟩ | ⟨-, r, hr, hlow⟩ | ⟨-, hfull⟩
      · exact .inl ⟨r, List.mem_append_right _ hr, .inr hlow⟩
      · exact .inl ⟨r, hr, .inl hlow⟩
      · exact .inr hfull
    · exact h.first before r after' hlog hr hbefore
  · intro before r since r' after heq hr hr' hsince
    rw [← List.cons_append, ← List.append_assoc] at heq
    rcases snoc_eq_append_cons heq with ⟨-, hlog, rfl⟩ | ⟨after', -, hlog⟩
    · have hsome : evictions log ≠ 0 := by
        rw [Ne, evictions_eq_zero]
        exact fun hnone => hnone r (by simp [hlog]) hr
      rcases hneed with ⟨first, pressed, hsplit, hnone, low, hlow, hbelow⟩ | hneed | hneed
      · -- the moments since the last eviction are a part of `since`
        rcases List.append_eq_append_iff.mp (hlog.symm.trans hsplit) with
          ⟨mid, hfirst, hmid⟩ | ⟨mid, hfirst, hmid⟩
        · cases mid with
          | nil =>
            rw [List.append_nil] at hfirst
            rw [List.nil_append] at hmid
            rw [← hmid] at hnone
            exact (evictions_eq_zero.mp hnone r (by simp) hr).elim
          | cons c mid =>
            obtain ⟨rfl, rfl⟩ : r = c ∧ since = mid ++ pressed := by simpa using hmid
            exact ⟨low, List.mem_append_right _ hlow, hbelow⟩
        · rw [hmid] at hnone
          exact (evictions_eq_zero.mp hnone r (by simp) hr).elim
      · exact (hsome hneed.1).elim
      · exact (hsome hneed.1).elim
    · exact h.later before r since r' after' (by simpa using hlog) hr hr' hsince

end Moments

/-- Core 0 settles the entry in flight. -/
inductive CompletionStep : OutboundQueue → OutboundQueue → Prop where
  | complete (q : OutboundQueue) (entry : Option Nat) (discarded : Bool) :
    CompletionStep q (q.completeInFlight entry discarded).2

structure Frees (q q' : OutboundQueue) : Prop where
  queue : q'.queue = q.queue
  inFlight : q'.inFlight = q.inFlight ∨ q'.inFlight = none
  floor : q'.minimumFreeHeapBytes = q.minimumFreeHeapBytes
  ceiling : q'.maxMessages = q.maxMessages
  rejected : q'.messagesRejected = q.messagesRejected
  evicted : q'.messagesEvicted = q.messagesEvicted

section Frees

variable {q q' q'' : OutboundQueue}

theorem Frees.refl (q : OutboundQueue) : Frees q q := ⟨rfl, .inl rfl, rfl, rfl, rfl, rfl⟩

theorem Frees.trans (h : Frees q q') (h' : Frees q' q'') : Frees q q'' := by
  refine ⟨h'.queue.trans h.queue, ?_, h'.floor.trans h.floor, h'.ceiling.trans h.ceiling,
    h'.rejected.trans h.rejected, h'.evicted.trans h.evicted⟩
  rcases h'.inFlight with heq | heq
  · rw [heq]
    exact h.inFlight
  · exact .inr heq

theorem CompletionStep.frees (h : CompletionStep q q') : Frees q q' := by
  cases h with
  | complete entry discarded =>
    unfold completeInFlight
    split
    · exact .refl q
    · split
      · exact ⟨rfl, .inr rfl, rfl, rfl, rfl, rfl⟩
      · exact .refl q
    · exact .refl q

theorem Frees.retained (h : Frees q q') : q'.retained.Sublist q.retained := by
  unfold OutboundQueue.retained
  rw [h.queue]
  rcases h.inFlight with heq | heq
  · rw [heq]
  · rw [heq]
    exact List.sublist_append_right _ _

theorem Frees.shrinks (h : Frees q q') : Shrinks q q' :=
  ⟨by rw [depth_eq, depth_eq]; exact h.retained.length_le, h.ceiling⟩

theorem Accepted.frees {start : OutboundQueue} {kind : Kind} {payload : Bytes}
    {priority : Priority} {log : List QueueMoment}
    (h : Accepted start kind payload priority log q) (hf : Frees q q') :
    Accepted start kind payload priority log q' :=
  ⟨by rw [hf.queue]; exact h.tail, fun m hm => Nat.le_trans hf.shrinks.depth (h.ceiling m hm),
    hf.rejected.trans h.rejected⟩

theorem Rejected.frees {start : OutboundQueue} {priority : Priority}
    (h : Rejected start priority q) (hf : Frees q q') : Rejected start priority q' :=
  ⟨hf.retained.trans h.unretained, hf.rejected.trans h.rejected, by
    rw [hf.queue]; exact h.exhausted⟩

end Frees

structure Admitting (start : OutboundQueue) (log : List QueueMoment) (q : OutboundQueue) :
    Prop where
  needed : NoMoreThanNeeded log
  evicted : q.queue.length + evictions log = start.queue.length
  room : evictions log = 0 ∨ HasRoom q
  within : WithinCeiling q
  queue : q.queue.Sublist start.queue
  retained : q.retained.Sublist start.retained
  floor : q.minimumFreeHeapBytes = start.minimumFreeHeapBytes
  ceiling : q.maxMessages = start.maxMessages
  rejected : q.messagesRejected = start.messagesRejected

def Sparing (start : OutboundQueue) (log : List QueueMoment) : Prop :=
  NoMoreThanNeeded log ∧ evictions log ≤ start.queue.length

section Admitting

variable {start q q' : OutboundQueue} {log : List QueueMoment} {priority : Priority}
  {kind : Kind} {payload : Bytes} {i : HeapInput}

theorem Admitting.called (h : WithinCeiling start) : Admitting start [] start :=
  ⟨.nil, rfl, .inl rfl, h, .refl _, .refl _, rfl, rfl, rfl⟩

theorem Admitting.sparing (h : Admitting start log q) : Sparing start log :=
  ⟨h.needed, by have hcount := h.evicted; omega⟩

theorem Admitting.frees (h : Admitting start log q) (hf : Frees q q') :
    Admitting start log q' := by
  refine ⟨h.needed, by rw [hf.queue]; exact h.evicted, h.room.imp_right (·.shrinks hf.shrinks),
    h.within.shrinks hf.shrinks, by rw [hf.queue]; exact h.queue, hf.retained.trans h.retained,
    hf.floor.trans h.floor, hf.ceiling.trans h.ceiling, hf.rejected.trans h.rejected⟩

theorem not_evicts_of_frees (hf : Frees q q') : ¬ QueueMoment.Evicts ⟨q, i, q'⟩ := by
  have heq := hf.evicted
  simp only [QueueMoment.Evicts]
  omega

theorem Admitting.kept (h : Admitting start log q) (hf : Frees q q') (i : HeapInput) :
    Admitting start (log ++ [⟨q, i, q'⟩]) q' := by
  have hm := not_evicts_of_frees (i := i) hf
  have h' := h.frees hf
  exact ⟨h.needed.kept hm, by rw [evictions_kept hm]; exact h'.evicted,
    by rw [evictions_kept hm]; exact h'.room, h'.within, h'.queue, h'.retained, h'.floor,
    h'.ceiling, h'.rejected⟩

theorem Admitting.without {before after : List Entry} {victim : Entry}
    (h : Admitting start log q) (hv : IsVictim q.queue priority before victim after)
    (hneed : Pressed log ∨ Strained log ∨ evictions log = 0 ∧ q.belowCountLimit = false)
    (i : HeapInput) :
    Admitting start (log ++ [⟨q, i, q.without victim (before ++ after)⟩])
      (q.without victim (before ++ after)) ∧ HasRoom (q.without victim (before ++ after)) := by
  have hm : QueueMoment.Evicts ⟨q, i, q.without victim (before ++ after)⟩ :=
    Nat.lt_succ_self q.messagesEvicted
  have hdepth := without_depth hv.split
  have hroom : HasRoom (q.without victim (before ++ after)) := by
    intro m hmax
    have hle := h.within m hmax
    omega
  have hsub : (before ++ after).Sublist q.queue := by
    rw [hv.split]
    exact (List.Sublist.refl before).append (List.sublist_cons_self victim after)
  refine ⟨⟨h.needed.evicts hneed, ?_, .inr hroom, hroom.within, hsub.trans h.queue, ?_, h.floor,
    h.ceiling, h.rejected⟩, hroom⟩
  · have hcount := h.evicted
    rw [hv.split] at hcount
    rw [evictions_evicts hm]
    simp only [OutboundQueue.without, List.length_append, List.length_cons] at hcount ⊢
    omega
  · exact ((List.Sublist.refl q.inFlight.toList).append hsub).trans h.retained

theorem append_below (h : i.memFree < q.minimumFreeHeapBytes) :
    q.append kind payload priority i = (false, { q with nextRef := q.nextRef + 1 }) := by
  simp only [append, h, if_true, List.dropLast_concat]

theorem append_above (h : ¬ i.memFree < q.minimumFreeHeapBytes) :
    q.append kind payload priority i =
      (true, q.withEntry ⟨q.nextRef, kind, priority, payload, none⟩) := by
  rcases append_cases q kind payload priority i with ha | ha
  · have hfirst := congrArg Prod.fst ha
    simp [append, h] at hfirst
  · exact ha

theorem evictOneEligible_exhausted {refusal : Refusal}
    (h : (q.evictOneEligible priority).1 = .error refusal) :
    ∀ e ∈ q.queue, ¬ MayDisplace priority e := by
  rintro e he ⟨hle, hcritical⟩
  obtain ⟨-, hworst⟩ := worstPriority_spec (List.ne_nil_of_mem he)
  have heworst := hworst e he
  have hnonempty : ¬ q.queue.isEmpty = true := by
    rw [List.isEmpty_iff]
    exact List.ne_nil_of_mem he
  have hlow : RETENTION_PRIORITY_CRITICAL ≤ e.retentionPriority.value := e.retentionPriority.inRange.1
  unfold evictOneEligible at h
  rw [if_neg hnonempty, if_neg (by omega), if_neg (by omega)] at h
  cases h

def AfterAttempt (start : OutboundQueue) (kind : Kind) (payload : Bytes) (priority : Priority)
    (admitted : Bool) (log : List QueueMoment) (q : OutboundQueue) : Prop :=
  if admitted then Accepted start kind payload priority log q
  else Admitting start log q ∧ (Pressed log ∨ ∀ e ∈ q.queue, ¬ MayDisplace priority e)

theorem Admitting.append (h : Admitting start log q) (hroom : HasRoom q) (i : HeapInput) :
    Sparing start (log ++ [⟨q, i, (q.append kind payload priority i).2⟩]) ∧
      AfterAttempt start kind payload priority (q.append kind payload priority i).1
        (log ++ [⟨q, i, (q.append kind payload priority i).2⟩])
        (q.append kind payload priority i).2 := by
  by_cases hlow : i.memFree < q.minimumFreeHeapBytes
  · rw [append_below hlow]
    have hf : Frees q { q with nextRef := q.nextRef + 1 } := ⟨rfl, .inl rfl, rfl, rfl, rfl, rfl⟩
    have hkept := h.kept hf i
    exact ⟨hkept.sparing, hkept, .inl (.last (not_evicts_of_frees hf) hlow)⟩
  · rw [append_above hlow]
    have hm : ¬ QueueMoment.Evicts
        ⟨q, i, q.withEntry ⟨q.nextRef, kind, priority, payload, none⟩⟩ := Nat.lt_irrefl _
    have hsparing := h.sparing
    refine ⟨⟨hsparing.1.kept hm, by rw [evictions_kept hm]; exact hsparing.2⟩, ?_⟩
    refine ⟨⟨q.nextRef, q.queue, rfl, h.queue, _,
      List.mem_append_right _ (List.mem_singleton.mpr rfl), rfl, ?_⟩,
      fun m hmax => ?_, h.rejected⟩
    · have hfloor := h.floor
      simp only
      omega
    · rw [withEntry_depth]
      exact hroom m (h.ceiling.trans hmax)

end Admitting

section Admission

variable {start q : OutboundQueue} {log : List QueueMoment} {priority : Priority}
  {kind : Kind} {payload : Bytes}

abbrev admitting {α : Type} (start : OutboundQueue)
    (Q : α → List QueueMoment → OutboundQueue → Prop) (p : QueueProg α)
    (log : List QueueMoment) (q : OutboundQueue) : Prop :=
  p.settles (fun _ => True) Frees (Sparing start) Q log q

theorem admitting_locked {α : Type} {Q : α → List QueueMoment → OutboundQueue → Prop}
    {block : OutboundQueue → HeapInput → α × OutboundQueue}
    (h : ∀ t, Frees q t → ∀ i, Sparing start (log ++ [⟨t, i, (block t i).2⟩]) ∧
      Q (block t i).1 (log ++ [⟨t, i, (block t i).2⟩]) (block t i).2) :
    admitting start Q (locked block) log q :=
  fun t ht i _ => h t ht i

theorem admitting_look {α : Type} (f : OutboundQueue → HeapInput → α)
    (h : Admitting start log q) :
    admitting start (fun a log' t => Admitting start log' t ∧ Frees q t ∧
      ∃ i, log' = log ++ [⟨t, i, t⟩] ∧ a = f t i) (locked (fun q i => (f q i, q))) log q := by
  refine admitting_locked (fun t ht i => ?_)
  have hkept := (h.frees ht).kept (.refl t) i
  exact ⟨hkept.sparing, hkept, ht, i, rfl, rfl⟩

theorem not_evicts_look (q : OutboundQueue) (i : HeapInput) : ¬ QueueMoment.Evicts ⟨q, i, q⟩ :=
  Nat.lt_irrefl _

theorem admitting_collectUnless {admitted : Bool}
    (h : AfterAttempt start kind payload priority admitted log q) :
    admitting start (AfterAttempt start kind payload priority) (collectUnless admitted) log q := by
  cases admitted with
  | true => exact h
  | false =>
    obtain ⟨hq, hwhy⟩ := h
    refine Proc.settles_seq (Proc.settles_mono (admitting_look (fun _ _ => ()) hq) ?_)
    rintro - log' t ⟨ht, hf, i, rfl, -⟩
    refine ⟨ht, ?_⟩
    rw [hf.queue]
    exact hwhy.imp_left (fun hp => hp.kept (not_evicts_look t i))

theorem admitting_append (h : Admitting start log q) (hroom : HasRoom q) :
    admitting start (AfterAttempt start kind payload priority) (do
      collectUnless (← locked (fun q i => q.append kind payload priority i))) log q := by
  refine Proc.settles_seq (Proc.settles_mono (Q := AfterAttempt start kind payload priority)
    (admitting_locked (fun t ht i => ?_)) (fun _ _ _ hq => admitting_collectUnless hq))
  exact (h.frees ht).append (hroom.shrinks ht.shrinks) i

def AfterGate (start : OutboundQueue) (kind : Kind) (payload : Bytes) (priority : Priority)
    (gate : Gate) (log : List QueueMoment) (q : OutboundQueue) : Prop :=
  match gate with
  | .tried admitted => AfterAttempt start kind payload priority admitted log q
  | .relieved => Admitting start log q ∧ HasRoom q
  | .refused => Admitting start log q ∧ ∀ e ∈ q.queue, ¬ MayDisplace priority e

theorem admitting_countGate (h : Admitting start log q) :
    admitting start (AfterGate start kind payload priority)
      (locked (countGate kind payload priority)) log q := by
  refine admitting_locked (fun t ht i => ?_)
  have hq := h.frees ht
  unfold countGate
  by_cases hbelow : t.belowCountLimit = true
  · rw [if_pos hbelow]
    exact hq.append (hasRoom_of_belowCountLimit hbelow) i
  · rw [if_neg hbelow]
    rcases evictOneEligible_cases t priority with
      ⟨refusal, he⟩ | ⟨worst, before, victim, after, hv, he⟩
    · have hexhausted := evictOneEligible_exhausted (congrArg Prod.fst he)
      rw [he]
      exact ⟨(hq.kept (.refl t) i).sparing, hq.kept (.refl t) i, hexhausted⟩
    · -- at the ceiling nothing can have been evicted before
      have hnone : evictions log = 0 := hq.room.resolve_right (fun hroom => hbelow (by
        cases hmax : t.maxMessages with
        | none => simp [belowCountLimit, hmax]
        | some m => simpa [belowCountLimit, hmax] using hroom m hmax))
      have hevict := hq.without hv (.inr (.inr ⟨hnone, by simpa using hbelow⟩)) i
      rw [he]
      exact ⟨hevict.1.sparing, hevict⟩

theorem admitting_tryAppend (h : Admitting start log q) :
    admitting start (AfterAttempt start kind payload priority)
      (tryAppendWithCountGate kind payload priority) log q := by
  refine Proc.settles_seq (Proc.settles_mono (admitting_countGate h) ?_)
  intro gate log' t ht
  cases gate with
  | tried admitted => exact admitting_collectUnless ht
  | refused => exact ⟨ht.1, .inr ht.2⟩
  | relieved =>
    refine Proc.settles_seq (Proc.settles_mono (admitting_look (fun _ _ => ()) ht.1) ?_)
    rintro - log'' u ⟨hu, hf, -⟩
    exact admitting_append hu (ht.2.shrinks hf.shrinks)

theorem admitting_evictOne (h : Admitting start log q) (hneed : Strained log) :
    admitting start (fun _ log' t => Admitting start log' t) (evictOne priority) log q := by
  refine admitting_locked (fun t ht i => ?_)
  have hq := h.frees ht
  rcases evictOneEligible_cases t priority with
    ⟨refusal, he⟩ | ⟨worst, before, victim, after, hv, he⟩
  · rw [he]
    exact ⟨(hq.kept (.refl t) i).sparing, hq.kept (.refl t) i⟩
  · have hevict := hq.without hv (.inr (.inl hneed)) i
    rw [he]
    exact ⟨hevict.1.sparing, hevict.1⟩

theorem admitting_admitInBand (h : Admitting start log q) (hnone : evictions log = 0) :
    admitting start (fun admitted log' t => if admitted then
        Accepted start kind payload priority log' t
      else Admitting start log' t) (admitInBand kind payload priority) log q := by
  have hweak : ∀ {log t}, Admitting start log t → admitting start (fun admitted log' t =>
      if admitted then Accepted start kind payload priority log' t else Admitting start log' t)
      (tryAppendWithCountGate kind payload priority) log t := by
    intro log t ht
    refine Proc.settles_mono (admitting_tryAppend ht) (fun admitted log' u hu => ?_)
    cases admitted with
    | true => exact hu
    | false => exact hu.1
  refine Proc.settles_seq (Proc.settles_mono (admitting_look _ h) ?_)
  rintro preferred log₁ t ⟨ht, -, i, rfl, hread⟩
  cases preferred with
  | true => exact hweak ht
  | false =>
    have hstrained : Strained (log ++ [⟨t, i, t⟩]) := by
      refine ⟨by rw [evictions_kept (not_evicts_look t i), hnone], _,
        List.mem_append_right _ (List.mem_singleton.mpr rfl), ?_⟩
      simpa [QueueMoment.BelowReserve] using hread
    refine Proc.settles_seq (Proc.settles_mono (admitting_look _ ht) ?_)
    rintro reserve log₂ u ⟨hu, -, j, rfl, -⟩
    cases reserve with
    | false => exact hu
    | true =>
      refine Proc.settles_seq (Proc.settles_mono
        (admitting_evictOne hu (hstrained.kept (not_evicts_look u j))) ?_)
      intro evicted log₃ v hv
      cases evicted with
      | false => exact hweak hv
      | true =>
        refine Proc.settles_seq (Proc.settles_mono (admitting_look (fun _ _ => ()) hv) ?_)
        rintro - log₄ w ⟨hw, -⟩
        exact hweak hw

theorem admitting_appendAboveFloor (h : Admitting start log q) :
    admitting start (AfterAttempt start kind payload priority)
      (appendAboveFloor kind payload priority) log q := by
  refine Proc.settles_seq (Proc.settles_mono (admitting_look _ h) ?_)
  rintro reserve log' t ⟨ht, -, i, rfl, hread⟩
  cases reserve with
  | true => exact admitting_tryAppend ht
  | false =>
    refine ⟨ht, .inl (.last (not_evicts_look t i) ?_)⟩
    simpa [QueueMoment.BelowFloor] using hread

def AfterAdmission (start : OutboundQueue) (kind : Kind) (payload : Bytes) (priority : Priority)
    (admitted : Bool) (log : List QueueMoment) (q : OutboundQueue) : Prop :=
  if admitted then Accepted start kind payload priority log q else Rejected start priority q

theorem admitting_evictOrReject (h : Admitting start log q)
    (hwhy : Pressed log ∨ ∀ e ∈ q.queue, ¬ MayDisplace priority e) :
    admitting start (fun evicted log' t => if evicted then
        Admitting start log' t ∧ t.queue.length < q.queue.length
      else Rejected start priority t) (locked (fun q _ => evictOrReject priority q)) log q := by
  refine admitting_locked (fun t ht i => ?_)
  have hq := h.frees ht
  unfold evictOrReject
  rcases evictOneEligible_cases t priority with
    ⟨refusal, he⟩ | ⟨worst, before, victim, after, hv, he⟩
  · have hexhausted := evictOneEligible_exhausted (congrArg Prod.fst he)
    have hm : ¬ QueueMoment.Evicts
        ⟨t, i, { t with messagesRejected := t.messagesRejected + 1 }⟩ := Nat.lt_irrefl _
    have hsparing := hq.sparing
    rw [he]
    refine ⟨⟨hsparing.1.kept hm, by rw [evictions_kept hm]; exact hsparing.2⟩,
      hq.retained, ?_, hexhausted⟩
    rw [← hq.rejected]
  · have hmay : MayDisplace priority victim := ⟨hv.displaceable, hv.notCritical⟩
    have hpressed : Pressed log := by
      refine hwhy.resolve_right (fun hnone => hnone victim ?_ hmay)
      rw [← ht.queue, hv.split]
      exact List.mem_append_right _ List.mem_cons_self
    have hevict := hq.without hv (.inl hpressed) i
    rw [he]
    refine ⟨hevict.1.sparing, hevict.1, ?_⟩
    rw [← ht.queue, hv.split]
    simp [OutboundQueue.without]

/-- The displacement loop. Each round that goes on has shortened the queue. -/
theorem admitting_displace {rounds : Nat} (h : Admitting start log q)
    (hrounds : q.queue.length < rounds) :
    admitting start (AfterAdmission start kind payload priority)
      (displace kind payload priority rounds) log q := by
  induction rounds generalizing log q with
  | zero => exact (Nat.not_lt_zero _ hrounds).elim
  | succ rounds ih =>
    refine Proc.settles_seq (Proc.settles_mono
      (Proc.settles_grown (admitting_appendAboveFloor h)) ?_)
    rintro admitted log₁ t ⟨hgrown, ht⟩
    cases admitted with
    | true => exact ht
    | false =>
      obtain ⟨ht, hwhy⟩ := ht
      have hlength : t.queue.length ≤ q.queue.length := by
        have hthen := h.evicted
        have hnow := ht.evicted
        have hle := hgrown.sublist.countP_le (p := fun m : QueueMoment => decide m.Evicts)
        unfold evictions at hthen hnow
        omega
      refine Proc.settles_seq (Proc.settles_mono (admitting_evictOrReject ht hwhy) ?_)
      intro evicted log₂ u hu
      cases evicted with
      | false => exact hu
      | true =>
        refine Proc.settles_seq (Proc.settles_mono (admitting_look (fun _ _ => ()) hu.1) ?_)
        rintro - log₃ v ⟨hv, hf, -⟩
        have hshorter := hu.2
        refine ih hv ?_
        rw [hf.queue]
        omega

theorem admitting_admitHeapGoverned {rounds : Nat} (h : WithinCeiling start)
    (hrounds : start.queue.length < rounds) :
    admitting start (AfterAdmission start kind payload priority)
      (admitHeapGoverned kind payload priority rounds) [] start := by
  have hrest : ∀ log t, Admitting start log t → evictions log = 0 →
      admitting start (AfterAdmission start kind payload priority) (do
        if ← admitInBand kind payload priority then pure true
        else displace kind payload priority rounds) log t := by
    intro log t ht hnone
    refine Proc.settles_seq (Proc.settles_mono (admitting_admitInBand ht hnone) ?_)
    intro admitted log' u hu
    cases admitted with
    | true => exact hu
    | false =>
      have hnow : u.queue.length + evictions log' = start.queue.length := hu.evicted
      exact admitting_displace hu (by omega)
  refine Proc.settles_seq (Proc.settles_mono (admitting_look _ (.called h)) ?_)
  rintro preferred log t ⟨ht, -, i, rfl, -⟩
  have hnone : evictions ([] ++ [⟨t, i, t⟩]) = 0 := evictions_kept (not_evicts_look t i)
  cases preferred with
  | true => exact hrest _ t ht hnone
  | false =>
    refine Proc.settles_seq (Proc.settles_mono (admitting_look (fun _ _ => ()) ht) ?_)
    rintro - log u ⟨hu, -, j, rfl, -⟩
    exact hrest _ u hu ((evictions_kept (not_evicts_look u j)).trans hnone)

theorem within_ite {α : Type} {n : Nat} {c : Bool} {p p' : QueueProg α} (hp : p.Within n)
    (hp' : p'.Within n) : (if c then p else p').Within n := by
  cases c <;> assumption

theorem within_pure {α : Type} (n : Nat) (a : α) : (pure a : QueueProg α).Within n := by
  cases n <;> trivial

theorem within_collectUnless (admitted : Bool) : (collectUnless admitted).Within 1 := by
  cases admitted with
  | true => exact within_pure _ _
  | false => exact Proc.Within.seq (.atomic _) (fun _ => within_pure 0 _)

theorem within_tryAppend : (tryAppendWithCountGate kind payload priority).Within 4 := by
  refine Proc.Within.seq (m := 1) (n := 3) (.atomic _) (fun gate => ?_)
  cases gate with
  | refused => exact within_pure _ _
  | tried admitted => exact (within_collectUnless admitted).mono (by decide)
  | relieved =>
    refine Proc.Within.seq (m := 1) (n := 2) (.atomic _) (fun _ => ?_)
    exact Proc.Within.seq (.atomic _) (fun admitted => within_collectUnless admitted)

theorem within_admitInBand : (admitInBand kind payload priority).Within 8 := by
  refine Proc.Within.seq (m := 1) (n := 7) (.atomic _) (fun _ => ?_)
  refine within_ite (within_tryAppend.mono (by decide)) ?_
  refine Proc.Within.seq (m := 1) (n := 6) (.atomic _) (fun _ => ?_)
  refine within_ite ?_ (within_pure _ _)
  refine Proc.Within.seq (m := 1) (n := 5) (.atomic _) (fun evicted => ?_)
  cases evicted with
  | false => exact within_tryAppend.mono (by decide)
  | true => exact Proc.Within.seq (m := 1) (n := 4) (.atomic _) (fun _ => within_tryAppend)

theorem within_displace (rounds : Nat) :
    (displace kind payload priority rounds).Within (7 * rounds) := by
  induction rounds with
  | zero => trivial
  | succ rounds ih =>
    have happend : (appendAboveFloor kind payload priority).Within 5 :=
      Proc.Within.seq (m := 1) (n := 4) (.atomic _)
        (fun _ => within_ite within_tryAppend (within_pure _ _))
    refine (Proc.Within.seq (n := 7 * rounds + 2) happend (fun _ => ?_)).mono (by omega)
    refine within_ite (within_pure _ _) ?_
    refine (Proc.Within.seq (n := 7 * rounds + 1) (.atomic _) (fun _ => ?_)).mono (by omega)
    refine within_ite ?_ (within_pure _ _)
    exact (Proc.Within.seq (.atomic _) (fun _ => ih)).mono (by omega)

theorem within_admitHeapGoverned (rounds : Nat) :
    (admitHeapGoverned kind payload priority rounds).Within (7 * rounds + 10) := by
  have hrest : (do
      if ← admitInBand kind payload priority then pure true
      else displace kind payload priority rounds : QueueProg Bool).Within (8 + 7 * rounds) :=
    Proc.Within.seq within_admitInBand
      (fun _ => within_ite (within_pure _ _) (within_displace rounds))
  refine (Proc.Within.seq (n := 7 * rounds + 9) (.atomic _) (fun preferred => ?_)).mono (by omega)
  cases preferred with
  | true => exact hrest.mono (by omega)
  | false => exact (Proc.Within.seq (.atomic _) (fun _ => hrest)).mono (by omega)

end Admission

/-- A state of the queue in a run of both cores. -/
def Reachable (q : OutboundQueue) : Prop :=
  ∃ minimum preferred maxMessages start rounds calls trace rest,
    new minimum preferred maxMessages = .ok start ∧
      Proc.Run (fun _ => True) ConsumerStep (produce rounds calls) start trace rest q

theorem Reachable.within {q : OutboundQueue} (h : Reachable q) : WithinCeiling q := by
  obtain ⟨minimum, preferred, maxMessages, start, rounds, calls, trace, rest, hnew, hrun⟩ := h
  exact (running_of_run hnew hrun).within

/-- How far an admission has come. -/
def Outcome (start : OutboundQueue) (kind : Kind) (payload : Bytes) (priority : Priority)
    (log : List QueueMoment) (q : OutboundQueue) : QueueProg Bool → Prop
  | .ret true => Accepted start kind payload priority log q
  | .ret false => Rejected start priority q
  | .raise _ => False
  | .stop => False
  | .step _ _ => True

/-- The outcome law: an admission never has to stop before its answer, evicts only what it
must, and answers for what it did. -/
theorem admitHeapGoverned_outcome {start q : OutboundQueue} {kind : Kind} {payload : Bytes}
    {priority : Priority} {rounds : Nat} {log : List QueueMoment} {rest : QueueProg Bool}
    (hstart : Reachable start) (hrounds : start.queue.length < rounds)
    (hrun : Proc.Logs (fun _ => True) CompletionStep
      (admitHeapGoverned kind payload priority rounds) start log rest q) :
    Outcome start kind payload priority log q rest ∧ NoMoreThanNeeded log ∧
      evictions log ≤ start.queue.length ∧ log.length ≤ 7 * rounds + 10 := by
  have hlength := ((within_admitHeapGoverned rounds).logs hrun).1
  obtain ⟨hsparing, u, hu, hrest⟩ := Proc.settles_logs Frees.refl Frees.trans
    (fun _ _ hc => hc.frees) ⟨.nil, Nat.zero_le _⟩
    (admitting_admitHeapGoverned hstart.within hrounds) hrun
  refine ⟨?_, hsparing.1, hsparing.2, hlength⟩
  cases rest with
  | ret admitted =>
    cases admitted with
    | true => exact Accepted.frees hrest hu
    | false => exact Rejected.frees hrest hu
  | raise e => exact hrest
  | stop => exact hrest
  | step act next => trivial

def healthReport : Entry := ⟨0, .health, .health, [123, 125], none⟩

def takenUp : OutboundQueue :=
  { minimumFreeHeapBytes := 100, preferredFreeHeapBytes := 100, maxMessages := some 1
    queue := [healthReport], highWatermark := 1, highWatermarkBytes := 2, queuedBytes := 2
    nextRef := 1, history := [.admitted healthReport] }

theorem reachable_takenUp : Reachable takenUp := by
  have hput := Proc.Run.start (A := fun _ => True) (E := ConsumerStep)
    (p := produce 1 [.putWithKind (.str "health") (.bytes [123, 125]) (.int 70)])
    (s := { minimumFreeHeapBytes := 100, preferredFreeHeapBytes := 100, maxMessages := some 1 })
  have hpreferred := Proc.Run.own (i := ⟨200, false⟩) hput trivial
  have hagain := Proc.Run.own (i := ⟨200, false⟩) hpreferred trivial
  have happend := Proc.Run.own (i := ⟨200, false⟩) hagain trivial
  have hnew : new 100 none (some 1) =
      .ok { minimumFreeHeapBytes := 100, preferredFreeHeapBytes := 100, maxMessages := some 1 } :=
    rfl
  exact ⟨_, _, _, _, _, _, _, _, hnew, happend⟩

/-- A log entry displaces the health report. -/
theorem admitHeapGoverned_outcome_displaced : ∃ log q, Proc.Logs (fun _ => True) CompletionStep
      (admitHeapGoverned .log [123, 125] ⟨50, by decide⟩ 2) takenUp log (.ret true) q ∧
    Accepted takenUp .log [123, 125] ⟨50, by decide⟩ log q ∧ evictions log ≤ 1 := by
  have hcall := Proc.Logs.start (A := fun _ => True) (E := CompletionStep)
    (p := admitHeapGoverned .log [123, 125] ⟨50, by decide⟩ 2) (s := takenUp)
  have hread := Proc.Logs.own (i := ⟨200, false⟩) hcall trivial
  have hreread := Proc.Logs.own (i := ⟨200, false⟩) hread trivial
  have hgate := Proc.Logs.own (i := ⟨200, false⟩) hreread trivial
  have hcollect := Proc.Logs.own (i := ⟨200, false⟩) hgate trivial
  have hdone := Proc.Logs.own (i := ⟨200, false⟩) hcollect trivial
  obtain ⟨hout, -, hcount, -⟩ :=
    admitHeapGoverned_outcome reachable_takenUp (by decide) hdone
  exact ⟨_, _, hdone, hout, hcount⟩

end OutboundQueue
end PicoDualCore
