import PicoDualCore.QueueAdmission
import Mathlib.Data.List.Sort
set_option autoImplicit false

namespace PicoDualCore
open AtomicProgram

namespace OutboundQueue

/-- The queue by priority number descending, then oldest first: the sort is stable. -/
def retentionOrder (queue : List Entry) : List Entry :=
  queue.insertionSort (fun a b => b.retentionPriority.value ≤ a.retentionPriority.value)

def QueueEvent.victim? : QueueEvent → Option Entry
  | .evicted e => some e
  | _ => none

/-- The entries evicted since `start`, in the order of their eviction. -/
def victimsSince (start q : OutboundQueue) : List Entry :=
  (q.history.drop start.history.length).filterMap QueueEvent.victim?

/-- What a put of `priority` may have done to the queue at one of its moments. -/
structure LawfulSince (start : OutboundQueue) (priority : PyValue) (q : OutboundQueue) : Prop where
  order : victimsSince start q <+: retentionOrder start.queue
  notCritical : ∀ e ∈ victimsSince start q,
    e.retentionPriority.value ≠ RETENTION_PRIORITY_CRITICAL
  noMoreImportant : ∀ e ∈ victimsSince start q,
    ∃ n, priority = .int n ∧ n ≤ e.retentionPriority.value
  survivors : ∃ survivors appended, q.queue = survivors ++ appended ∧ appended.length ≤ 1 ∧
    survivors.Sublist start.queue ∧ (victimsSince start q ++ survivors).Perm start.queue
  inFlight : q.inFlight = start.inFlight

/-- The victim heads the retention order of the queue. -/
theorem IsVictim.retentionOrder_eq {queue before after : List Entry} {victim : Entry}
    {priority : Priority} (h : IsVictim queue priority before victim after) :
    retentionOrder queue = victim :: retentionOrder (before ++ after) := by
  obtain ⟨rfl, holdest, hworst, -, -⟩ := h
  unfold retentionOrder
  induction before with
  | nil => exact List.insertionSort_cons_of_forall_rel _ hworst
  | cons e before ih =>
    have hlt := holdest e List.mem_cons_self
    have hrest := ih (fun b hb => holdest b (List.mem_cons_of_mem _ hb))
    rw [List.cons_append, List.insertionSort_cons, hrest,
      List.orderedInsert_of_not_le _ _ (by omega)]
    rfl

/-- `victims` have been evicted from the queue of `start`, in this order, and nothing else. -/
structure Thinned (start : OutboundQueue) (priority : Priority) (victims : List Entry)
    (q : OutboundQueue) : Prop where
  history : q.history = start.history ++ victims.map .evicted
  order : retentionOrder start.queue = victims ++ retentionOrder q.queue
  notCritical : ∀ e ∈ victims, e.retentionPriority.value ≠ RETENTION_PRIORITY_CRITICAL
  noMoreImportant : ∀ e ∈ victims, priority.value ≤ e.retentionPriority.value
  sublist : q.queue.Sublist start.queue
  perm : (victims ++ q.queue).Perm start.queue
  inFlight : q.inFlight = start.inFlight

section Thinned

variable {start q : OutboundQueue} {priority : Priority} {victims : List Entry}

theorem Thinned.refl (start : OutboundQueue) (priority : Priority) :
    Thinned start priority [] start := by
  constructor <;> simp

theorem Thinned.without {before after : List Entry} {victim : Entry}
    (h : Thinned start priority victims q) (hv : IsVictim q.queue priority before victim after) :
    Thinned start priority (victims ++ [victim]) (q.without victim (before ++ after)) := by
  have hdrop : (before ++ after).Sublist q.queue := by
    rw [hv.split]
    exact (List.Sublist.refl before).append (List.sublist_cons_self victim after)
  constructor
  · simp [OutboundQueue.without, h.history]
  · rw [h.order, hv.retentionOrder_eq, List.append_assoc]
    rfl
  · intro e he
    rw [List.mem_append, List.mem_singleton] at he
    rcases he with he | rfl
    · exact h.notCritical e he
    · exact hv.notCritical
  · intro e he
    rw [List.mem_append, List.mem_singleton] at he
    rcases he with he | rfl
    · exact h.noMoreImportant e he
    · exact hv.displaceable
  · exact hdrop.trans h.sublist
  · have hmove : (victim :: (before ++ after)).Perm q.queue := by
      rw [hv.split]
      exact List.perm_middle.symm
    rw [List.append_assoc]
    exact (hmove.append_left victims).trans h.perm
  · exact h.inFlight

theorem filterMap_victims : (victims.map QueueEvent.evicted).filterMap QueueEvent.victim? =
    victims := by
  induction victims with
  | nil => rfl
  | cons e es ih => simp [QueueEvent.victim?, ih]

theorem Thinned.victimsSince (h : Thinned start priority victims q) :
    victimsSince start q = victims := by
  rw [OutboundQueue.victimsSince, h.history, List.drop_left, filterMap_victims]

theorem Thinned.lawful (h : Thinned start priority victims q) :
    LawfulSince start (.int priority.value) q := by
  constructor
  · rw [h.victimsSince, h.order]
    exact List.prefix_append _ _
  · rw [h.victimsSince]
    exact h.notCritical
  · rw [h.victimsSince]
    exact fun e he => ⟨_, rfl, h.noMoreImportant e he⟩
  · rw [h.victimsSince]
    exact ⟨q.queue, [], by simp, by simp, h.sublist, h.perm⟩
  · exact h.inFlight

/-- The entry that is admitted in the end is no victim and no survivor. -/
theorem Thinned.lawful_withEntry (h : Thinned start priority victims q) (entry : Entry) :
    LawfulSince start (.int priority.value) (q.withEntry entry) := by
  have hvictims : OutboundQueue.victimsSince start (q.withEntry entry) = victims := by
    rw [OutboundQueue.victimsSince, OutboundQueue.withEntry, h.history, List.append_assoc,
      List.drop_left, List.filterMap_append, filterMap_victims]
    simp [QueueEvent.victim?]
  constructor
  · rw [hvictims, h.order]
    exact List.prefix_append _ _
  · rw [hvictims]
    exact h.notCritical
  · rw [hvictims]
    exact fun e he => ⟨_, rfl, h.noMoreImportant e he⟩
  · rw [hvictims]
    exact ⟨q.queue, [entry], rfl, by simp, h.sublist, h.perm⟩
  · exact h.inFlight

end Thinned

/-- The steps of a put with nobody else about. -/
theorem retentionRule (start : OutboundQueue) (priority : Priority) :
    PutRule (· = ·) (fun _ q => LawfulSince start (.int priority.value) q)
      (fun q => ∃ victims, Thinned start priority victims q)
      (fun q => ∃ victims, Thinned start priority victims q)
      (LawfulSince start (.int priority.value)) priority where
  stable := fun heq h => heq ▸ h
  roomStable := fun heq h => heq ▸ h
  idle := fun ⟨_, h⟩ => h.lawful
  idleRoom := fun ⟨_, h⟩ => h.lawful
  evict := fun {q} ⟨victims, h⟩ => by
    rcases evictOneEligible_cases q priority with
      ⟨refusal, he⟩ | ⟨worst, before, victim, after, hv, he⟩
    · rw [he]
      exact ⟨h.lawful, ⟨_, h⟩, fun _ => ⟨_, h⟩⟩
    · rw [he]
      exact ⟨(h.without hv).lawful, ⟨_, h.without hv⟩, fun _ => ⟨_, h.without hv⟩⟩
  room := fun h _ => h
  append := fun {q} ⟨victims, h⟩ kind payload i => by
    rcases append_cases q kind payload priority i with ha | ha
    · have hskip : Thinned start priority victims { q with nextRef := q.nextRef + 1 } :=
        ⟨h.history, h.order, h.notCritical, h.noMoreImportant, h.sublist, h.perm, h.inFlight⟩
      rw [ha]
      exact ⟨hskip.lawful, ⟨_, hskip⟩⟩
    · rw [ha]
      exact ⟨h.lawful_withEntry _, h.lawful_withEntry _⟩
  rejected := fun {q} ⟨victims, h⟩ => by
    have hcounted : Thinned start priority victims
        { q with messagesRejected := q.messagesRejected + 1 } :=
      ⟨h.history, h.order, h.notCritical, h.noMoreImportant, h.sublist, h.perm, h.inFlight⟩
    exact ⟨hcounted.lawful, _, hcounted⟩
  oversized := fun {q} ⟨victims, h⟩ => by
    have hcounted : Thinned start priority victims
        { q with oversizedRejected := q.oversizedRejected + 1 } :=
      ⟨h.history, h.order, h.notCritical, h.noMoreImportant, h.sublist, h.perm, h.inFlight⟩
    exact ⟨hcounted.lawful, _, hcounted⟩

theorem LawfulSince.refl (start : OutboundQueue) (priority : PyValue) :
    LawfulSince start priority start := by
  constructor <;> simp [victimsSince]
  exact ⟨start.queue, [], by simp⟩

/-- The retention law: at every moment of a put alone, what it has evicted is a prefix of the
retention order, without critical or more important entries, and the rest is as it was. -/
theorem put_lawful {start q : OutboundQueue} {rounds : Nat} {call : ProducerCall}
    {rest : QueueProg Bool}
    (h : Proc.Visits (fun _ => True) (call.call rounds) start rest q) :
    LawfulSince start call.retentionPriority q := by
  have hreach : ∀ P Room D, P start →
      (∀ priority : Priority, call.retentionPriority = .int priority.value →
        PutRule (· = ·) (fun _ q => LawfulSince start call.retentionPriority q) P Room D
          priority) → LawfulSince start call.retentionPriority q := by
    intro P Room D hP rule
    exact (Proc.wp_reaches (I := LawfulSince start call.retentionPriority) (fun _ => rfl)
      (fun h h' => h.trans h') (fun _ _ _ hG => hG) (fun _ _ _ he => he.elim)
      (.refl start _) (putting_call rounds call rule hP) h).1
  by_cases hp : ∃ priority : Priority, call.retentionPriority = .int priority.value
  · obtain ⟨priority, hp⟩ := hp
    refine hreach (fun q => ∃ victims, Thinned start priority victims q)
      (fun q => ∃ victims, Thinned start priority victims q)
      (LawfulSince start call.retentionPriority) ⟨[], .refl start priority⟩
      (fun other hother => ?_)
    have heq : other = priority := by
      cases other
      cases priority
      simp_all
    rw [heq, hp]
    exact retentionRule start priority
  · exact hreach (· = start) (· = start) (fun _ => True) rfl
      (fun priority hpriority => (hp ⟨priority, hpriority⟩).elim)

def queuedTelemetry : Entry := ⟨0, .telemetry, ⟨40, by decide⟩, [123, 125], none⟩

def queuedHealth (ref : Nat) : Entry := ⟨ref, .health, .health, [123, 125], none⟩

def crowdedQueue : OutboundQueue :=
  { minimumFreeHeapBytes := 100, preferredFreeHeapBytes := 100
    queue := [queuedTelemetry, queuedHealth 1, ⟨2, .log, ⟨RETENTION_PRIORITY_CRITICAL, by decide⟩, [123, 125], none⟩,
      queuedHealth 3, ⟨4, .log, ⟨RETENTION_PRIORITY_WARN, by decide⟩, [123, 125], none⟩]
    queuedBytes := 10, nextRef := 5 }

def telemetryCall : ProducerCall := .putWithKind (.str "telemetry") (.bytes [123, 125])
  (.int RETENTION_PRIORITY_TELEMETRY)

/-- While the heap stays low a telemetry entry evicts both health reports and then the entry of its
own priority. -/
theorem put_lawful_displaced :
    ∃ rest q, Proc.Visits (fun _ => True) (telemetryCall.call 5) crowdedQueue rest q ∧
      victimsSince crowdedQueue q = [queuedHealth 1, queuedHealth 3, queuedTelemetry] ∧
      LawfulSince crowdedQueue (.int 40) q := by
  obtain ⟨rest, hvisits, -⟩ := Proc.run_visits (fun _ => True) (i := ⟨50, false⟩) trivial
    (telemetryCall.call 5) crowdedQueue
  exact ⟨rest, _, hvisits, by decide, put_lawful hvisits⟩

end OutboundQueue
end PicoDualCore
