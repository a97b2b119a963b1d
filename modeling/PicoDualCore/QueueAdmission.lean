import PicoDualCore.OutboundQueue
set_option autoImplicit false

namespace PicoDualCore
open AtomicProgram

namespace OutboundQueue

theorem worstPriority_spec {queue : List Entry} (h : queue ≠ []) :
    (∃ e ∈ queue, e.retentionPriority.value = worstPriority queue) ∧
      ∀ e ∈ queue, e.retentionPriority.value ≤ worstPriority queue := by
  have hfold : ∀ (es : List Entry) (w : Int),
      let worst := es.foldl (fun worst e => if worst < e.retentionPriority.value
        then e.retentionPriority.value else worst) w
      w ≤ worst ∧ (∀ e ∈ es, e.retentionPriority.value ≤ worst) ∧
        (worst = w ∨ ∃ e ∈ es, e.retentionPriority.value = worst) := by
    intro es
    induction es with
    | nil => intro w; simp
    | cons e es ih =>
      intro w
      obtain ⟨hle, hall, hwit⟩ := ih (if w < e.retentionPriority.value
        then e.retentionPriority.value else w)
      simp only [List.foldl_cons, List.mem_cons, forall_eq_or_imp, exists_eq_or_imp]
      by_cases hw : w < e.retentionPriority.value
      · rw [if_pos hw] at hle hall hwit ⊢
        refine ⟨by omega, ⟨hle, hall⟩, ?_⟩
        rcases hwit with hwit | hwit
        · exact .inr (.inl hwit.symm)
        · exact .inr (.inr hwit)
      · rw [if_neg hw] at hle hall hwit ⊢
        refine ⟨hle, ⟨by omega, hall⟩, ?_⟩
        rcases hwit with hwit | hwit
        · exact .inl hwit
        · exact .inr (.inr hwit)
  obtain ⟨hmin, hall, hwit⟩ := hfold queue RETENTION_PRIORITY_MIN
  refine ⟨?_, hall⟩
  rcases hwit with hwit | hwit
  · obtain ⟨e, he⟩ := List.exists_mem_of_ne_nil queue h
    have hlow := e.retentionPriority.inRange.1
    have hhigh := hall e he
    refine ⟨e, he, ?_⟩
    unfold worstPriority
    omega
  · exact hwit

def without (q : OutboundQueue) (victim : Entry) (rest : List Entry) : OutboundQueue :=
  { q with
    queue := rest
    queuedBytes := q.queuedBytes - victim.size
    messagesEvicted := q.messagesEvicted + 1
    telemetryEvicted := q.telemetryEvicted + (if victim.kind = .telemetry then 1 else 0)
    history := q.history ++ [.evicted victim] }

structure IsVictim (queue : List Entry) (priority : Priority) (before : List Entry)
    (victim : Entry) (after : List Entry) : Prop where
  split : queue = before ++ victim :: after
  oldest : ∀ e ∈ before, e.retentionPriority.value < victim.retentionPriority.value
  worst : ∀ e ∈ after, e.retentionPriority.value ≤ victim.retentionPriority.value
  notCritical : victim.retentionPriority.value ≠ RETENTION_PRIORITY_CRITICAL
  displaceable : priority.value ≤ victim.retentionPriority.value

theorem evictOneEligible_cases (q : OutboundQueue) (priority : Priority) :
    (∃ refusal, q.evictOneEligible priority = (.error refusal, q)) ∨
    ∃ worst before victim after, IsVictim q.queue priority before victim after ∧
      q.evictOneEligible priority = (.ok worst, q.without victim (before ++ after)) := by
  unfold evictOneEligible
  by_cases hempty : q.queue.isEmpty
  · exact .inl ⟨_, if_pos hempty⟩
  have hne : q.queue ≠ [] := by simpa using hempty
  obtain ⟨⟨e, he, heworst⟩, hall⟩ := worstPriority_spec hne
  rw [if_neg hempty]
  generalize worstPriority q.queue = worst at heworst hall ⊢
  by_cases hlower : worst < priority.value
  · exact .inl ⟨_, if_pos hlower⟩
  rw [if_neg hlower]
  by_cases hcritical : worst = RETENTION_PRIORITY_CRITICAL ∧
      priority.value = RETENTION_PRIORITY_CRITICAL
  · exact .inl ⟨_, if_pos hcritical⟩
  rw [if_neg hcritical]
  right
  have hlow : RETENTION_PRIORITY_CRITICAL ≤ priority.value := priority.inRange.1
  obtain ⟨victim, before, after, hbefore, hp, hsplit, herase⟩ :=
    List.exists_of_eraseP (p := fun e => e.retentionPriority.value == worst) he (by simp [heworst])
  have hvictim : victim.retentionPriority.value = worst := by simpa using hp
  have hfind : q.queue.find? (fun e => e.retentionPriority.value == worst) = some victim := by
    rw [hsplit, List.find?_append, List.find?_eq_none.mpr hbefore]
    simp [hvictim]
  refine ⟨worst, before, victim, after, ⟨hsplit, ?_, ?_, ?_, ?_⟩, ?_⟩
  · intro b hb
    have hle := hall b (by simp [hsplit, hb])
    have hneq := hbefore b hb
    simp only [beq_iff_eq] at hneq
    omega
  · intro a ha
    rw [hvictim]
    exact hall a (by simp [hsplit, ha])
  · intro hv
    exact hcritical ⟨by omega, by omega⟩
  · omega
  · simp only [evictOldestByPriority, hfind, herase]
    rfl

def withEntry (q : OutboundQueue) (entry : Entry) : OutboundQueue :=
  { q with
    queue := q.queue ++ [entry]
    nextRef := q.nextRef + 1
    queuedBytes := q.queuedBytes + entry.size
    highWatermark := max q.highWatermark (q.depth + 1)
    highWatermarkBytes := max q.highWatermarkBytes (q.queuedBytes + entry.size)
    history := q.history ++ [.admitted entry] }

theorem append_cases (q : OutboundQueue) (kind : Kind) (payload : Bytes) (priority : Priority)
    (i : HeapInput) :
    q.append kind payload priority i = (false, { q with nextRef := q.nextRef + 1 }) ∨
    q.append kind payload priority i =
      (true, q.withEntry ⟨q.nextRef, kind, priority, payload, none⟩) := by
  unfold append
  by_cases hfloor : i.memFree < q.minimumFreeHeapBytes
  · exact .inl (by simp only [hfloor, if_true, List.dropLast_concat])
  · right
    have hdepth : ∀ entry : Entry,
        ({ q with queue := q.queue ++ [entry], nextRef := q.nextRef + 1 } : OutboundQueue).depth =
          q.depth + 1 := by
      intro entry
      simp only [depth, List.length_append, List.length_cons, List.length_nil]
      omega
    simp only [hfloor, if_false, hdepth, withEntry, Prod.mk.injEq, true_and]
    congr 1
    · split <;> omega
    · split <;> omega

/-- What has to be shown of the single steps of a put: `P` holds until an entry is admitted,
`Room` also leaves room for one more, and `D` holds once it is in. -/
structure PutRule (R G : OutboundQueue → OutboundQueue → Prop) (P Room D : OutboundQueue → Prop)
    (priority : Priority) : Prop where
  stable : ∀ {q t}, R q t → P q → P t
  roomStable : ∀ {q t}, R q t → Room q → Room t
  idle : ∀ {q}, P q → G q q
  idleRoom : ∀ {q}, Room q → G q q
  evict : ∀ {q}, P q → G q (q.evictOneEligible priority).2 ∧ P (q.evictOneEligible priority).2 ∧
    ((q.evictOneEligible priority).1.isOk → Room (q.evictOneEligible priority).2)
  room : ∀ {q}, P q → q.belowCountLimit = true → Room q
  append : ∀ {q}, Room q → ∀ kind payload i, G q (q.append kind payload priority i).2 ∧
    if (q.append kind payload priority i).1 then D (q.append kind payload priority i).2
    else P (q.append kind payload priority i).2
  rejected : ∀ {q}, P q → G q { q with messagesRejected := q.messagesRejected + 1 } ∧
    P { q with messagesRejected := q.messagesRejected + 1 }
  oversized : ∀ {q}, P q → G q { q with oversizedRejected := q.oversizedRejected + 1 } ∧
    P { q with oversizedRejected := q.oversizedRejected + 1 }

section Put

variable {R G : OutboundQueue → OutboundQueue → Prop} {P Room D : OutboundQueue → Prop}
  {kind : Kind} {payload : Bytes} {priority : Priority} {q : OutboundQueue}

/-- A put in progress: `P` whenever it raises. -/
abbrev putting (R G : OutboundQueue → OutboundQueue → Prop) (P : OutboundQueue → Prop) {α : Type}
    (Q : α → OutboundQueue → Prop) (p : QueueProg α) (q : OutboundQueue) : Prop :=
  p.wp (fun _ => True) R G Q (fun _ => P) q

def Decided (P D : OutboundQueue → Prop) (admitted : Bool) (q : OutboundQueue) : Prop :=
  if admitted then D q else P q

def Gated (P Room D : OutboundQueue → Prop) : Gate → OutboundQueue → Prop
  | .tried appended => Decided P D appended
  | .relieved => Room
  | .refused => P

theorem putting_locked {α : Type} {Q : α → OutboundQueue → Prop}
    {block : OutboundQueue → HeapInput → α × OutboundQueue}
    (h : ∀ t, R q t → ∀ i, G t (block t i).2 ∧ Q (block t i).1 (block t i).2) :
    putting R G P Q (locked block) q :=
  Proc.wp_atomic (fun t ht i _ => h t ht i)

theorem putting_seq {α β : Type} {Q : α → OutboundQueue → Prop} {Q' : β → OutboundQueue → Prop}
    {p : QueueProg α} {f : α → QueueProg β} (hp : putting R G P Q p q)
    (hf : ∀ a t, Q a t → putting R G P Q' (f a) t) : putting R G P Q' (p >>= f) q :=
  (Proc.wp_seq _ _ _).mpr (Proc.wp_mono hp (fun _ _ h => h) hf (fun _ _ h => h))

namespace PutRule

variable (rule : PutRule R G P Room D priority)
include rule

theorem reading {f : OutboundQueue → HeapInput → Bool} (h : P q) :
    putting R G P (fun _ => P) (locked (fun q i => (f q i, q))) q :=
  putting_locked (fun _ ht _ => ⟨rule.idle (rule.stable ht h), rule.stable ht h⟩)

theorem gcCollect (h : P q) : putting R G P (fun _ => P) gcCollect q :=
  putting_locked (fun _ ht _ => ⟨rule.idle (rule.stable ht h), rule.stable ht h⟩)

theorem gcCollectRoom (h : Room q) :
    putting R G P (fun _ => Room) OutboundQueue.gcCollect q :=
  putting_locked (fun _ ht _ => ⟨rule.idleRoom (rule.roomStable ht h), rule.roomStable ht h⟩)

theorem collectUnless {appended : Bool} (h : Decided P D appended q) :
    putting R G P (Decided P D) (collectUnless appended) q := by
  cases appended with
  | true => exact h
  | false => exact putting_seq (rule.gcCollect h) (fun _ _ ht => ht)

theorem tryAppendWithCountGate (h : P q) :
    putting R G P (Decided P D) (tryAppendWithCountGate kind payload priority) q := by
  unfold OutboundQueue.tryAppendWithCountGate
  refine putting_seq (Q := Gated P Room D) ?_ ?_
  · refine putting_locked (fun t ht i => ?_)
    have hP := rule.stable ht h
    unfold countGate
    by_cases hbelow : t.belowCountLimit = true
    · rw [if_pos hbelow]
      exact rule.append (rule.room hP hbelow) kind payload i
    · rw [if_neg hbelow]
      obtain ⟨hG, hP', hroom⟩ := rule.evict hP
      rcases he : t.evictOneEligible priority with ⟨refusal | worst, t'⟩ <;>
        rw [he] at hG hP' hroom
      · exact ⟨hG, hP'⟩
      · exact ⟨hG, hroom rfl⟩
  · intro gate t ht
    cases gate with
    | refused => exact ht
    | tried appended => exact rule.collectUnless ht
    | relieved =>
      -- the room that relief made outlasts the collection
      refine putting_seq (rule.gcCollectRoom ht) (fun _ u hu => ?_)
      refine putting_seq (putting_locked (fun v hv i => ?_)) (fun _ _ hw => rule.collectUnless hw)
      exact rule.append (rule.roomStable hv hu) kind payload i

theorem evictOne (h : P q) : putting R G P (fun _ => P) (evictOne priority) q :=
  putting_locked (fun _ ht _ =>
    ⟨(rule.evict (rule.stable ht h)).1, (rule.evict (rule.stable ht h)).2.1⟩)

theorem evictOrReject (h : P q) :
    putting R G P (fun _ => P) (locked (fun q _ => evictOrReject priority q)) q := by
  refine putting_locked (fun t ht _ => ?_)
  have hP := rule.stable ht h
  unfold OutboundQueue.evictOrReject
  rcases evictOneEligible_cases t priority with ⟨refusal, he⟩ | ⟨worst, _, victim, _, -, he⟩
  · rw [he]
    exact rule.rejected hP
  · have hevict := rule.evict hP
    rw [he] at hevict ⊢
    exact ⟨hevict.1, hevict.2.1⟩

theorem admitInBand (h : P q) :
    putting R G P (Decided P D) (admitInBand kind payload priority) q := by
  refine putting_seq (rule.reading h) (fun preferred t ht => ?_)
  cases preferred with
  | true => exact rule.tryAppendWithCountGate ht
  | false =>
    refine putting_seq (rule.reading ht) (fun reserve u hu => ?_)
    cases reserve with
    | false => exact hu
    | true =>
      refine putting_seq (rule.evictOne hu) (fun evicted v hv => ?_)
      cases evicted with
      | true =>
        exact putting_seq (rule.gcCollect hv) (fun _ _ hw => rule.tryAppendWithCountGate hw)
      | false => exact rule.tryAppendWithCountGate hv

theorem appendAboveFloor (h : P q) :
    putting R G P (Decided P D) (appendAboveFloor kind payload priority) q := by
  refine putting_seq (rule.reading h) (fun reserve t ht => ?_)
  cases reserve with
  | true => exact rule.tryAppendWithCountGate ht
  | false => exact ht

theorem displace (rounds : Nat) (h : P q) :
    putting R G P (Decided P D) (displace kind payload priority rounds) q := by
  induction rounds generalizing q with
  | zero => trivial
  | succ rounds ih =>
    refine putting_seq (rule.appendAboveFloor h) (fun admitted t ht => ?_)
    cases admitted with
    | true => exact ht
    | false =>
      refine putting_seq (rule.evictOrReject ht) (fun evicted u hu => ?_)
      cases evicted with
      | true => exact putting_seq (rule.gcCollect hu) (fun _ _ hv => ih hv)
      | false => exact hu

theorem admitHeapGoverned (rounds : Nat) (h : P q) :
    putting R G P (Decided P D) (admitHeapGoverned kind payload priority rounds) q := by
  have hrest : ∀ t, P t → putting R G P (Decided P D) (do
      if ← OutboundQueue.admitInBand kind payload priority then pure true
      else OutboundQueue.displace kind payload priority rounds) t := by
    intro t ht
    refine putting_seq (rule.admitInBand ht) (fun admitted u hu => ?_)
    cases admitted with
    | true => exact hu
    | false => exact rule.displace rounds hu
  refine putting_seq (rule.reading h) (fun preferred t ht => ?_)
  cases preferred with
  | true => exact hrest t ht
  | false => exact putting_seq (rule.gcCollect ht) (fun _ u hu => hrest u hu)

theorem serializeAttempt {message : PyValue} (h : P q) :
    putting R G P (fun _ => P) (serializeAttempt message) q := by
  refine Proc.wp_atomic (fun t ht i _ => ?_)
  have hP := rule.stable ht h
  by_cases hm : i.memoryError = true
  · simpa only [hm, if_true] using ⟨rule.idle hP, hP⟩
  · simp only [hm]
    cases serializeAndValidateMessage message <;> exact ⟨rule.idle hP, hP⟩

theorem countOversized (h : P q) :
    putting R G P (fun _ => P) countOversized q :=
  putting_locked (fun _ ht _ => rule.oversized (rule.stable ht h))

theorem refuseSerialization {e : SerializationError} (h : P q) :
    putting R G P (fun _ => P) (refuseSerialization e) q := by
  cases e with
  | unsupportedValue m => exact h
  | nonStringKey m => exact h
  | nonFiniteFloat m => exact h
  | messageTooLarge m => exact putting_seq (rule.countOversized h) (fun _ _ ht => ht)

theorem serializeWithRecovery {message : PyValue} (rounds : Nat) (gcAttempted : Bool) (h : P q) :
    putting R G P (fun _ => P)
      (serializeWithRecovery message priority rounds gcAttempted) q := by
  induction rounds generalizing q gcAttempted with
  | zero => trivial
  | succ rounds ih =>
    unfold OutboundQueue.serializeWithRecovery putting
    rw [Proc.wp_handle]
    refine Proc.wp_mono (rule.serializeAttempt h) (fun _ _ hG => hG) (fun _ _ hP => hP) ?_
    intro e t ht
    cases e with
    | memoryError =>
      cases gcAttempted with
      | false => exact putting_seq (rule.gcCollect ht) (fun _ _ hu => ih true hu)
      | true =>
        refine putting_seq (rule.evictOne ht) (fun evicted u hu => ?_)
        cases evicted with
        | true => exact putting_seq (rule.gcCollect hu) (fun _ _ hv => ih true hv)
        | false => exact hu
    | serialization e => exact rule.refuseSerialization ht
    | typeError m => exact ht
    | valueError m => exact ht
    | messageTooLarge m => exact ht

theorem admitBounded (rounds : Nat) (h : P q) :
    putting R G P (Decided P D) (admitBounded rounds kind priority payload) q := by
  unfold OutboundQueue.admitBounded
  by_cases hsize : MAX_OUTBOUND_MESSAGE_BYTES < payload.length
  · rw [if_pos hsize]
    exact putting_seq (rule.countOversized h) (fun _ _ ht => ht)
  · rw [if_neg hsize]
    exact rule.admitHeapGoverned rounds h

end PutRule

theorem priority_of_validated {kind retentionPriority : PyValue} {checked : Kind × Priority}
    (h : validateAdmissionMetadata kind retentionPriority = .ok checked) :
    retentionPriority = .int checked.2.value := by
  unfold validateAdmissionMetadata at h
  split at h
  · cases h
  · split at h
    · split at h
      · cases h; rfl
      · cases h
    · cases h

/-- The rule for a whole put, whatever its arguments. -/
theorem putting_put {kind message retentionPriority : PyValue} (rounds : Nat)
    (rule : ∀ priority : Priority, retentionPriority = .int priority.value →
      PutRule R G P Room D priority) (h : P q) :
    putting R G P (Decided P D) (put rounds kind message retentionPriority) q := by
  unfold put putting
  rw [Proc.wp_seq, Proc.wp_ofExcept]
  cases hchecked : validateAdmissionMetadata kind retentionPriority with
  | error e => exact h
  | ok checked =>
    have hrule := rule checked.2 (priority_of_validated hchecked)
    cases message.isDict with
    | false => exact h
    | true =>
      exact putting_seq (hrule.serializeWithRecovery rounds false h)
        (fun _ _ ht => hrule.admitHeapGoverned rounds ht)

theorem putting_putWithKind {kind retentionPriority : PyValue} {argument : PayloadArgument}
    (rounds : Nat) (rule : ∀ priority : Priority, retentionPriority = .int priority.value →
      PutRule R G P Room D priority) (h : P q) :
    putting R G P (Decided P D) (putWithKind rounds kind argument retentionPriority) q := by
  unfold putWithKind putting
  rw [Proc.wp_seq, Proc.wp_ofExcept]
  cases hchecked : validateAdmissionMetadata kind retentionPriority with
  | error e => exact h
  | ok checked =>
    have hrule := rule checked.2 (priority_of_validated hchecked)
    cases argument with
    | other value => exact h
    | bytes b => exact hrule.admitBounded rounds h
    | bytearray b => exact hrule.admitBounded rounds h

end Put

inductive ProducerCall where
  | put (kind message retentionPriority : PyValue)
  | putWithKind (kind : PyValue) (payload : PayloadArgument) (retentionPriority : PyValue)

def ProducerCall.retentionPriority : ProducerCall → PyValue
  | .put _ _ retentionPriority => retentionPriority
  | .putWithKind _ _ retentionPriority => retentionPriority

def ProducerCall.call (rounds : Nat) : ProducerCall → QueueProg Bool
  | .put kind message retentionPriority => OutboundQueue.put rounds kind message retentionPriority
  | .putWithKind kind payload retentionPriority =>
    OutboundQueue.putWithKind rounds kind payload retentionPriority

theorem putting_call {R G : OutboundQueue → OutboundQueue → Prop}
    {P Room D : OutboundQueue → Prop} {q : OutboundQueue} (rounds : Nat) (call : ProducerCall)
    (rule : ∀ priority : Priority, call.retentionPriority = .int priority.value →
      PutRule R G P Room D priority) (h : P q) :
    putting R G P (Decided P D) (call.call rounds) q := by
  cases call with
  | put => exact putting_put rounds rule h
  | putWithKind => exact putting_putWithKind rounds rule h

end OutboundQueue
end PicoDualCore
