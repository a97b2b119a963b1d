import PicoDualCore.QueueAccounting
set_option autoImplicit false

namespace PicoDualCore
open AtomicProgram

namespace OutboundQueue

def message? : QueueEvent → Option (Kind × Bytes)
  | .admitted e => some (e.kind, e.payloadBytes)
  | _ => none

def letIn (q : OutboundQueue) : List (Kind × Bytes) := q.history.filterMap message?

def Consumed (q t : OutboundQueue) : Prop := letIn t = letIn q

theorem consumed_take (q : OutboundQueue) : Consumed q q.take.2 := by
  unfold Consumed take
  cases hflight : q.inFlight with
  | some entry => rfl
  | none => cases hqueue : q.queue <;> simp [letIn, message?]

theorem consumed_completeInFlight (q : OutboundQueue) (entry : Option Nat) (discarded : Bool) :
    Consumed q (q.completeInFlight entry discarded).2 := by
  unfold Consumed completeInFlight
  cases hflight : q.inFlight with
  | none => cases entry <;> rfl
  | some e =>
    cases entry with
    | none => rfl
    | some ref =>
      by_cases href : e.ref = ref
      · cases discarded <;> simp [letIn, message?, href]
      · simp [href]

theorem consumed_steps {q t : OutboundQueue}
    (h : Relation.ReflTransGen ConsumerStep q t) : Consumed q t := by
  induction h with
  | refl => rfl
  | tail _ hstep ih =>
    cases hstep with
    | take => exact (consumed_take _).trans ih
    | complete => exact (consumed_completeInFlight _ _ _).trans ih

def LetsIn (kind : Kind) (payload : Bytes) (q t : OutboundQueue) : Prop :=
  letIn t = letIn q ∨ letIn t = letIn q ++ [(kind, payload)]

def PutAnswered (base : List (Kind × Bytes)) (kind : Kind) (payload : Bytes) (admitted : Bool)
    (t : OutboundQueue) : Prop :=
  letIn t = if admitted then base ++ [(kind, payload)] else base

section LettingIn

variable {kind : Kind} {payload : Bytes} {priority : Priority} {q : OutboundQueue} {α β : Type}
  {base : List (Kind × Bytes)}

theorem letIn_append (q : OutboundQueue) (kind : Kind) (payload : Bytes) (priority : Priority)
    (i : HeapInput) : letIn (q.append kind payload priority i).2 =
      if (q.append kind payload priority i).1 then letIn q ++ [(kind, payload)] else letIn q := by
  unfold append
  by_cases hlow : i.memFree < q.minimumFreeHeapBytes
  · rw [if_pos hlow]
    rfl
  · rw [if_neg hlow]
    simp [letIn, message?]

theorem letIn_evict (q : OutboundQueue) (priority : Priority) :
    letIn (q.evictOneEligible priority).2 = letIn q := by
  rcases evictOneEligible_cases q priority with ⟨refusal, he⟩ | ⟨worst, _, victim, _, -, he⟩
  · rw [he]
  · rw [he]
    simp [letIn, without, message?]

def Lets (kind : Kind) (payload : Bytes) (p : QueueProg α) : Prop :=
  p.Steps (LetsIn kind payload) ∧ p.Raises (fun _ => False)

theorem lets_pure {a : α} : Lets kind payload (pure a) := ⟨trivial, trivial⟩

theorem lets_stop : Lets kind payload (.stop : QueueProg α) := ⟨trivial, trivial⟩

theorem lets_seq {p : QueueProg α} {f : α → QueueProg β} (hp : Lets kind payload p)
    (hf : ∀ a, Lets kind payload (f a)) : Lets kind payload (p >>= f) :=
  ⟨Proc.steps_bind hp.1 (fun a => (hf a).1), Proc.raises_bind hp.2 (fun a => (hf a).2)⟩

theorem lets_ite {c : Prop} [Decidable c] {p p' : QueueProg α} (hp : Lets kind payload p)
    (hp' : Lets kind payload p') : Lets kind payload (if c then p else p') :=
  ⟨Proc.steps_ite hp.1 hp'.1, Proc.raises_ite hp.2 hp'.2⟩

theorem lets_locked {block : OutboundQueue → HeapInput → α × OutboundQueue}
    (h : ∀ q i, LetsIn kind payload q (block q i).2) : Lets kind payload (locked block) :=
  ⟨Proc.steps_atomic h, Proc.raises_atomic (fun _ _ _ he => by cases he)⟩

theorem lets_reading {f : OutboundQueue → HeapInput → α} :
    Lets kind payload (locked (fun q i => (f q i, q))) := lets_locked (fun _ _ => .inl rfl)

theorem lets_append (q : OutboundQueue) (i : HeapInput) :
    LetsIn kind payload q (q.append kind payload priority i).2 := by
  have happend := letIn_append q kind payload priority i
  cases hadmitted : (q.append kind payload priority i).1 with
  | true => exact .inr (by simpa [hadmitted] using happend)
  | false => exact .inl (by simpa [hadmitted] using happend)

theorem lets_tryAppendWithCountGate :
    Lets kind payload (tryAppendWithCountGate kind payload priority) := by
  have hcollect : ∀ appended, Lets kind payload (collectUnless appended) := by
    intro appended
    cases appended with
    | true => exact lets_pure
    | false => exact lets_seq lets_reading (fun _ => lets_pure)
  refine lets_seq (lets_locked (fun q i => ?_)) (fun gate => ?_)
  · unfold countGate
    by_cases hbelow : q.belowCountLimit = true
    · rw [if_pos hbelow]
      exact lets_append q i
    · rw [if_neg hbelow]
      have hevict := letIn_evict q priority
      rcases he : q.evictOneEligible priority with ⟨refusal | worst, t⟩ <;> rw [he] at hevict <;>
        exact .inl hevict
  · cases gate with
    | refused => exact lets_pure
    | tried appended => exact hcollect appended
    | relieved =>
      exact lets_seq lets_reading (fun _ => lets_seq (lets_locked lets_append) hcollect)

theorem lets_evictOne : Lets kind payload (evictOne priority) :=
  lets_locked (fun q _ => .inl (letIn_evict q priority))

theorem lets_admitInBand : Lets kind payload (admitInBand kind payload priority) := by
  refine lets_seq lets_reading (fun _ => lets_ite lets_tryAppendWithCountGate ?_)
  refine lets_seq lets_reading (fun _ => lets_ite ?_ lets_pure)
  refine lets_seq lets_evictOne (fun evicted => ?_)
  cases evicted with
  | true => exact lets_seq lets_reading (fun _ => lets_tryAppendWithCountGate)
  | false => exact lets_tryAppendWithCountGate

theorem lets_displace (rounds : Nat) :
    Lets kind payload (displace kind payload priority rounds) := by
  induction rounds with
  | zero => exact lets_stop
  | succ rounds ih =>
    have happend : Lets kind payload (appendAboveFloor kind payload priority) :=
      lets_seq lets_reading (fun _ => lets_ite lets_tryAppendWithCountGate lets_pure)
    refine lets_seq happend (fun _ => lets_ite lets_pure ?_)
    refine lets_seq (lets_locked (fun q _ => ?_)) ?_
    · have hevict := letIn_evict q priority
      unfold evictOrReject
      rcases he : q.evictOneEligible priority with ⟨refusal | worst, t⟩ <;> rw [he] at hevict <;>
        exact .inl hevict
    · exact fun _ => lets_ite (lets_seq lets_reading (fun _ => ih)) lets_pure

theorem lets_admitHeapGoverned (rounds : Nat) :
    Lets kind payload (admitHeapGoverned kind payload priority rounds) := by
  have hrest : Lets kind payload (do
      if ← admitInBand kind payload priority then pure true
      else displace kind payload priority rounds) :=
    lets_seq lets_admitInBand (fun _ => lets_ite lets_pure (lets_displace rounds))
  refine lets_seq lets_reading (fun preferred => ?_)
  cases preferred with
  | true => exact hrest
  | false => exact lets_seq lets_reading (fun _ => hrest)

theorem countRule (base : List (Kind × Bytes)) (priority : Priority) :
    PutRule Consumed (fun _ _ => True) (fun q => letIn q = base) (fun q => letIn q = base)
      (fun q => (letIn q).length = base.length + 1) priority where
  stable h hq := Eq.trans h hq
  roomStable h hq := Eq.trans h hq
  idle _ := trivial
  idleRoom _ := trivial
  evict h := ⟨trivial, (letIn_evict _ _).trans h, fun _ => (letIn_evict _ _).trans h⟩
  room h _ := h
  append {q} h kind payload i := by
    have happend := letIn_append q kind payload priority i
    rw [h] at happend
    refine ⟨trivial, ?_⟩
    cases hadmitted : (q.append kind payload priority i).1 with
    | true => simp [happend, hadmitted]
    | false => simp [happend, hadmitted]
  rejected h := ⟨trivial, h⟩
  oversized h := ⟨trivial, h⟩

theorem admitHeapGoverned_answered (rounds : Nat) (h : letIn q = base) :
    (admitHeapGoverned kind payload priority rounds).wp (fun _ => True) Consumed (fun _ _ => True)
      (PutAnswered base kind payload) (fun _ _ => False) q := by
  have hcount := @PutRule.admitHeapGoverned _ _ _ _ _ kind payload _ q (countRule base priority)
    rounds h
  obtain ⟨hsteps, hraises⟩ := @lets_admitHeapGoverned kind payload priority rounds
  have hcopies := Proc.wp_invariant (A := fun _ => True) (R := Consumed)
    (K := fun t => ∃ n, letIn t = base ++ List.replicate n (kind, payload))
    (Proc.wp_steps hsteps q) ⟨0, by simpa using h⟩
    (fun s t hst ⟨n, hn⟩ => ⟨n, Eq.trans hst hn⟩) (fun s t hst ⟨n, hn⟩ => ?_)
  · refine Proc.wp_mono (Proc.wp_raises hraises (Proc.wp_and hcount hcopies)) (fun _ _ _ => trivial)
      ?_ (fun _ _ he => he.2)
    rintro admitted t ⟨hdecided, -, n, hn⟩
    cases admitted with
    | false => exact hdecided
    | true =>
      have hlength : (letIn t).length = base.length + 1 := hdecided
      rw [hn, List.length_append, List.length_replicate] at hlength
      obtain rfl : n = 1 := by omega
      exact hn
  · rcases hst with hsame | hone
    · exact ⟨n, hsame.trans hn⟩
    · refine ⟨n + 1, ?_⟩
      rw [hone, hn, List.append_assoc, List.replicate_succ']

theorem admitBounded_answered {A : HeapInput → Prop} (rounds : Nat)
    (hsize : payload.length ≤ MAX_OUTBOUND_MESSAGE_BYTES) (h : letIn q = base) :
    (admitBounded rounds kind priority payload).wp A Consumed (fun _ _ => True)
      (PutAnswered base kind payload) (fun _ _ => False) q := by
  unfold admitBounded
  rw [if_neg (by omega)]
  exact Proc.wp_rely (admitHeapGoverned_answered rounds h) (fun _ _ => trivial) (fun _ _ hR => hR)

end LettingIn

end OutboundQueue

end PicoDualCore
