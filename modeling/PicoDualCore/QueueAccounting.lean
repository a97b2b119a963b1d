import PicoDualCore.QueueAdmission
import Mathlib.Order.Bounds.Basic
import Mathlib.Data.List.Perm.Basic
set_option autoImplicit false

/-! The books of the outbound queue: bytes, counts and watermarks under any interleaving. -/

namespace PicoDualCore
open AtomicProgram

namespace OutboundQueue

def QueueEvent.admitted? : QueueEvent → Option Nat
  | .admitted e => some e.ref
  | _ => none

def QueueEvent.evicted? : QueueEvent → Option Nat
  | .evicted e => some e.ref
  | _ => none

def QueueEvent.taken? : QueueEvent → Option Nat
  | .taken e => some e.ref
  | _ => none

def QueueEvent.completed? : QueueEvent → Option Nat
  | .completed e => some e.ref
  | _ => none

def QueueEvent.discarded? : QueueEvent → Option Nat
  | .discarded e => some e.ref
  | _ => none

def QueueEvent.released? : QueueEvent → Option Nat
  | .completed e | .discarded e => some e.ref
  | _ => none

/-- The identities of the entries ever appended for good, in order. -/
def admitted (q : OutboundQueue) : List Nat := q.history.filterMap QueueEvent.admitted?
def evicted (q : OutboundQueue) : List Nat := q.history.filterMap QueueEvent.evicted?
def taken (q : OutboundQueue) : List Nat := q.history.filterMap QueueEvent.taken?
def completed (q : OutboundQueue) : List Nat := q.history.filterMap QueueEvent.completed?
def discarded (q : OutboundQueue) : List Nat := q.history.filterMap QueueEvent.discarded?
def released (q : OutboundQueue) : List Nat := q.history.filterMap QueueEvent.released?

/-- The entry in flight, then the queued ones. -/
def retained (q : OutboundQueue) : List Entry := q.inFlight.toList ++ q.queue

def retainedBytes (q : OutboundQueue) : Int := (q.retained.map Entry.size).sum

theorem depth_eq (q : OutboundQueue) : q.depth = q.retained.length := by
  cases h : q.inFlight <;> simp [depth, retained, h]

/-- The books agree: with each other, with the counters and with what is retained. -/
structure Ledger (q : OutboundQueue) : Prop where
  fresh : ∀ r ∈ q.admitted, r < q.nextRef
  distinct : q.admitted.Nodup
  ordered : (q.released ++ q.retained.map Entry.ref).Sublist q.admitted
  whole : (q.released ++ q.retained.map Entry.ref ++ q.evicted).Perm q.admitted
  takenFirst : q.taken = q.released ++ q.inFlight.toList.map Entry.ref
  bytes : q.queuedBytes = q.retainedBytes
  evictions : q.evicted.length = q.messagesEvicted
  discards : q.discarded.length = q.oversizedDiscarded
  releases : q.released.length = q.completed.length + q.discarded.length

section Ledger

variable {q : OutboundQueue} {kind : Kind} {payload : Bytes} {priority : Priority} {i : HeapInput}

theorem Ledger.withEntry (h : Ledger q) :
    Ledger (q.withEntry ⟨q.nextRef, kind, priority, payload, none⟩) := by
  have hnew : q.nextRef ∉ q.admitted := fun hr => Nat.lt_irrefl _ (h.fresh _ hr)
  have hadmitted : (q.withEntry ⟨q.nextRef, kind, priority, payload, none⟩).admitted =
      q.admitted ++ [q.nextRef] := by
    simp [admitted, OutboundQueue.withEntry, QueueEvent.admitted?]
  constructor
  · intro r hr
    rw [hadmitted, List.mem_append, List.mem_singleton] at hr
    rcases hr with hr | rfl
    · exact Nat.lt_succ_of_lt (h.fresh r hr)
    · exact Nat.lt_succ_self _
  · rw [hadmitted]
    exact List.nodup_append.mpr ⟨h.distinct, by simp,
      fun r hr r' hr' heq => hnew (List.mem_singleton.mp hr' ▸ heq ▸ hr)⟩
  · rw [hadmitted]
    have hs := h.ordered.append (List.Sublist.refl [q.nextRef])
    simpa [List.filterMap_cons, released, retained, OutboundQueue.withEntry, QueueEvent.released?] using hs
  · rw [hadmitted]
    have hp : (q.released ++ q.retained.map Entry.ref ++ [q.nextRef] ++ q.evicted).Perm
        (q.admitted ++ [q.nextRef]) := by
      have hmove := (@List.perm_append_comm _ [q.nextRef] q.evicted).append_left
        (q.released ++ q.retained.map Entry.ref)
      simp only [← List.append_assoc] at hmove
      exact hmove.trans (h.whole.append_right _)
    simpa [List.filterMap_cons, released, evicted, retained, OutboundQueue.withEntry, QueueEvent.released?,
      QueueEvent.evicted?] using hp
  · simpa [List.filterMap_cons, taken, released, OutboundQueue.withEntry, QueueEvent.taken?,
      QueueEvent.released?] using h.takenFirst
  · have hb := h.bytes
    simp only [retainedBytes, retained, OutboundQueue.withEntry, List.map_append, List.sum_append,
      List.map_cons, List.map_nil, List.sum_cons, List.sum_nil] at hb ⊢
    omega
  · simpa [List.filterMap_cons, evicted, OutboundQueue.withEntry, QueueEvent.evicted?] using h.evictions
  · simpa [List.filterMap_cons, discarded, OutboundQueue.withEntry, QueueEvent.discarded?] using h.discards
  · simpa [List.filterMap_cons, released, completed, discarded, OutboundQueue.withEntry, QueueEvent.released?,
      QueueEvent.completed?, QueueEvent.discarded?] using h.releases

/-- A reference that is skipped, by a rolled-back append, changes nothing in the books. -/
theorem Ledger.skip (h : Ledger q) : Ledger { q with nextRef := q.nextRef + 1 } :=
  ⟨fun r hr => Nat.lt_succ_of_lt (h.fresh r hr), h.distinct, h.ordered, h.whole, h.takenFirst,
    h.bytes, h.evictions, h.discards, h.releases⟩

theorem Ledger.append (h : Ledger q) : Ledger (q.append kind payload priority i).2 := by
  rcases append_cases q kind payload priority i with ha | ha
  · rw [ha]
    exact h.skip
  · rw [ha]
    exact h.withEntry

theorem Ledger.rejected (h : Ledger q) :
    Ledger { q with messagesRejected := q.messagesRejected + 1 } := by
  exact ⟨h.fresh, h.distinct, h.ordered, h.whole, h.takenFirst, h.bytes, h.evictions, h.discards,
    h.releases⟩

theorem Ledger.oversized (h : Ledger q) :
    Ledger { q with oversizedRejected := q.oversizedRejected + 1 } := by
  exact ⟨h.fresh, h.distinct, h.ordered, h.whole, h.takenFirst, h.bytes, h.evictions, h.discards,
    h.releases⟩

theorem Ledger.without {before after : List Entry} {victim : Entry} (h : Ledger q)
    (hsplit : q.queue = before ++ victim :: after) :
    Ledger (q.without victim (before ++ after)) := by
  constructor
  · simpa [List.filterMap_cons, admitted, OutboundQueue.without, QueueEvent.admitted?] using h.fresh
  · simpa [List.filterMap_cons, admitted, OutboundQueue.without, QueueEvent.admitted?] using h.distinct
  · have hdrop : (before ++ after).Sublist q.queue := by
      rw [hsplit]
      exact (List.Sublist.refl before).append (List.sublist_cons_self victim after)
    have hs : (q.released ++ (q.inFlight.toList ++ (before ++ after)).map Entry.ref).Sublist
        (q.released ++ q.retained.map Entry.ref) :=
      (List.Sublist.refl _).append ((((List.Sublist.refl _).append hdrop)).map _)
    simpa [List.filterMap_cons, admitted, released, retained, OutboundQueue.without, QueueEvent.admitted?,
      QueueEvent.released?] using hs.trans h.ordered
  · have hp : ((before ++ after).map Entry.ref ++ (q.evicted ++ [victim.ref])).Perm
        (q.queue.map Entry.ref ++ q.evicted) := by
      rw [hsplit]
      simp only [List.map_append, List.map_cons, List.append_assoc]
      refine List.Perm.append_left _ ?_
      have hmove := @List.perm_append_comm _ (after.map Entry.ref ++ q.evicted) [victim.ref]
      simpa using hmove
    have hw := (hp.append_left (q.released ++ q.inFlight.toList.map Entry.ref)).trans
      (by simpa [retained] using h.whole)
    simpa [List.filterMap_cons, admitted, released, evicted, retained, OutboundQueue.without, QueueEvent.admitted?,
      QueueEvent.released?, QueueEvent.evicted?] using hw
  · simpa [List.filterMap_cons, taken, released, OutboundQueue.without, QueueEvent.taken?, QueueEvent.released?] using
      h.takenFirst
  · have hb := h.bytes
    simp only [retainedBytes, retained, OutboundQueue.without, hsplit, List.map_append,
      List.map_cons, List.sum_append, List.sum_cons] at hb ⊢
    omega
  · simpa [List.filterMap_cons, evicted, OutboundQueue.without, QueueEvent.evicted?] using h.evictions
  · simpa [List.filterMap_cons, discarded, OutboundQueue.without, QueueEvent.discarded?] using h.discards
  · simpa [List.filterMap_cons, released, completed, discarded, OutboundQueue.without, QueueEvent.released?,
      QueueEvent.completed?, QueueEvent.discarded?] using h.releases

theorem Ledger.take (h : Ledger q) : Ledger q.take.2 := by
  unfold OutboundQueue.take
  cases hf : q.inFlight with
  | some e => exact h
  | none =>
    cases hq : q.queue with
    | nil => exact h
    | cons e rest =>
      constructor
      · simpa [List.filterMap_cons, admitted, QueueEvent.admitted?] using h.fresh
      · simpa [List.filterMap_cons, admitted, QueueEvent.admitted?] using h.distinct
      · simpa [List.filterMap_cons, admitted, released, retained, hf, hq, QueueEvent.admitted?,
          QueueEvent.released?] using h.ordered
      · simpa [List.filterMap_cons, admitted, released, evicted, retained, hf, hq, QueueEvent.admitted?,
          QueueEvent.released?, QueueEvent.evicted?] using h.whole
      · have ht := h.takenFirst
        simp only [hf, Option.toList_none, List.map_nil, List.append_nil] at ht
        simpa [List.filterMap_cons, taken, released, QueueEvent.taken?, QueueEvent.released?] using ht
      · simpa [retainedBytes, retained, hf, hq] using h.bytes
      · simpa [List.filterMap_cons, evicted, QueueEvent.evicted?] using h.evictions
      · simpa [List.filterMap_cons, discarded, QueueEvent.discarded?] using h.discards
      · simpa [List.filterMap_cons, released, completed, discarded, QueueEvent.released?, QueueEvent.completed?,
          QueueEvent.discarded?] using h.releases

theorem Ledger.completeInFlight (h : Ledger q) (entry : Option Nat) (discarded : Bool) :
    Ledger (q.completeInFlight entry discarded).2 := by
  unfold OutboundQueue.completeInFlight
  cases hf : q.inFlight with
  | none => cases entry <;> exact h
  | some e =>
    cases entry with
    | none => exact h
    | some ref =>
      dsimp only
      split
      · constructor
        · cases discarded <;> simpa [List.filterMap_cons, admitted, QueueEvent.admitted?] using h.fresh
        · cases discarded <;> simpa [List.filterMap_cons, admitted, QueueEvent.admitted?] using h.distinct
        · cases discarded <;>
            simpa [List.filterMap_cons, admitted, released, retained, hf, QueueEvent.admitted?,
              QueueEvent.released?] using h.ordered
        · cases discarded <;>
            simpa [List.filterMap_cons, admitted, released, evicted, retained, hf, QueueEvent.admitted?,
              QueueEvent.released?, QueueEvent.evicted?] using h.whole
        · have ht := h.takenFirst
          simp only [hf, Option.toList_some, List.map_cons, List.map_nil] at ht
          cases discarded <;>
            simpa [List.filterMap_cons, taken, released, QueueEvent.taken?, QueueEvent.released?] using ht
        · have hb := h.bytes
          simp only [retainedBytes, retained, hf, Option.toList_some, Option.toList_none,
            List.cons_append, List.nil_append, List.map_cons, List.sum_cons] at hb ⊢
          omega
        · cases discarded <;> simpa [List.filterMap_cons, evicted, QueueEvent.evicted?] using h.evictions
        · have hd := h.discards
          cases discarded <;>
            simpa [List.filterMap_cons, OutboundQueue.discarded, QueueEvent.discarded?] using hd
        · have hr := h.releases
          cases discarded <;>
            simp [List.filterMap_cons, released, completed, OutboundQueue.discarded, QueueEvent.released?,
              QueueEvent.completed?, QueueEvent.discarded?] at hr ⊢ <;> omega
      · exact h

end Ledger

def WithinCeiling (q : OutboundQueue) : Prop := ∀ m, q.maxMessages = some m → q.depth ≤ m

def HasRoom (q : OutboundQueue) : Prop := ∀ m, q.maxMessages = some m → q.depth < m

theorem HasRoom.within {q : OutboundQueue} (h : HasRoom q) : WithinCeiling q :=
  fun m hm => Nat.le_of_lt (h m hm)

structure Moves (q q' : OutboundQueue) : Prop where
  ledger : Ledger q → Ledger q'
  ceiling : WithinCeiling q → WithinCeiling q'
  config : q'.maxMessages = q.maxMessages
  watermark : q'.highWatermark = max q.highWatermark q'.depth ∨
    q'.highWatermark = q.highWatermark ∧ q'.depth ≤ q.depth
  watermarkBytes : q'.highWatermarkBytes = max q.highWatermarkBytes q'.queuedBytes ∨
    q'.highWatermarkBytes = q.highWatermarkBytes ∧ q'.queuedBytes ≤ q.queuedBytes

structure Shrinks (q q' : OutboundQueue) : Prop where
  depth : q'.depth ≤ q.depth
  config : q'.maxMessages = q.maxMessages

theorem Shrinks.refl (q : OutboundQueue) : Shrinks q q := ⟨Nat.le_refl _, rfl⟩

theorem Shrinks.trans {a b c : OutboundQueue} (h : Shrinks a b) (h' : Shrinks b c) :
    Shrinks a c :=
  ⟨Nat.le_trans h'.depth h.depth, h'.config.trans h.config⟩

theorem WithinCeiling.shrinks {a b : OutboundQueue} (h : WithinCeiling a) (hs : Shrinks a b) :
    WithinCeiling b :=
  fun m hm => Nat.le_trans hs.depth (h m (hs.config ▸ hm))

theorem HasRoom.shrinks {a b : OutboundQueue} (h : HasRoom a) (hs : Shrinks a b) : HasRoom b :=
  fun m hm => Nat.lt_of_le_of_lt hs.depth (h m (hs.config ▸ hm))

theorem hasRoom_of_belowCountLimit {q : OutboundQueue} (h : q.belowCountLimit = true) :
    HasRoom q := by
  intro m hm
  simpa [belowCountLimit, hm] using h

section Steps

variable {q : OutboundQueue} {kind : Kind} {payload : Bytes} {priority : Priority} {i : HeapInput}

theorem Moves.refl (q : OutboundQueue) : Moves q q :=
  ⟨id, id, rfl, .inr ⟨rfl, Nat.le_refl _⟩, .inr ⟨rfl, Int.le_refl _⟩⟩

theorem withEntry_depth (entry : Entry) : (q.withEntry entry).depth = q.depth + 1 := by
  rw [depth_eq, depth_eq]
  simp only [retained, withEntry, List.length_append, List.length_cons, List.length_nil]
  omega

theorem Moves.append (hroom : HasRoom q) : Moves q (q.append kind payload priority i).2 := by
  rcases append_cases q kind payload priority i with ha | ha
  · rw [ha]
    exact ⟨fun h => h.skip, id, rfl, .inr ⟨rfl, Nat.le_refl _⟩, .inr ⟨rfl, Int.le_refl _⟩⟩
  · rw [ha]
    refine ⟨fun h => h.withEntry, ?_, rfl, .inl ?_, .inl rfl⟩
    · intro _ m hm
      have hlt := hroom m hm
      rw [withEntry_depth]
      omega
    · rw [withEntry_depth]
      rfl

theorem without_depth {before after : List Entry} {victim : Entry}
    (hsplit : q.queue = before ++ victim :: after) :
    (q.without victim (before ++ after)).depth + 1 = q.depth := by
  rw [depth_eq, depth_eq]
  simp only [retained, without, hsplit, List.length_append, List.length_cons]
  omega

theorem Moves.without {before after : List Entry} {victim : Entry}
    (hsplit : q.queue = before ++ victim :: after) :
    Moves q (q.without victim (before ++ after)) := by
  have hdepth := without_depth hsplit
  refine ⟨fun h => h.without hsplit, fun h m hm => ?_, rfl, .inr ⟨rfl, by omega⟩, .inr ⟨rfl, ?_⟩⟩
  · have hle := h m hm
    omega
  · simp only [OutboundQueue.without, Entry.size]
    omega

/-- An eviction keeps the books, and a successful one makes room. -/
theorem evictOneEligible_moves (q : OutboundQueue) (priority : Priority) :
    Moves q (q.evictOneEligible priority).2 ∧
      (WithinCeiling q → (q.evictOneEligible priority).1.isOk → 
        HasRoom (q.evictOneEligible priority).2) := by
  rcases evictOneEligible_cases q priority with ⟨refusal, h⟩ | ⟨worst, before, victim, after, hv, h⟩
  · rw [h]
    exact ⟨.refl q, fun _ hok => by cases hok⟩
  · rw [h]
    have hdepth := without_depth hv.split
    refine ⟨.without hv.split, fun hw _ m hm => ?_⟩
    have hle := hw m hm
    change (q.without victim (before ++ after)).depth < m
    omega

theorem take_depth (q : OutboundQueue) : q.take.2.depth = q.depth := by
  unfold take
  cases hf : q.inFlight with
  | some e => rfl
  | none =>
    cases hq : q.queue with
    | nil => rfl
    | cons e rest => simp [depth, hf, hq]

theorem completeInFlight_depth (q : OutboundQueue) (entry : Option Nat) (discarded : Bool) :
    (q.completeInFlight entry discarded).2.depth ≤ q.depth := by
  unfold completeInFlight
  cases hf : q.inFlight with
  | none => cases entry <;> exact Nat.le_refl _
  | some e =>
    cases entry with
    | none => exact Nat.le_refl _
    | some ref =>
      dsimp only
      split
      · simp [depth, hf]
      · exact Nat.le_refl _

end Steps

/-- The steps of the consumer. -/
inductive ConsumerStep : OutboundQueue → OutboundQueue → Prop where
  | take (q : OutboundQueue) : ConsumerStep q q.take.2
  | complete (q : OutboundQueue) (entry : Option Nat) (discarded : Bool) :
    ConsumerStep q (q.completeInFlight entry discarded).2

theorem ConsumerStep.shrinks {q q' : OutboundQueue} (h : ConsumerStep q q') : Shrinks q q' := by
  cases h with
  | take =>
    refine ⟨Nat.le_of_eq (take_depth q), ?_⟩
    unfold OutboundQueue.take
    split
    · rfl
    · split <;> rfl
  | complete entry discarded =>
    refine ⟨completeInFlight_depth q entry discarded, ?_⟩
    unfold OutboundQueue.completeInFlight
    split
    · rfl
    · split <;> rfl
    · rfl

theorem ConsumerStep.moves {q q' : OutboundQueue} (h : ConsumerStep q q') : Moves q q' := by
  have hs := h.shrinks
  refine ⟨?_, fun hw => hw.shrinks hs, hs.config, .inr ⟨?_, hs.depth⟩, .inr ?_⟩ <;> cases h
  · exact Ledger.take
  · exact fun hl => hl.completeInFlight _ _
  · unfold OutboundQueue.take
    split
    · rfl
    · split <;> rfl
  · unfold OutboundQueue.completeInFlight
    split
    · rfl
    · split <;> rfl
    · rfl
  · unfold OutboundQueue.take
    split
    · exact ⟨rfl, Int.le_refl _⟩
    · split <;> exact ⟨rfl, Int.le_refl _⟩
  · unfold OutboundQueue.completeInFlight
    split
    · exact ⟨rfl, Int.le_refl _⟩
    · split
      · refine ⟨rfl, ?_⟩
        simp only [Entry.size]
        omega
      · exact ⟨rfl, Int.le_refl _⟩
    · exact ⟨rfl, Int.le_refl _⟩

theorem accountingRule (priority : Priority) :
    PutRule Shrinks Moves WithinCeiling HasRoom WithinCeiling priority where
  stable := fun hs h => h.shrinks hs
  roomStable := fun hs h => h.shrinks hs
  idle := fun _ => .refl _
  idleRoom := fun _ => .refl _
  evict := fun h => by
    obtain ⟨hmoves, hroom⟩ := evictOneEligible_moves _ priority
    exact ⟨hmoves, hmoves.ceiling h, hroom h⟩
  room := fun _ hbelow => hasRoom_of_belowCountLimit hbelow
  append := fun h kind payload i => by
    have hmoves := @Moves.append _ kind payload priority i h
    refine ⟨hmoves, ?_⟩
    split <;> exact hmoves.ceiling h.within
  rejected := fun h => ⟨⟨fun hl => hl.rejected, id, rfl, .inr ⟨rfl, Nat.le_refl _⟩,
    .inr ⟨rfl, Int.le_refl _⟩⟩, h⟩
  oversized := fun h => ⟨⟨fun hl => hl.oversized, id, rfl, .inr ⟨rfl, Nat.le_refl _⟩,
    .inr ⟨rfl, Int.le_refl _⟩⟩, h⟩

/-- Core 1 makes its calls one after the other and survives the exceptions of each. -/
def produce (rounds : Nat) : List ProducerCall → QueueProg Unit
  | [] => pure ()
  | call :: calls => do
    let _ ← (call.call rounds).handle (fun _ => pure false)
    produce rounds calls

theorem putting_produce {q : OutboundQueue} (rounds : Nat) (calls : List ProducerCall)
    (h : WithinCeiling q) :
    putting Shrinks Moves WithinCeiling (fun _ => WithinCeiling) (produce rounds calls) q := by
  induction calls generalizing q with
  | nil => exact h
  | cons call calls ih =>
    refine putting_seq ?_ (fun _ _ ht => ih ht)
    have hcall := putting_call rounds call (fun priority _ => accountingRule priority) h
    refine (Proc.wp_handle _ _ _).mpr
      (Proc.wp_mono hcall (fun _ _ hm => hm) ?_ (fun _ _ hw => hw))
    intro admitted t ht
    cases admitted <;> exact ht

/-- The books of a queue at the end of the states it has passed through. -/
structure Accounted (start : OutboundQueue) (trace : List OutboundQueue) (q : OutboundQueue) :
    Prop where
  bytes : q.queuedBytes = (q.queue.map Entry.size).sum + (q.inFlight.map Entry.size).getD 0
  ceiling : ∀ m, start.maxMessages = some m → q.depth ≤ m
  watermark : IsGreatest { n | ∃ s ∈ trace, n = s.depth } q.highWatermark
  watermarkBytes : IsGreatest { n | ∃ s ∈ trace, n = s.queuedBytes } q.highWatermarkBytes
  conservation : q.admitted.length = q.messagesEvicted + q.completed.length +
    q.oversizedDiscarded + q.queue.length + (if q.inFlight.isSome then 1 else 0)
  kept : ∀ r ∈ q.taken, r ∉ q.evicted
  order : q.completed.Sublist q.admitted
  once : q.completed.Nodup

theorem isGreatest_snoc {α β : Type} [LinearOrder β] {f : α → β} {trace : List α} {t : α} {m : β}
    (h : IsGreatest { n | ∃ s ∈ trace, n = f s } m) :
    IsGreatest { n | ∃ s ∈ trace ++ [t], n = f s } (max m (f t)) := by
  obtain ⟨⟨s, hs, heq⟩, hub⟩ := h
  constructor
  · rcases le_total m (f t) with hle | hle
    · exact ⟨t, by simp, max_eq_right hle⟩
    · exact ⟨s, by simp [hs], by rw [max_eq_left hle, heq]⟩
  · rintro n ⟨u, hu, rfl⟩
    rw [List.mem_append, List.mem_singleton] at hu
    rcases hu with hu | rfl
    · exact le_trans (hub ⟨u, hu, rfl⟩) (le_max_left _ _)
    · exact le_max_right _ _

theorem completed_sublist_released (q : OutboundQueue) : q.completed.Sublist q.released := by
  unfold completed released
  induction q.history with
  | nil => exact .slnil
  | cons event events ih =>
    cases event with
    | completed e => exact ih.cons_cons e.ref
    | discarded e => exact ih.cons e.ref
    | admitted e => exact ih
    | evicted e => exact ih
    | taken e => exact ih

structure Running (start : OutboundQueue) (trace : List OutboundQueue) (q : OutboundQueue) :
    Prop where
  ledger : Ledger q
  within : WithinCeiling q
  config : q.maxMessages = start.maxMessages
  watermark : IsGreatest { n | ∃ s ∈ trace, n = s.depth } q.highWatermark
  watermarkBytes : IsGreatest { n | ∃ s ∈ trace, n = s.queuedBytes } q.highWatermarkBytes
  last : q ∈ trace

theorem Running.moves {start q q' : OutboundQueue} {trace : List OutboundQueue}
    (h : Running start trace q) (hm : Moves q q') : Running start (trace ++ [q']) q' := by
  refine ⟨hm.ledger h.ledger, hm.ceiling h.within, hm.config.trans h.config, ?_, ?_, by simp⟩
  · have hg := isGreatest_snoc (t := q') h.watermark
    rcases hm.watermark with heq | ⟨heq, hle⟩
    · rwa [heq]
    · have hq : q.depth ≤ q.highWatermark := h.watermark.2 ⟨q, h.last, rfl⟩
      rwa [max_eq_left (le_trans hle hq), ← heq] at hg
  · have hg := isGreatest_snoc (t := q') h.watermarkBytes
    rcases hm.watermarkBytes with heq | ⟨heq, hle⟩
    · rwa [heq]
    · have hq : q.queuedBytes ≤ q.highWatermarkBytes := h.watermarkBytes.2 ⟨q, h.last, rfl⟩
      rwa [max_eq_left (le_trans hle hq), ← heq] at hg

theorem Running.accounted {start q : OutboundQueue} {trace : List OutboundQueue}
    (h : Running start trace q) : Accounted start trace q := by
  have hl := h.ledger
  have hadmitted : (q.released ++ q.retained.map Entry.ref).Nodup ∧
      ∀ r ∈ q.released ++ q.retained.map Entry.ref, r ∉ q.evicted := by
    have hn := hl.whole.nodup_iff.mpr hl.distinct
    obtain ⟨hleft, -, hdisjoint⟩ := List.nodup_append.mp hn
    exact ⟨hleft, fun r hr hr' => hdisjoint r hr r hr' rfl⟩
  refine ⟨?_, fun m hm => h.within m (h.config.trans hm), h.watermark, h.watermarkBytes, ?_, ?_,
    ?_, ?_⟩
  · rw [hl.bytes]
    cases hf : q.inFlight with
    | none => simp [retainedBytes, retained, hf]
    | some e => simp [retainedBytes, retained, hf, Int.add_comm]
  · have hlen := hl.whole.length_eq
    have hdepth : q.retained.length = q.queue.length + (if q.inFlight.isSome then 1 else 0) :=
      (depth_eq q).symm
    simp only [List.length_append, List.length_map, hdepth] at hlen
    have hr := hl.releases
    have he := hl.evictions
    have hd := hl.discards
    omega
  · intro r hr
    rw [hl.takenFirst] at hr
    refine hadmitted.2 r ?_
    simp only [retained, List.map_append, ← List.append_assoc]
    exact List.mem_append_left _ hr
  · exact (completed_sublist_released q).trans
      ((List.sublist_append_left _ _).trans hl.ordered)
  · exact (completed_sublist_released q).nodup
      (List.nodup_append.mp hadmitted.1).1

theorem new_running {minimum : Int} {preferred maxMessages : Option Int} {q : OutboundQueue}
    (h : new minimum preferred maxMessages = .ok q) : Running q [q] q := by
  obtain ⟨low, high, ceiling, rfl⟩ : ∃ low high ceiling, q =
      { minimumFreeHeapBytes := low, preferredFreeHeapBytes := high, maxMessages := ceiling } := by
    unfold new at h
    cases hlow : requirePositive minimum "minimum_free_heap_bytes" with
    | error e => simp [hlow, bind, Except.bind] at h
    | ok low =>
      cases hhigh : requirePositive (preferred.getD minimum) "preferred_free_heap_bytes" with
      | error e => simp [hlow, hhigh, bind, Except.bind] at h
      | ok high =>
        cases hceiling : maxMessages.mapM (fun m => requirePositive m "max_messages") with
        | error e =>
          simp only [hlow, hhigh, hceiling, bind, Except.bind] at h
          split at h <;> cases h
        | ok ceiling =>
          simp only [hlow, hhigh, hceiling, bind, Except.bind, pure, Except.pure] at h
          split at h
          · cases h
          · exact ⟨low, high, ceiling, (Except.ok.inj h).symm⟩
  constructor
  · constructor <;> simp [admitted, released, retained, evicted, taken, completed, discarded,
      retainedBytes]
  · intro m _
    exact Nat.zero_le m
  · rfl
  · simp [depth, IsGreatest, upperBounds]
  · simp [IsGreatest, upperBounds]
  · simp

theorem running_of_run {minimum : Int} {preferred maxMessages : Option Int}
    {start q : OutboundQueue} {rounds : Nat} {calls : List ProducerCall}
    {trace : List OutboundQueue} {rest : QueueProg Unit}
    (hnew : new minimum preferred maxMessages = .ok start)
    (hrun : Proc.Run (fun _ => True) ConsumerStep (produce rounds calls) start trace rest q) :
    Running start trace q := by
  have hstart := new_running hnew
  have hw := putting_produce rounds calls hstart.within
  exact (Proc.wp_run Shrinks.refl Shrinks.trans (I := Running start)
    (fun _ _ _ h hm => h.moves hm)
    (fun _ _ _ h hc => ⟨hc.shrinks, h.moves hc.moves⟩) hstart hw hrun).1

/-- Whatever the two cores interleave, the queue's books stay right at every moment. -/
theorem queue_accounted {minimum : Int} {preferred maxMessages : Option Int}
    {start q : OutboundQueue} {rounds : Nat} {calls : List ProducerCall}
    {trace : List OutboundQueue} {rest : QueueProg Unit}
    (hnew : new minimum preferred maxMessages = .ok start)
    (hrun : Proc.Run (fun _ => True) ConsumerStep (produce rounds calls) start trace rest q) :
    Accounted start trace q :=
  (running_of_run hnew hrun).accounted

/-- A put of two bytes, whose entry Core 0 takes before the put has returned. -/
theorem queue_accounted_taken : ∃ start trace rest q, new 100 none (some 2) = .ok start ∧
    Proc.Run (fun _ => True) ConsumerStep
      (produce 1 [.putWithKind (.str "log") (.bytes [123, 125]) (.int 50)]) start trace rest q ∧
    q.inFlight.isSome ∧ Accounted start trace q := by
  have hrun := Proc.Run.start (A := fun _ => True) (E := ConsumerStep)
    (p := produce 1 [.putWithKind (.str "log") (.bytes [123, 125]) (.int 50)])
    (s := { minimumFreeHeapBytes := 100, preferredFreeHeapBytes := 100, maxMessages := some 2 })
  have hpreferred := Proc.Run.own (i := ⟨200, false⟩) hrun trivial
  have hagain := Proc.Run.own (i := ⟨200, false⟩) hpreferred trivial
  have happend := Proc.Run.own (i := ⟨200, false⟩) hagain trivial
  have htake := Proc.Run.other happend (.take _)
  have hnew : new 100 none (some 2) =
      .ok { minimumFreeHeapBytes := 100, preferredFreeHeapBytes := 100, maxMessages := some 2 } :=
    rfl
  exact ⟨_, _, _, _, hnew, htake, rfl, queue_accounted hnew htake⟩

end OutboundQueue
end PicoDualCore
