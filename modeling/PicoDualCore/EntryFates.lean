import PicoDualCore.OutboundDelivery
set_option autoImplicit false

namespace PicoDualCore
open AtomicProgram MqttClient

def Entry.asAdmitted (e : Entry) : Entry := { e with wireSequence := none }

/-- What has happened was done to an admitted entry and was allowed. -/
def Justified (boot : Boot) (history : List QueueEvent) : QueueEvent → Prop
  | .admitted e => e.wireSequence = none
  | .taken e | .completed e => .admitted e.asAdmitted ∈ history
  | .evicted e => .admitted e.asAdmitted ∈ history ∧
      e.retentionPriority.value ≠ RETENTION_PRIORITY_CRITICAL
  | .discarded e => .admitted e.asAdmitted ∈ history ∧ TooLarge boot e

structure Traced (boot : Boot) (q : OutboundQueue) : Prop where
  retained : ∀ e ∈ q.retained, .admitted e.asAdmitted ∈ q.history
  justified : ∀ event ∈ q.history, Justified boot q.history event

/-- Where an admitted entry is to be found. -/
inductive Fate (boot : Boot) (t : Sys Board) (e : Entry) : Prop where
  | retained (e' : Entry) (same : e'.asAdmitted = e) (h : e' ∈ t.app.outbound.retained)
  | completed (e' : Entry) (same : e'.asAdmitted = e)
    (h : .completed e' ∈ t.app.outbound.history) (acked : EntryAcked boot e' t.net.events)
  | discarded (e' : Entry) (same : e'.asAdmitted = e)
    (h : .discarded e' ∈ t.app.outbound.history) (large : TooLarge boot e')
  | evicted (e' : Entry) (same : e'.asAdmitted = e) (h : .evicted e' ∈ t.app.outbound.history)
    (uncritical : e.retentionPriority.value ≠ RETENTION_PRIORITY_CRITICAL)

section Steps

variable {boot : Boot} {q q' : OutboundQueue}

theorem Justified.more {history history' : List QueueEvent} {event : QueueEvent}
    (h : Justified boot history event) (hmore : history ⊆ history') :
    Justified boot history' event := by
  cases event with
  | admitted e => exact h
  | taken e => exact hmore h
  | completed e => exact hmore h
  | evicted e => exact ⟨hmore h.1, h.2⟩
  | discarded e => exact ⟨hmore h.1, h.2⟩

theorem Traced.grow (h : Traced boot q) (new : List QueueEvent)
    (hhistory : q'.history = q.history ++ new) (hretained : ∀ e ∈ q'.retained,
      .admitted e.asAdmitted ∈ q.history ∨ .admitted e.asAdmitted ∈ new)
    (hnew : ∀ event ∈ new, Justified boot q.history event) : Traced boot q' := by
  have hmore : q.history ⊆ q'.history := by
    rw [hhistory]
    exact List.subset_append_left _ _
  refine ⟨fun e he => ?_, fun event hevent => ?_⟩
  · rw [hhistory, List.mem_append]
    exact hretained e he
  · rw [hhistory, List.mem_append] at hevent
    rcases hevent with hevent | hevent
    · exact (h.justified event hevent).more hmore
    · exact (hnew event hevent).more hmore

theorem Traced.same (h : Traced boot q) (hhistory : q'.history = q.history)
    (hretained : ∀ e ∈ q'.retained, ∃ e' ∈ q.retained, e'.asAdmitted = e.asAdmitted) :
    Traced boot q' := by
  refine h.grow [] (by rw [hhistory, List.append_nil]) (fun e he => ?_) (by simp)
  obtain ⟨e', he', hsame⟩ := hretained e he
  exact .inl (hsame ▸ h.retained e' he')

theorem ProducerStep.traced (hstep : ProducerStep q q') (h : Traced boot q) : Traced boot q' := by
  cases hstep with
  | idle => exact h
  | append kind payload priority i =>
    rcases OutboundQueue.append_cases q kind payload priority i with ha | ha <;> rw [ha]
    · exact h.same rfl (fun e he => ⟨e, he, rfl⟩)
    · refine h.grow _ rfl (fun e he => ?_) (by simp [Justified])
      simp only [OutboundQueue.retained, OutboundQueue.withEntry, ← List.append_assoc] at he
      rcases List.mem_append.mp he with he | he
      · exact .inl (h.retained e he)
      · obtain rfl := List.mem_singleton.mp he
        exact .inr (List.mem_singleton.mpr rfl)
  | evict priority =>
    rcases OutboundQueue.evictOneEligible_cases q priority with
      ⟨_, he⟩ | ⟨_, before, victim, after, hvictim, he⟩ <;> rw [he]
    · exact h
    · have hsplit : q.retained = q.inFlight.toList ++ (before ++ victim :: after) := by
        rw [OutboundQueue.retained, hvictim.split]
      refine h.grow _ rfl (fun e hmem => .inl (h.retained e ?_)) (fun event hevent => ?_)
      · rw [hsplit]
        simp only [OutboundQueue.retained, OutboundQueue.without, List.mem_append] at hmem
        simp only [List.mem_append, List.mem_cons]
        tauto
      · obtain rfl := List.mem_singleton.mp hevent
        exact ⟨h.retained victim (by simp [hsplit]), hvictim.notCritical⟩
  | rejected => exact h.same rfl (fun e he => ⟨e, he, rfl⟩)
  | oversized => exact h.same rfl (fun e he => ⟨e, he, rfl⟩)

theorem Traced.complete {e : Entry} (h : Traced boot q) (he : q.inFlight = some e)
    (discarded : Bool) (hallowed : discarded = true → TooLarge boot e) :
    Traced boot (q.completeInFlight (some e.ref) discarded).2 := by
  obtain ⟨hflight, hqueue, hhistory⟩ := OutboundQueue.completeInFlight_done he discarded
  have hmem : ∀ e' ∈ q.queue, e' ∈ q.retained := fun e' he' => List.mem_append_right _ he'
  have hadmitted : .admitted e.asAdmitted ∈ q.history :=
    h.retained e (by simp [OutboundQueue.retained, he])
  refine h.grow _ hhistory (fun e' he' => .inl (h.retained e' (hmem e' ?_)))
    (fun event hevent => ?_)
  · simpa [OutboundQueue.retained, hflight, hqueue] using he'
  · obtain rfl := List.mem_singleton.mp hevent
    cases discarded with
    | false => exact hadmitted
    | true => exact ⟨hadmitted, hallowed rfl⟩

theorem QueueStep.traced {events : List SocketEvent} (hstep : QueueStep boot events q q')
    (h : Traced boot q) : Traced boot q' := by
  cases hstep with
  | same => exact h
  | stamped e n he =>
    refine h.same rfl (fun e' he' => ?_)
    rw [OutboundQueue.retained, OutboundQueue.stamp_inFlight he] at he'
    rcases List.mem_append.mp he' with he' | he'
    · obtain rfl := List.mem_singleton.mp he'
      exact ⟨e, by simp [OutboundQueue.retained, he], rfl⟩
    · exact ⟨e', List.mem_append_right _ he', rfl⟩
  | taken hfree =>
    rcases q.take_cases with hsame | ⟨e, rest, -, hqueue, hnew⟩
    · rw [hsame]
      exact h
    · have hretained : q.retained = e :: rest := by
        simp [OutboundQueue.retained, hfree, hqueue]
      rw [hnew]
      refine h.grow _ rfl (fun e' he' => .inl (h.retained e' (hretained ▸ he')))
        (fun event hevent => ?_)
      obtain rfl := List.mem_singleton.mp hevent
      exact h.retained e (hretained ▸ List.mem_cons_self)
  | completed e he => exact h.complete he false (by simp)
  | discarded e he hlarge => exact h.complete he true (fun _ => hlarge)

end Steps

section Runs

variable {boot : Boot} {rounds : Nat} {s t : Sys Board} {q : CoreProg Unit}

theorem Others.traced {b b' : Board} (h : Others b b') (hb : Traced boot b.outbound) :
    Traced boot b'.outbound := by
  have hsteps : ∀ q, Relation.ReflTransGen ProducerStep b.outbound q → Traced boot q := by
    intro q hq
    induction hq with
    | refl => exact hb
    | tail _ hstep ih => exact hstep.traced ih
  exact hsteps _ h.outbound

theorem Started.traced (hs : Started boot s) : Traced boot s.app.outbound := by
  obtain ⟨bootMs, nowMs, minimum, preferred, maxMessages, disk, happ⟩ := hs.board
  rw [happ]
  refine ⟨fun e he => ?_, fun event hevent => ?_⟩
  · cases he
  · cases hevent

theorem CoreRun.traced (hs : Started boot s) (h : CoreRun boot rounds s q t) :
    Traced boot t.app.outbound :=
  (h.holds (I := fun u => Traced boot u.app.outbound) hs hs.traced
    (fun _ _ ha hI hab => (ha.queueStep hab).traced hI)
    (fun _ _ hI hab => hab.board.traced hI)).2

def QueueEvent.admittedEntry : QueueEvent → Option Entry
  | .admitted e => some e
  | _ => none

/-- An identity is admitted once. -/
theorem OutboundQueue.Ledger.admitted_eq {queue : OutboundQueue} {e e' : Entry}
    (h : queue.Ledger) (he : .admitted e ∈ queue.history) (he' : .admitted e' ∈ queue.history)
    (href : e.ref = e'.ref) : e = e' := by
  have hadmitted : (queue.history.filterMap QueueEvent.admittedEntry).map Entry.ref =
      queue.admitted := by
    rw [List.map_filterMap]
    refine List.filterMap_congr (fun event _ => ?_)
    cases event <;> rfl
  refine List.inj_on_of_nodup_map (hadmitted ▸ h.distinct) ?_ ?_ href
  · exact List.mem_filterMap.mpr ⟨_, he, rfl⟩
  · exact List.mem_filterMap.mpr ⟨_, he', rfl⟩

/-- In every run of Core 0, each admitted entry has exactly one fate: it is retained, or completed
after its frame was acknowledged, or discarded because its envelope made it too large, or evicted,
and then it was not critical. -/
theorem entry_fates (hs : Started boot s) (h : CoreRun boot rounds s q t) :
    (∀ event ∈ t.app.outbound.history, Justified boot t.app.outbound.history event) ∧
    ∀ e, .admitted e ∈ t.app.outbound.history → Fate boot t e ∧
      (t.app.outbound.released ++ t.app.outbound.retained.map Entry.ref ++
        t.app.outbound.evicted).count e.ref = 1 := by
  have htraced := h.traced hs
  have hledger := (h.inOrder hs).orderly.ledger
  refine ⟨htraced.justified, fun e he => ?_⟩
  have hmem : e.ref ∈ t.app.outbound.admitted := List.mem_filterMap.mpr ⟨_, he, rfl⟩
  refine ⟨?_, (hledger.whole.count_eq _).trans (List.count_eq_one_of_mem hledger.distinct hmem)⟩
  have hwhole := hledger.whole.mem_iff.mpr hmem
  simp only [List.mem_append] at hwhole
  rcases hwhole with (hreleased | hretained) | hevicted
  · obtain ⟨event, hevent, hsome⟩ := List.mem_filterMap.mp hreleased
    have hjustified := htraced.justified event hevent
    cases event with
    | completed e' =>
      have hsame := hledger.admitted_eq hjustified he (Option.some.inj hsome)
      exact .completed e' hsame hevent (h.completed hs e' hevent)
    | discarded e' =>
      have hsame := hledger.admitted_eq hjustified.1 he (Option.some.inj hsome)
      exact .discarded e' hsame hevent hjustified.2
    | _ => cases hsome
  · obtain ⟨e', he', href⟩ := List.mem_map.mp hretained
    exact .retained e' (hledger.admitted_eq (htraced.retained e' he') he href) he'
  · obtain ⟨event, hevent, hsome⟩ := List.mem_filterMap.mp hevicted
    have hjustified := htraced.justified event hevent
    cases event with
    | evicted e' =>
      have hsame := hledger.admitted_eq hjustified.1 he (Option.some.inj hsome)
      exact .evicted e' hsame hevent (hsame ▸ hjustified.2)
    | _ => cases hsome

end Runs

theorem entry_fates_session : ∃ e, .admitted e ∈ shippedSession.2.app.outbound.history ∧
    e.ref = 0 ∧ Fate shippedBoot shippedSession.2 e := by
  have hfates := entry_fates recovered_started shippedSession_run
  have hcompleted : 0 ∈ shippedSession.2.app.outbound.completed := by
    simp [shippedSession_record.2.2.2.2.1]
  obtain ⟨event, hevent, hsome⟩ := List.mem_filterMap.mp hcompleted
  cases event with
  | completed e =>
    have hadmitted := hfates.1 _ hevent
    exact ⟨e.asAdmitted, hadmitted, Option.some.inj hsome, (hfates.2 _ hadmitted).1⟩
  | _ => cases hsome

end PicoDualCore
