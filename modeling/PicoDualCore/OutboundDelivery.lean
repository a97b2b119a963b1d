import PicoDualCore.SequenceNumbers
set_option autoImplicit false

namespace PicoDualCore
open AtomicProgram MqttClient

def Boot.entryFrame (boot : Boot) (e : Entry) (n pid : Nat) : Bytes :=
  frame (topicForKind boot.config e.kind).toList (.bytes e.payloadBytes) pid
    (some (boot.fragment n))

/-- The whole frame of the entry went out on one connection, and its PUBACK came back there. -/
def EntryAcked (boot : Boot) (e : Entry) (events : List SocketEvent) : Prop :=
  ∃ n, e.wireSequence = some n ∧ AckedBy (.entry e.ref) (boot.entryFrame e n) events

/-- What a step of Core 0 does to the outbound queue. -/
inductive QueueStep (boot : Boot) (events : List SocketEvent) (q : OutboundQueue) :
    OutboundQueue → Prop where
  | same : QueueStep boot events q q
  | stamped (e : Entry) (n : Nat) (h : q.inFlight = some e) (hnone : e.wireSequence = none) :
      QueueStep boot events q (q.stamp e.ref n)
  | taken (h : q.inFlight = none) : QueueStep boot events q q.take.2
  | completed (e : Entry) (h : q.inFlight = some e) (hacked : EntryAcked boot e events) :
      QueueStep boot events q (q.completeInFlight (some e.ref) false).2
  | discarded (e : Entry) (h : q.inFlight = some e) (hlarge : TooLarge boot e) :
      QueueStep boot events q (q.completeInFlight (some e.ref) true).2

/-- A publish of the entry in flight has been attempted, or it has been completed. -/
def Outstanding (b : Board) (ref : Nat) : Prop :=
  (∃ e, b.outbound.inFlight = some e ∧ e.ref = ref) ∨ ref ∈ b.outbound.completed

section Delivery

variable {boot : Boot} {rounds : Nat} {s t : Sys Board} {q : CoreProg Unit} {e : Entry}

/-- The entry in flight is what has been attempted under its name. -/
theorem InOrder.attempted (hs : InOrder boot s) (he : s.app.outbound.inFlight = some e)
    {a : Attempt} {n : Nat} (ha : a ∈ attempts s.app.command.history)
    (htag : a.tag = some (.entry e.ref, n)) :
    e.wireSequence = some n ∧ a.wire = boot.entryFrame e n ∧
      wireLength e.payloadBytes (boot.fragment n) ≤ MAX_OUTBOUND_MESSAGE_BYTES := by
  obtain ⟨body, hmessage, hfragment, hfits, hsent⟩ := hs.sent ha htag
  have hheld : (s.app.sender boot).held (.entry e.ref) e.wireSequence
      (some (topicForKind boot.config e.kind, e.payloadBytes)) := ⟨e, he, rfl, rfl, rfl⟩
  obtain ⟨hsequence, hcontent⟩ := hs.numbered.unchanged _ _ _ _ _ hsent hheld
  obtain ⟨htopic, rfl⟩ := Prod.mk.inj (Option.some.inj hcontent)
  refine ⟨hsequence, ?_, hfits⟩
  funext pid
  rw [Attempt.wire, Boot.entryFrame, hmessage, hfragment, htopic]

theorem InOrder.acked (hs : InOrder boot s) (he : s.app.outbound.inFlight = some e)
    (howed : owed s.app.command.history = some (.entry e.ref)) :
    EntryAcked boot e s.net.events := by
  obtain ⟨a, ha, n, htag, hacked⟩ := hs.settling _ howed
  obtain ⟨hsequence, hwire, -⟩ := hs.attempted he ha htag
  exact ⟨n, hsequence, hwire ▸ hacked⟩

theorem InOrder.queueStep (hs : InOrder boot s) (h : CoreStep boot s t) :
    QueueStep boot s.net.events s.app.outbound t.app.outbound := by
  cases h with
  | board h =>
    cases h with
    | aside h =>
      rw [h.outbound]
      exact .same
    | command h hmoved =>
      rw [hmoved.outbound]
      exact .same
    | entrySequence e he hnone => exact .stamped e _ he hnone
    | taken =>
      rcases s.app.outbound.take_cases with hsame | ⟨e, rest, hflight, -⟩
      · rw [hsame]
        exact .same
      · exact .taken hflight
    | released e discarded he hdone hlarge =>
      cases discarded with
      | false => exact .completed e he (hs.acked he (hdone rfl))
      | true => exact .discarded e he (hlarge rfl).2
  | _ => exact .same

theorem EntryAcked.more {events events' : List SocketEvent} (h : EntryAcked boot e events)
    (hmore : events <+: events') : EntryAcked boot e events' := by
  obtain ⟨n, hsequence, hacked⟩ := h
  exact ⟨n, hsequence, hacked.more hmore⟩

theorem QueueStep.history {events : List SocketEvent} {q q' : OutboundQueue}
    (h : QueueStep boot events q q') (he : .completed e ∈ q'.history) :
    .completed e ∈ q.history ∨ EntryAcked boot e events := by
  cases h with
  | same => exact .inl he
  | stamped => exact .inl he
  | taken h =>
    rcases q.take_cases with hsame | ⟨e', rest, -, -, hnew⟩
    · exact .inl (hsame ▸ he)
    · rw [hnew] at he
      exact .inl (by simpa using he)
  | completed e' h hacked =>
    rw [(OutboundQueue.completeInFlight_done h false).2.2] at he
    rcases List.mem_append.mp he with he | he
    · exact .inl he
    · cases List.mem_singleton.mp he
      exact .inr hacked
  | discarded e' h =>
    rw [(OutboundQueue.completeInFlight_done h true).2.2] at he
    exact .inl (by simpa using he)

theorem CoreRun.completed (hs : Started boot s) (h : CoreRun boot rounds s q t) :
    ∀ e, .completed e ∈ t.app.outbound.history → EntryAcked boot e t.net.events := by
  refine (h.holds (I := fun u => ∀ e, .completed e ∈ u.app.outbound.history →
    EntryAcked boot e u.net.events) hs ?_ ?_ ?_).2
  · intro e he
    rw [hs.blank.2.2.2.2.1] at he
    cases he
  · intro a b ha hI hab e he
    rcases (ha.queueStep hab).history he with he | hacked
    · exact (hI e he).more hab.events
    · exact hacked.more hab.events
  · intro a b hI hab e he
    obtain ⟨new, hnew, hproduced⟩ := hab.board.history
    rw [hnew] at he
    rw [hab.peer.events]
    rcases List.mem_append.mp he with he | he
    · exact hI e he
    · cases hproduced _ he

theorem QueueStep.outstanding {events : List SocketEvent} {q q' : OutboundQueue} {ref : Nat}
    (h : QueueStep boot events q q')
    (hfits : ∀ e, q.inFlight = some e → e.ref = ref → ¬ TooLarge boot e)
    (hq : (∃ e, q.inFlight = some e ∧ e.ref = ref) ∨ ref ∈ q.completed) :
    (∃ e, q'.inFlight = some e ∧ e.ref = ref) ∨ ref ∈ q'.completed := by
  cases h with
  | same => exact hq
  | stamped e n he =>
    refine hq.imp (fun hflight => ?_) id
    obtain ⟨e', he', href⟩ := hflight
    obtain rfl : e = e' := Option.some.inj (he.symm.trans he')
    exact ⟨_, OutboundQueue.stamp_inFlight he, href⟩
  | taken hfree =>
    rcases hq with ⟨e, he, -⟩ | hdone
    · rw [hfree] at he
      cases he
    · rcases q.take_cases with hsame | ⟨e, rest, -, -, hnew⟩
      · rw [hsame]
        exact .inr hdone
      · refine .inr ?_
        rw [hnew, OutboundQueue.completed, List.filterMap_append]
        exact List.mem_append_left _ hdone
  | completed e he =>
    refine .inr ?_
    rw [OutboundQueue.completed, (OutboundQueue.completeInFlight_done he false).2.2,
      List.filterMap_append, List.mem_append]
    refine hq.symm.imp id (fun hflight => ?_)
    obtain ⟨e', he', rfl⟩ := hflight
    obtain rfl : e = e' := Option.some.inj (he.symm.trans he')
    simp [OutboundQueue.QueueEvent.completed?]
  | discarded e he hlarge =>
    rcases hq with ⟨e', he', href⟩ | hdone
    · obtain rfl : e = e' := Option.some.inj (he.symm.trans he')
      exact (hfits e he href hlarge).elim
    · refine .inr ?_
      rw [OutboundQueue.completed, (OutboundQueue.completeInFlight_done he true).2.2,
        List.filterMap_append]
      exact List.mem_append_left _ hdone

theorem attempted_snoc {history : List CoreEvent} {a : Attempt} {o : Owner} {n : Nat}
    (h : Attempted (history ++ [.attempt a]) o n) :
    Attempted history o n ∨ a.tag = some (o, n) := by
  obtain ⟨a', ha', htag⟩ := h
  rw [attempts_append] at ha'
  rcases List.mem_append.mp ha' with ha' | ha'
  · exact .inl ⟨a', ha', htag⟩
  · obtain rfl : a' = a := List.mem_singleton.mp ha'
    exact .inr htag

theorem CoreStep.attempted (h : CoreStep boot s t) (hs : Orderly s.app) {o : Owner} {n : Nat}
    (ho : Attempted t.app.command.history o n) :
    Attempted s.app.command.history o n ∨ ∃ a, a.tag = some (o, n) ∧ Sends boot s.app a := by
  rcases h.attempts hs with hsame | ⟨a, hnew, hsends, -⟩
  · obtain ⟨a, ha, htag⟩ := ho
    exact .inl ⟨a, hsame ▸ ha, htag⟩
  · rw [hnew] at ho
    exact (attempted_snoc ho).imp id (fun htag => ⟨a, htag, hsends⟩)

/-- Whatever has been attempted is in flight until it is completed; it is never discarded. -/
theorem CoreRun.outstanding (hs : Started boot s) (h : CoreRun boot rounds s q t) :
    ∀ ref n, Attempted t.app.command.history (.entry ref) n → Outstanding t.app ref := by
  refine (h.holds (I := fun u => ∀ ref n, Attempted u.app.command.history (.entry ref) n →
    Outstanding u.app ref) hs ?_ ?_ ?_).2
  · rintro ref n ⟨a, ha, -⟩
    rw [hs.blank.1] at ha
    cases ha
  · intro a b ha hI hab ref n hattempted
    have hqueue := ha.queueStep hab
    refine (hab.attempted ha.orderly hattempted).elim (fun hold => ?_) (fun hnew => ?_)
    · refine hqueue.outstanding (fun e he href hlarge => ?_) (hI ref n hold)
      obtain ⟨attempt, hattempt, htag⟩ := hold
      obtain ⟨hsequence, -, hfits⟩ := ha.attempted he hattempt (href ▸ htag)
      obtain ⟨m, hm, hlarge⟩ := hlarge
      rw [hsequence] at hm
      cases hm
      omega
    · obtain ⟨attempt, htag, hsends⟩ := hnew
      rw [Sends, htag] at hsends
      obtain ⟨e, he, rfl, hsequence, hspliced⟩ := hsends
      refine hqueue.outstanding (fun e' he' _ hlarge => ?_) (.inl ⟨e, he, rfl⟩)
      obtain rfl : e = e' := Option.some.inj (he.symm.trans he')
      obtain ⟨m, hm, hlarge⟩ := hlarge
      rw [hsequence] at hm
      cases hm
      have := hspliced.fits
      omega
  · intro a b hI hab ref n hattempted
    rw [hab.board.command] at hattempted
    have hcompleted : b.app.outbound.completed = a.app.outbound.completed :=
      hab.board.consumed (fun e he => by cases e <;> first | rfl | cases he)
    rw [Outstanding, hab.board.inFlight, hcompleted]
    exact hI ref n hattempted

/-- The entry is in flight, and every one admitted before it has been released or evicted. -/
structure Foremost (q : OutboundQueue) (ref : Nat) : Prop where
  inFlight : ∃ e, q.inFlight = some e ∧ e.ref = ref
  earlier : ∀ before after, q.admitted = before ++ ref :: after → ∀ r ∈ before,
    r ∈ q.released ∨ r ∈ q.evicted

theorem sublist_asymm {α : Type} {a b : α} {l : List α} (hl : l.Nodup) (h : [a, b].Sublist l)
    (h' : [b, a].Sublist l) : False := by
  induction l with
  | nil => cases h
  | cons x xs ih =>
    rw [List.nodup_cons] at hl
    cases h with
    | cons _ h =>
      cases h' with
      | cons _ h' => exact ih hl.2 h h'
      | cons_cons _ _ => exact hl.1 (h.subset (by simp))
    | cons_cons _ h =>
      have hb : b ∈ xs := h.subset (by simp)
      cases h' with
      | cons _ h' => exact hl.1 (h'.subset (by simp))
      | cons_cons _ _ => exact hl.1 hb

theorem OutboundQueue.Ledger.foremost {q : OutboundQueue} (h : q.Ledger)
    (he : q.inFlight = some e) : Foremost q e.ref := by
  refine ⟨⟨e, he, rfl⟩, fun before after hadmitted r hr => ?_⟩
  have hmem : r ∈ q.admitted := by
    rw [hadmitted]
    exact List.mem_append_left _ hr
  have hbefore : [r, e.ref].Sublist q.admitted := by
    rw [hadmitted]
    exact (List.singleton_sublist.mpr hr).append (List.singleton_sublist.mpr List.mem_cons_self)
  have hretained : q.retained.map Entry.ref = e.ref :: q.queue.map Entry.ref := by
    simp [OutboundQueue.retained, he]
  have hwhole := h.whole.mem_iff.mpr hmem
  have hordered := h.ordered
  rw [hretained] at hwhole hordered
  simp only [List.mem_append, List.mem_cons] at hwhole
  rcases hwhole with (hreleased | rfl | hqueued) | hevicted
  · exact .inl hreleased
  · exact (sublist_asymm h.distinct hbefore hbefore).elim
  · refine (sublist_asymm h.distinct hbefore (List.Sublist.trans ?_ hordered)).elim
    have hpair : [e.ref, r].Sublist (e.ref :: q.queue.map Entry.ref) :=
      (List.singleton_sublist.mpr hqueued).cons_cons _
    exact hpair.trans (List.sublist_append_right _ _)
  · exact .inr hevicted

/-- Bytes of an entry go out only when it is the foremost one. -/
theorem InOrder.written (hs : InOrder boot s) (h : CoreStep boot s t) {ref : Nat}
    (hwrites : writtenFor (.entry ref) t.net.events ≠ writtenFor (.entry ref) s.net.events) :
    Foremost s.app.outbound ref := by
  obtain ⟨a, n, htag, hsends⟩ := h.written hwrites
  rw [Sends, htag] at hsends
  obtain ⟨e, he, rfl, -⟩ := hsends
  exact hs.orderly.ledger.foremost he

/-- At least once and in order: in every run of Core 0, an entry is completed only when its whole
frame has been acknowledged, and one that has been attempted stays in flight until then. A step of
Core 0 takes the head, stamps the entry in flight, completes it when it is acknowledged or discards
it when its frame is over the limit, and bytes of an entry go out only when all earlier ones have
left. -/
theorem outbound_delivery (hs : Started boot s) (h : CoreRun boot rounds s q t) :
    (∀ e, .completed e ∈ t.app.outbound.history → EntryAcked boot e t.net.events) ∧
    (∀ ref n, Attempted t.app.command.history (.entry ref) n → Outstanding t.app ref) ∧
    ∀ act next, q = .step act next → ∀ i,
      QueueStep boot t.net.events t.app.outbound (act t i).app.outbound ∧
      ∀ ref, writtenFor (.entry ref) (act t i).net.events ≠ writtenFor (.entry ref) t.net.events →
        Foremost t.app.outbound ref := by
  refine ⟨h.completed hs, h.outstanding hs, fun act next hq i => ?_⟩
  subst hq
  have horder := h.inOrder hs
  have hstep := h.coreStep hs i
  exact ⟨horder.queueStep hstep, fun ref hwrites => horder.written hstep hwrites⟩

end Delivery

theorem outbound_delivery_shipped : ∃ e, .completed e ∈ shippedSession.2.app.outbound.history ∧
    e.ref = 0 ∧ EntryAcked shippedBoot e shippedSession.2.net.events := by
  have hdelivery := outbound_delivery recovered_started shippedSession_run
  have hcompleted : 0 ∈ shippedSession.2.app.outbound.completed := by
    simp [shippedSession_record.2.2.2.2.1]
  obtain ⟨event, hevent, hsome⟩ := List.mem_filterMap.mp hcompleted
  cases event with
  | completed e =>
    simp only [OutboundQueue.QueueEvent.completed?, Option.some.injEq] at hsome
    exact ⟨e, hevent, hsome, hdelivery.1 e hevent⟩
  | _ => cases hsome

end PicoDualCore
