import PicoDualCore.Core0Walk
set_option autoImplicit false

namespace PicoDualCore
open AtomicProgram MqttClient

namespace CommandState

structure Numbered (k : CommandState) : Prop where
  nodup : (k.pendingResponses.map PendingResponse.uid).Nodup
  given : ∀ p ∈ k.pendingResponses, p.uid < k.nextUid
  rebootGiven : ∀ r, k.pendingReboot = some r → r.uid < k.nextUid
  rebootApart : ∀ r, k.pendingReboot = some r → ∀ p ∈ k.pendingResponses, p.uid ≠ r.uid

structure SameContainers (k k' : CommandState) : Prop where
  responses : k'.pendingResponses.map PendingResponse.uid =
    k.pendingResponses.map PendingResponse.uid
  reboot : k'.pendingReboot.map RebootRequest.uid = k.pendingReboot.map RebootRequest.uid
  nextUid : k'.nextUid = k.nextUid

section Numbered

variable {k k' : CommandState}

theorem mem_uids {uid : Nat} : uid ∈ k.pendingResponses.map PendingResponse.uid ↔
    ∃ p ∈ k.pendingResponses, p.uid = uid := List.mem_map

theorem Numbered.same (h : k.Numbered) (hsame : SameContainers k k') : k'.Numbered := by
  have hback : ∀ p ∈ k'.pendingResponses, ∃ p' ∈ k.pendingResponses, p'.uid = p.uid := by
    intro p hp
    exact mem_uids.mp (hsame.responses ▸ List.mem_map_of_mem hp)
  have hreboot : ∀ r, k'.pendingReboot = some r → ∃ r', k.pendingReboot = some r' ∧
      r'.uid = r.uid := by
    intro r hr
    have hmap := hsame.reboot
    rw [hr] at hmap
    exact Option.map_eq_some_iff.mp hmap.symm
  constructor
  · rw [hsame.responses]
    exact h.nodup
  · intro p hp
    obtain ⟨p', hp', huid⟩ := hback p hp
    rw [← huid, hsame.nextUid]
    exact h.given p' hp'
  · intro r hr
    obtain ⟨r', hr', huid⟩ := hreboot r hr
    rw [← huid, hsame.nextUid]
    exact h.rebootGiven r' hr'
  · intro r hr p hp
    obtain ⟨p', hp', huid⟩ := hback p hp
    obtain ⟨r', hr', huid'⟩ := hreboot r hr
    rw [← huid, ← huid']
    exact h.rebootApart r' hr' p' hp'

theorem sameContainers_modify (uid : Nat) (f : Stamps → Stamps) :
    SameContainers k (k.modifyStamps uid f) := by
  refine ⟨?_, ?_, rfl⟩
  · simp only [modifyStamps, List.map_map]
    refine List.map_congr_left (fun p _ => ?_)
    by_cases h : p.uid = uid <;> simp [h]
  · simp only [modifyStamps, Option.map_map]
    refine congrArg (Option.map · k.pendingReboot) (funext fun r => ?_)
    by_cases h : r.uid = uid <;> simp [h]

theorem Numbered.add {p : PendingResponse} (h : k.Numbered) (hp : p.uid = k.nextUid)
    (hresponses : k'.pendingResponses = k.pendingResponses ++ [p])
    (hreboot : k'.pendingReboot = k.pendingReboot) (hnext : k'.nextUid = k.nextUid + 1) :
    k'.Numbered := by
  have hmem : ∀ p' ∈ k'.pendingResponses, p' ∈ k.pendingResponses ∨ p' = p := by
    intro p' hp'
    simpa [hresponses] using hp'
  constructor
  · rw [hresponses, List.map_append, List.nodup_append]
    refine ⟨h.nodup, by simp, ?_⟩
    rintro uid huid uid' huid' rfl
    obtain ⟨p', hp', rfl⟩ := mem_uids.mp huid
    have hlt := h.given p' hp'
    simp only [List.map_cons, List.map_nil, List.mem_singleton] at huid'
    omega
  · intro p' hp'
    rcases hmem p' hp' with hold | rfl
    · have := h.given p' hold
      omega
    · omega
  · intro r hr
    have := h.rebootGiven r (hreboot ▸ hr)
    omega
  · intro r hr p' hp'
    rcases hmem p' hp' with hold | rfl
    · exact h.rebootApart r (hreboot ▸ hr) p' hold
    · have := h.rebootGiven r (hreboot ▸ hr)
      omega

theorem Numbered.drop (h : k.Numbered)
    (hresponses : k'.pendingResponses.Sublist k.pendingResponses)
    (hreboot : ∀ r, k'.pendingReboot = some r → k.pendingReboot = some r)
    (hnext : k'.nextUid = k.nextUid) : k'.Numbered where
  nodup := h.nodup.sublist (hresponses.map _)
  given := fun p hp => hnext ▸ h.given p (hresponses.subset hp)
  rebootGiven := fun r hr => hnext ▸ h.rebootGiven r (hreboot r hr)
  rebootApart := fun r hr p hp => h.rebootApart r (hreboot r hr) p (hresponses.subset hp)

theorem Numbered.claim (h : k.Numbered) (id : String) : (k.rememberCommandId id).Numbered :=
  h.same ⟨rfl, rfl, rfl⟩

theorem Numbered.record (h : k.Numbered) (event : CoreEvent) : (k.record event).Numbered :=
  h.same ⟨rfl, rfl, rfl⟩

theorem Numbered.queueResponse (h : k.Numbered) {response : CommandResponse} {clears : Bool}
    {note : Nat → CoreEvent} : (k.queueResponse response clears note).2.Numbered := by
  unfold CommandState.queueResponse
  by_cases hfull : k.queueFull = true
  · rw [if_pos hfull]
    exact h
  · rw [if_neg hfull]
    exact h.add rfl rfl rfl rfl

theorem Numbered.acceptReboot (h : k.Numbered) (id : String) (targeted : Bool) :
    (k.acceptReboot id targeted).Numbered where
  nodup := h.nodup
  given := fun p hp => Nat.lt_succ_of_lt (h.given p hp)
  rebootGiven := fun r hr => by cases hr; exact Nat.lt_succ_self _
  rebootApart := fun r hr p hp heq => by
    cases hr
    exact Nat.lt_irrefl _ (heq ▸ h.given p hp)

theorem Numbered.startReboot (h : k.Numbered) (request : RebootRequest) :
    (k.startReboot request).Numbered :=
  h.drop (List.Sublist.refl _) (fun _ hr => by cases hr) rfl

theorem Numbered.popPublished (h : k.Numbered) (pending : PendingResponse) :
    (k.popPublished pending).Numbered := by
  unfold CommandState.popPublished
  by_cases hclears : pending.clearsPendingReboot = true
  · rw [if_pos hclears]
    exact h.drop (List.drop_sublist _ _) (fun _ hr => by cases hr) rfl
  · rw [if_neg hclears]
    exact h.drop (List.drop_sublist _ _) (fun _ hr => hr) rfl

theorem Numbered.substituteHead (h : k.Numbered) (pending : PendingResponse) :
    (k.substituteHead pending).Numbered := by
  unfold CommandState.substituteHead
  cases (k.stampsOf pending.uid).permanentFailure with
  | none => exact h
  | some failure =>
    by_cases hsub : isResponseSubstitute pending.response = true
    · simp only [hsub, if_true]
      exact h
    · simp only [hsub, Bool.false_eq_true, if_false]
      cases hresponses : k.pendingResponses with
      | nil =>
        refine ⟨by simp, by simp, fun r hr => ?_, by simp⟩
        exact Nat.lt_succ_of_lt (h.rebootGiven r hr)
      | cons head rest =>
        have hrest : rest.Sublist k.pendingResponses := by
          rw [hresponses]
          exact List.sublist_cons_self _ _
        refine ⟨?_, ?_, fun r hr => Nat.lt_succ_of_lt (h.rebootGiven r hr), ?_⟩
        · simp only [List.set_cons_zero, List.map_cons, List.nodup_cons]
          refine ⟨fun hmem => ?_, h.nodup.sublist (hrest.map _)⟩
          obtain ⟨p, hp, huid⟩ := List.mem_map.mp hmem
          have := h.given p (hrest.subset hp)
          omega
        · intro p hp
          rcases List.mem_cons.mp hp with rfl | hp
          · exact Nat.lt_succ_self _
          · exact Nat.lt_succ_of_lt (h.given p (hrest.subset hp))
        · intro r hr p hp
          rcases List.mem_cons.mp hp with rfl | hp
          · exact Nat.ne_of_gt (h.rebootGiven r hr)
          · exact h.rebootApart r hr p (hrest.subset hp)

theorem Numbered.answerUnsentReboot (h : k.Numbered) (request : RebootRequest) :
    (k.answerUnsentReboot request).Numbered := by
  unfold CommandState.answerUnsentReboot
  cases (k.stampsOf request.uid).permanentFailure with
  | none => exact h
  | some failure =>
    have hqueue := @Numbered.queueResponse k h
      (substituteFor request.commandId request.targeted (some COMMAND_REBOOT) failure) true
      (fun uid => .rebootSubstituted request.uid uid)
    revert hqueue
    dsimp only
    rcases k.queueResponse _ true _ with ⟨queued, k'⟩
    intro hqueue
    cases queued with
    | false => exact hqueue
    | true =>
      refine hqueue.same ⟨rfl, ?_, rfl⟩
      simp only [Option.map_map]
      refine congrArg (Option.map · k'.pendingReboot) (funext fun r => ?_)
      by_cases hr : r.uid = request.uid <;> simp [hr]

end Numbered
end CommandState

section Containers

variable {b b' : Board} {c : Container} {stamps : Stamps}

theorem Held.mem {p : PendingResponse} (h : Held (.response p) stamps b) :
    { p with stamps } ∈ b.command.pendingResponses := List.mem_of_mem_head? h

theorem Held.stampsOf (h : Held c stamps b) (hb : b.command.Numbered) :
    b.command.stampsOf c.uid = stamps := by
  unfold CommandState.stampsOf
  cases c with
  | response p =>
    cases hresponses : b.command.pendingResponses with
    | nil => simp [Held, hresponses] at h
    | cons head rest =>
      obtain rfl : head = { p with stamps } := by simpa [Held, hresponses] using h
      simp [Container.uid]
  | reboot r =>
    have hnone : b.command.pendingResponses.find? (fun p => p.uid == r.uid) = none := by
      refine List.find?_eq_none.mpr (fun p hp => ?_)
      simpa using hb.rebootApart _ h.2 p hp
    rw [Container.uid, hnone, h.2]
    simp

theorem Held.modified (h : Held c stamps b) {uid : Nat} {f : Stamps → Stamps} {k : CommandState}
    (hresponses : k.pendingResponses = (b.command.modifyStamps uid f).pendingResponses)
    (hreboot : k.pendingReboot = (b.command.modifyStamps uid f).pendingReboot) :
    Held c (if c.uid = uid then f stamps else stamps) (b.withCommand k) := by
  cases c with
  | response p =>
    have hhead : b.command.pendingResponses.head? = some { p with stamps } := h
    show k.pendingResponses.head? = _
    rw [hresponses, CommandState.modifyStamps, List.head?_map, hhead]
    by_cases huid : p.uid = uid <;> simp [Container.uid, huid]
  | reboot r =>
    refine ⟨h.1, ?_⟩
    show k.pendingReboot = _
    rw [hreboot, CommandState.modifyStamps, h.2]
    by_cases huid : r.uid = uid <;> simp [Container.uid, huid]

theorem Held.modify (h : Held c stamps b) {f : Stamps → Stamps} {k : CommandState}
    (hresponses : k.pendingResponses = (b.command.modifyStamps c.uid f).pendingResponses)
    (hreboot : k.pendingReboot = (b.command.modifyStamps c.uid f).pendingReboot) :
    Held c (f stamps) (b.withCommand k) := by
  simpa using h.modified hresponses hreboot

/-- The callback and the hook add containers that carry nothing yet, and leave the others. -/
theorem AsideStep.containers (h : AsideStep b b') :
    (∃ more, b'.command.pendingResponses = b.command.pendingResponses ++ more ∧
      ∀ p ∈ more, p.stamps = {} ∧ p.clearsPendingReboot = false) ∧
    (b'.command.pendingReboot = b.command.pendingReboot ∨ b.command.pendingReboot = none ∧
      ∃ id targeted, b'.command.pendingReboot =
        some { uid := b.command.nextUid, commandId := id, targeted }) := by
  have hsame : ∀ k : CommandState, k.pendingResponses = b.command.pendingResponses →
      ∃ more, k.pendingResponses = b.command.pendingResponses ++ more ∧
        ∀ p ∈ more, p.stamps = {} ∧ p.clearsPendingReboot = false := fun k hk =>
    ⟨[], by rw [hk, List.append_nil], by simp⟩
  cases h with
  | quiet h => exact ⟨hsame _ (by rw [h.command]), .inl (by rw [h.command])⟩
  | claimed id => exact ⟨hsame _ rfl, .inl rfl⟩
  | replied r hroom =>
    rw [CommandState.reply_of_room r hroom]
    exact ⟨⟨_, rfl, by simp⟩, .inl rfl⟩
  | rebootAccepted id targeted hfree => exact ⟨hsame _ rfl, .inr ⟨hfree, id, targeted, rfl⟩⟩
  | dispatched event _ hcommand =>
    exact ⟨hsame _ (by rw [hcommand]; rfl), .inl (by rw [hcommand]; rfl)⟩
  | silenced id => exact ⟨hsame _ rfl, .inl rfl⟩
  | writeRaised e => exact ⟨hsame _ rfl, .inl rfl⟩
  | reset => exact ⟨hsame _ rfl, .inl rfl⟩

theorem AsideStep.held (h : AsideStep b b') (hc : Held c stamps b) : Held c stamps b' := by
  obtain ⟨⟨more, hmore, -⟩, hreboot⟩ := h.containers
  cases c with
  | response p =>
    have hhead : b.command.pendingResponses.head? = some { p with stamps } := hc
    show b'.command.pendingResponses.head? = some { p with stamps }
    rw [hmore, List.head?_append, hhead]
    rfl
  | reboot r =>
    rcases hreboot with hsame | ⟨hfree, -⟩
    · exact ⟨hc.1, hsame.trans hc.2⟩
    · have hr := hc.2
      rw [hfree] at hr
      cases hr

end Containers

section Aside

variable {b b' : Board}

theorem AsideStep.outbound (h : AsideStep b b') : b'.outbound = b.outbound := by
  cases h with
  | quiet h => exact h.outbound
  | dispatched event _ _ houtbound => exact houtbound
  | _ => rfl

theorem AsideStep.sound (h : AsideStep b b') (hb : b.disk.dir.Sound firmwareRules) :
    b'.disk.dir.Sound firmwareRules := by
  cases h with
  | quiet h => exact h.disk hb
  | dispatched event _ _ _ _ hdisk => exact hdisk ▸ hb
  | _ => exact hb

/-- What it puts on record is about commands and the hook alone. -/
theorem AsideStep.history (h : AsideStep b b') :
    ∃ new, b'.command.history = b.command.history ++ new ∧ ∀ e ∈ new, e.aside = true := by
  cases h with
  | quiet h => exact ⟨[], by rw [h.command, List.append_nil], by simp⟩
  | replied r hroom =>
    rw [CommandState.reply_of_room r hroom]
    exact ⟨_, rfl, by simp [CoreEvent.aside]⟩
  | dispatched event _ hcommand =>
    exact ⟨[.dispatched event], congrArg CommandState.history hcommand, by simp [CoreEvent.aside]⟩
  | _ => exact ⟨_, rfl, by simp [CoreEvent.aside]⟩

theorem AsideStep.numbered (h : AsideStep b b') (hb : b.command.Numbered) :
    b'.command.Numbered := by
  cases h with
  | quiet h => exact h.command ▸ hb
  | claimed id => exact hb.claim id
  | replied r => exact hb.queueResponse
  | rebootAccepted id targeted => exact hb.acceptReboot id targeted
  | dispatched event _ hcommand => exact hcommand ▸ hb.record _
  | _ => exact hb.record _

theorem AsideStep.nextSequence (h : AsideStep b b') :
    b'.command.nextSequence = b.command.nextSequence := by
  cases h with
  | quiet h => rw [h.command]
  | replied r hroom => rw [CommandState.reply_of_room r hroom]; rfl
  | dispatched event _ hcommand => rw [hcommand]; rfl
  | _ => rfl

theorem UpkeepStep.aside (h : UpkeepStep b b') : AsideStep b b' := by
  cases h with
  | kept h =>
    refine .quiet ⟨?_, h.outbound, congrArg EventQueue.queue h.events, fun hd => h.disk ▸ hd⟩
    rw [Board.command, h.core0]
    rfl
  | reset => exact .reset

end Aside

section Tried

variable {b b' : Board} {active : Option Owner}

theorem Attempted.more {history new : List CoreEvent} {owner : Owner} {n : Nat}
    (h : Attempted history owner n) : Attempted (history ++ new) owner n := by
  obtain ⟨a, ha, htag⟩ := h
  exact ⟨a, by simpa using .inl ha, htag⟩

theorem Tried.weaken (h : Tried none b) : Tried active b where
  responses := fun p hp n hn => (h.responses p hp n hn).imp (fun hnone => by cases hnone) id
  reboot := fun r hr n hn => (h.reboot r hr n hn).imp (fun hnone => by cases hnone) id
  entry := fun e he n hn => (h.entry e he n hn).imp (fun hnone => by cases hnone) id

theorem Tried.grow (h : Tried active b)
    (hhistory : ∃ new, b'.command.history = b.command.history ++ new)
    (hresponses : ∀ p ∈ b'.command.pendingResponses, p ∈ b.command.pendingResponses ∨
      p.stamps.wireSequence = none)
    (hreboot : ∀ r, b'.command.pendingReboot = some r → b.command.pendingReboot = some r ∨
      r.stamps.wireSequence = none)
    (hentry : ∀ e, b'.outbound.inFlight = some e → b.outbound.inFlight = some e ∨
      e.wireSequence = none) : Tried active b' := by
  obtain ⟨new, hnew⟩ := hhistory
  constructor
  · intro p hp n hn
    rcases hresponses p hp with hold | hnone
    · rw [hnew]
      exact (h.responses p hold n hn).imp id (Or.imp Attempted.more id)
    · rw [hnone] at hn
      cases hn
  · intro r hr n hn
    rcases hreboot r hr with hold | hnone
    · rw [hnew]
      exact (h.reboot r hold n hn).imp id (Or.imp Attempted.more id)
    · rw [hnone] at hn
      cases hn
  · intro e he n hn
    rcases hentry e he with hold | hnone
    · rw [hnew]
      exact (h.entry e hold n hn).imp id Attempted.more
    · rw [hnone] at hn
      cases hn

theorem Tried.aside (hb : Tried active b) (h : AsideStep b b') : Tried active b' := by
  obtain ⟨⟨more, hmore, hblank⟩, hreboot⟩ := h.containers
  obtain ⟨new, hnew, -⟩ := h.history
  refine hb.grow ⟨new, hnew⟩ (fun p hp => ?_) (fun r hr => ?_) (fun e he => ?_)
  · rw [hmore] at hp
    refine (List.mem_append.mp hp).imp id (fun hp => ?_)
    rw [(hblank p hp).1]
  · rcases hreboot with hsame | ⟨-, id, targeted, hsome⟩
    · exact .inl (hsame ▸ hr)
    · rw [hsome] at hr
      cases hr
      exact .inr rfl
  · exact .inl (h.outbound ▸ he)

theorem Tried.others (hb : Tried active b) (h : Others b b') : Tried active b' :=
  hb.grow ⟨[], by rw [h.command, List.append_nil]⟩ (fun p hp => .inl (h.command ▸ hp))
    (fun r hr => .inl (h.command ▸ hr)) (fun e he => .inl (h.inFlight ▸ he))

theorem Tried.record (hb : Tried active b) (event : CoreEvent) :
    Tried active (b.withCommand (b.command.record event)) :=
  hb.grow ⟨[event], rfl⟩ (fun _ hp => .inl hp) (fun _ hr => .inl hr) (fun _ he => .inl he)

theorem Tried.modify {uid : Nat} (hb : Tried (some (.container uid)) b) {f : Stamps → Stamps}
    {k : CommandState}
    (hresponses : k.pendingResponses = (b.command.modifyStamps uid f).pendingResponses)
    (hreboot : k.pendingReboot = (b.command.modifyStamps uid f).pendingReboot)
    (hhistory : k.history = b.command.history) :
    Tried (some (.container uid)) (b.withCommand k) := by
  constructor
  · intro p hp n hn
    have hmem : p ∈ (b.command.modifyStamps uid f).pendingResponses := hresponses ▸ hp
    obtain ⟨p', hp', rfl⟩ := List.mem_map.mp hmem
    by_cases huid : p'.uid = uid
    · exact .inl (by simp [huid])
    · simp only [huid, if_false] at hn ⊢
      have hold := hb.responses p' hp' n hn
      rw [show (b.withCommand k).command.history = b.command.history from hhistory]
      exact hold
  · intro r hr n hn
    have hmap : (b.command.modifyStamps uid f).pendingReboot = some r := hreboot ▸ hr
    obtain ⟨r', hr', rfl⟩ := Option.map_eq_some_iff.mp hmap
    by_cases huid : r'.uid = uid
    · exact .inl (by simp [huid])
    · simp only [huid, if_false] at hn ⊢
      have hold := hb.reboot r' hr' n hn
      rw [show (b.withCommand k).command.history = b.command.history from hhistory]
      exact hold
  · intro e he n hn
    have hold := hb.entry e he n hn
    rw [show (b.withCommand k).command.history = b.command.history from hhistory]
    exact hold

end Tried

structure Orderly (b : Board) : Prop where
  numbered : b.command.Numbered
  ledger : b.outbound.Ledger
  unstamped : ∀ e ∈ b.outbound.queue, e.wireSequence = none

namespace OutboundQueue

variable {q q' : OutboundQueue}

theorem ledger_empty (minimum preferred : Nat) (maxMessages : Option Nat) :
    Ledger { minimumFreeHeapBytes := minimum, preferredFreeHeapBytes := preferred, maxMessages } := by
  constructor <;> simp [admitted, released, retained, evicted, taken, completed, discarded,
    retainedBytes]

theorem Ledger.stamp (h : Ledger q) (ref sequence : Nat) : Ledger (q.stamp ref sequence) := by
  have hrefs : (q.stamp ref sequence).inFlight.toList.map Entry.ref =
      q.inFlight.toList.map Entry.ref := by
    cases hf : q.inFlight with
    | none => simp [OutboundQueue.stamp, hf]
    | some e => by_cases he : e.ref = ref <;> simp [OutboundQueue.stamp, hf, he]
  have hretained : (q.stamp ref sequence).retained.map Entry.ref = q.retained.map Entry.ref := by
    simp only [retained, List.map_append, hrefs]
    rfl
  refine ⟨h.fresh, h.distinct, ?_, ?_, ?_, ?_, h.evictions, h.discards, h.releases⟩
  · rw [hretained]
    exact h.ordered
  · rw [hretained]
    exact h.whole
  · rw [hrefs]
    exact h.takenFirst
  · have hsizes : (q.stamp ref sequence).retainedBytes = q.retainedBytes := by
      cases hf : q.inFlight with
      | none => simp [retainedBytes, retained, OutboundQueue.stamp, hf]
      | some e =>
        by_cases he : e.ref = ref <;>
          simp [retainedBytes, retained, OutboundQueue.stamp, hf, he, Entry.size]
    rw [hsizes]
    exact h.bytes

end OutboundQueue

theorem ProducerStep.ledger {q q' : OutboundQueue} (h : ProducerStep q q') (hq : q.Ledger) :
    q'.Ledger := by
  cases h with
  | idle => exact hq
  | append kind payload priority i => exact hq.append
  | evict priority =>
    rcases OutboundQueue.evictOneEligible_cases q priority with ⟨_, he⟩ | ⟨_, _, _, _, hvictim, he⟩
    · rw [he]
      exact hq
    · rw [he]
      exact hq.without hvictim.split
  | rejected => exact hq.rejected
  | oversized => exact hq.oversized

theorem ProducerStep.unstamped {q q' : OutboundQueue} (h : ProducerStep q q')
    (hq : ∀ e ∈ q.queue, e.wireSequence = none) : ∀ e ∈ q'.queue, e.wireSequence = none := by
  cases h with
  | idle => exact hq
  | append kind payload priority i =>
    rcases OutboundQueue.append_cases q kind payload priority i with ha | ha
    · rw [ha]
      exact hq
    · rw [ha]
      intro e he
      rcases List.mem_append.mp he with he | he
      · exact hq e he
      · rw [List.mem_singleton.mp he]
  | evict priority =>
    rcases OutboundQueue.evictOneEligible_cases q priority with ⟨_, he⟩ | ⟨_, _, _, _, hvictim, he⟩
    · rw [he]
      exact hq
    · rw [he]
      intro e hmem
      refine hq e ?_
      rw [hvictim.split]
      rcases List.mem_append.mp hmem with hmem | hmem
      · exact List.mem_append_left _ hmem
      · exact List.mem_append_right _ (List.mem_cons_of_mem _ hmem)
  | rejected => exact hq
  | oversized => exact hq

section Orderly

variable {b b' : Board}

theorem Orderly.others (hb : Orderly b) (h : Others b b') : Orderly b' := by
  have hsteps : ∀ q, Relation.ReflTransGen ProducerStep b.outbound q →
      q.Ledger ∧ ∀ e ∈ q.queue, e.wireSequence = none := by
    intro q hq
    induction hq with
    | refl => exact ⟨hb.ledger, hb.unstamped⟩
    | tail _ hstep ih => exact ⟨hstep.ledger ih.1, hstep.unstamped ih.2⟩
  obtain ⟨hledger, hunstamped⟩ := hsteps _ h.outbound
  exact ⟨h.command ▸ hb.numbered, hledger, hunstamped⟩

theorem Orderly.aside (hb : Orderly b) (h : AsideStep b b') : Orderly b' :=
  ⟨h.numbered hb.numbered, h.outbound ▸ hb.ledger, h.outbound ▸ hb.unstamped⟩

theorem CommandStep.numbered {boot : Boot} {n : Network} {k : CommandState}
    (h : CommandStep boot n b k) (hb : b.command.Numbered) : k.Numbered := by
  cases h with
  | sequence c stamps _ _ _ =>
    have hsame := @CommandState.sameContainers_modify b.command c.uid
      (fun s => { s with wireSequence := some b.command.nextSequence })
    exact hb.same ⟨hsame.responses, hsame.reboot, rfl⟩
  | frozen c stamps payload => exact hb.same (CommandState.sameContainers_modify c.uid _)
  | failed c stamps failure => exact hb.same (CommandState.sameContainers_modify c.uid _)
  | attempt a => exact hb.record _
  | published a completedMs => exact hb.record _
  | answered p => exact hb.popPublished p
  | substituted p => exact hb.substituteHead p
  | rebootSubstituted r => exact hb.answerUnsentReboot r
  | rebooting r => exact hb.startReboot r
  | reset uid => exact hb.record _
  | discardAnswered e r => exact hb.queueResponse

theorem Orderly.step {boot : Boot} {n : Network} (hb : Orderly b) (h : BoardStep boot n b b') :
    Orderly b' := by
  cases h with
  | aside h => exact hb.aside h
  | command h hmoved =>
    have hcommand := hmoved.command
    exact ⟨hcommand ▸ h.numbered hb.numbered, hmoved.outbound ▸ hb.ledger,
      hmoved.outbound ▸ hb.unstamped⟩
  | entrySequence e =>
    exact ⟨hb.numbered.same ⟨rfl, rfl, rfl⟩, hb.ledger.stamp _ _, hb.unstamped⟩
  | taken =>
    refine ⟨hb.numbered, hb.ledger.take, fun e he => hb.unstamped e ?_⟩
    unfold OutboundQueue.take at he
    cases hf : b.outbound.inFlight with
    | some inFlight => simpa [hf] using he
    | none =>
      cases hq : b.outbound.queue with
      | nil => simp [hf, hq] at he
      | cons first rest =>
        rw [hf, hq] at he
        exact List.mem_cons_of_mem _ he
  | released e discarded =>
    refine ⟨hb.numbered.record _, hb.ledger.completeInFlight _ _, fun e' he => hb.unstamped e' ?_⟩
    unfold OutboundQueue.completeInFlight at he
    cases hf : b.outbound.inFlight with
    | none => simpa [hf] using he
    | some inFlight =>
      by_cases href : inFlight.ref = e.ref <;> simpa [hf, href] using he

theorem orderly_initial {bootMs nowMs minimum preferred : Nat} {maxMessages : Option Nat}
    {disk : FsState} : Orderly (Board.initial bootMs nowMs minimum preferred maxMessages disk) :=
  ⟨⟨List.nodup_nil, by simp [Board.initial, Board.command],
    by simp [Board.initial, Board.command], by simp [Board.initial, Board.command]⟩,
    OutboundQueue.ledger_empty _ _ _, by simp [Board.initial]⟩

end Orderly

end PicoDualCore
