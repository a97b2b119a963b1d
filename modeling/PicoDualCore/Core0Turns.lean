import PicoDualCore.Core0Service
set_option autoImplicit false

namespace PicoDualCore
open AtomicProgram MqttClient

section Turns

variable {boot : Boot} {rounds : Nat} {A : NetInput CoreInput → Prop} {e : Entry} {n : Nat}
  {b b' : Board} {s : Sys Board} {α : Type}

structure Taken (e : Entry) (b : Board) : Prop where
  taken : b.outbound.inFlight = some e
  connected : b.core0.mqtt.isConnected = true
  tried : Tried none b

structure Bearing (e : Entry) (n : Nat) (b : Board) : Prop where
  taken : b.outbound.inFlight = some e
  sequence : e.wireSequence = some n
  connected : b.core0.mqtt.isConnected = true
  tried : Tried (some (.entry e.ref)) b
  turn : OnTurn b (.entry e.ref) n

structure Leaving (e : Entry) (n : Nat) (b : Board) : Prop where
  taken : b.outbound.inFlight = some e
  sequence : e.wireSequence = some n
  tried : Tried none b

structure Discarded (e : Entry) (b : Board) : Prop where
  released : .entryReleased e.ref true ∈ b.command.history
  tried : Tried none b

theorem taken_others : Undisturbed (Taken e) := fun _ _ h hb =>
  ⟨h.inFlight.trans hb.taken, (congrArg (·.mqtt.isConnected) h.core0).trans hb.connected,
    hb.tried.others h⟩

theorem bearing_others : Undisturbed (Bearing e n) := fun _ _ h hb =>
  ⟨h.inFlight.trans hb.taken, hb.sequence, (congrArg (·.mqtt.isConnected) h.core0).trans
    hb.connected, hb.tried.others h, hb.turn.others h⟩

theorem enduring_leaving : Enduring (Leaving e n) where
  others := fun _ _ h hb => ⟨h.inFlight.trans hb.taken, hb.sequence, hb.tried.others h⟩
  aside := fun h hb => ⟨h.outbound ▸ hb.taken, hb.sequence, hb.tried.aside h⟩

theorem enduring_discarded : Enduring (Discarded e) where
  others := fun _ _ h hb => ⟨h.command ▸ hb.released, hb.tried.others h⟩
  aside := fun h hb => by
    obtain ⟨new, hnew, -⟩ := h.history
    refine ⟨?_, hb.tried.aside h⟩
    rw [hnew]
    exact List.mem_append_left _ hb.released

theorem OutboundQueue.sequenceOf_inFlight {q : OutboundQueue} (h : q.inFlight = some e) :
    q.sequenceOf e.ref = e.wireSequence := by
  simp [OutboundQueue.sequenceOf, h]

theorem OutboundQueue.stamp_inFlight {q : OutboundQueue} (h : q.inFlight = some e) :
    (q.stamp e.ref n).inFlight = some { e with wireSequence := some n } := by
  simp [OutboundQueue.stamp, h]

/-- An entry that has just been taken from the queue carries no sequence yet. -/
theorem effects_takeEntry {X : Exc → Sys Board → Prop}
    (hs : Owes none (fun b => b.core0.mqtt.isConnected = true ∧ Tried none b) s.app) :
    Effects boot A (fun taken t => match taken with
      | none => Idle t
      | some e => Owes none (Taken e) t.app) X (onApp takeEntry) s := by
  have hstable : Undisturbed (fun b => b.core0.mqtt.isConnected = true ∧ Tried none b) :=
    fun _ _ h hb => ⟨(congrArg (·.mqtt.isConnected) h.core0).trans hb.1, hb.2.others h⟩
  refine wp_onApp_atomic (fun t ht _ _ => ?_)
  have hknown := hs.beside hstable ht
  refine ⟨.board (.taken hknown.owed), ?_⟩
  have hunstamped := ht.2.unstamped
  have htried : ∀ q : OutboundQueue, (∀ e, q.inFlight = some e →
      t.app.outbound.inFlight = some e ∨ e.wireSequence = none) →
      Tried none { t.app with outbound := q } := fun q hq =>
    hknown.kept.2.grow ⟨[], (List.append_nil _).symm⟩ (fun _ hp => .inl hp) (fun _ hr => .inl hr) hq
  dsimp only [OutboundQueue.take]
  cases hflight : t.app.outbound.inFlight with
  | some e =>
    exact ⟨hknown.sound, hknown.owed, hflight, hknown.kept.1, htried _ (fun _ h => .inl h)⟩
  | none =>
    cases hqueue : t.app.outbound.queue with
    | nil => exact ⟨hknown.sound, hknown.owed, htried _ (fun _ h => .inl h)⟩
    | cons first rest =>
      refine ⟨hknown.sound, hknown.owed, rfl, hknown.kept.1, htried _ (fun e he => .inr ?_)⟩
      cases he
      exact hunstamped first (by rw [hqueue]; exact List.mem_cons_self)

theorem effects_claimEntry {X : Exc → Sys Board → Prop} (hs : Owes none (Taken e) s.app) :
    Effects boot A (fun n t => Owes none (Bearing { e with wireSequence := some n } n) t.app) X
      (onApp (claimEntrySequence e.ref)) s := by
  refine wp_onApp_atomic (fun t ht _ _ => ?_)
  have hknown := hs.beside taken_others ht
  have htaken := hknown.kept.taken
  dsimp only
  rw [OutboundQueue.sequenceOf_inFlight htaken]
  cases hsequence : e.wireSequence with
  | some n =>
    have hsame : { e with wireSequence := some n } = e := by rw [← hsequence]
    refine ⟨.board (.aside (.refl t.app)), hknown.sound, hknown.owed, ?_⟩
    rw [hsame]
    refine ⟨htaken, hsequence, hknown.kept.connected, hknown.kept.tried.weaken, ?_⟩
    rcases hknown.kept.tried.entry e htaken n hsequence with hnone | hattempted
    · cases hnone
    · exact .inr (.inl hattempted)
  | none =>
    refine ⟨.board (.entrySequence e htaken hsequence hknown.kept.tried), hknown.sound,
      hknown.owed, OutboundQueue.stamp_inFlight htaken, rfl, hknown.kept.connected, ?_, .inl rfl⟩
    have htried := hknown.kept.tried
    refine ⟨fun p hp m hm => ?_, fun r hr m hm => ?_, fun e' he' m hm => ?_⟩
    · exact (htried.responses p hp m hm).imp (fun h => by cases h) id
    · exact (htried.reboot r hr m hm).imp (fun h => by cases h) id
    · change (t.app.outbound.stamp e.ref _).inFlight = some e' at he'
      rw [OutboundQueue.stamp_inFlight htaken] at he'
      cases he'
      exact .inl rfl

theorem publishable_entry (hbrace : e.payloadBytes.getLast? = some 0x7D)
    (hfits : wireLength e.payloadBytes (boot.fragment n) ≤ MAX_OUTBOUND_MESSAGE_BYTES) :
    Publishable boot (some (.entry e.ref, n)) (topicForKind boot.config e.kind)
      (.bytes e.payloadBytes) (some (boot.fragment n)) (Bearing e n) (Leaving e n) where
  before := bearing_others
  after := enduring_leaving
  connected := fun _ hb => .inl hb.connected
  sends := fun _ _ hb => ⟨e, hb.taken, rfl, hb.sequence, rfl, rfl, rfl, hfits, hbrace⟩
  sends' := fun _ _ hb => ⟨e, hb.taken, rfl, hb.sequence, rfl, rfl, rfl, hfits, hbrace⟩
  turn := fun _ _ _ hb heq => by
    cases heq
    exact hb.turn
  attempted := fun b startedMs _ hb => by
    refine ⟨hb.taken, hb.sequence, hb.tried.attempted rfl ?_ ?_ ?_⟩
    · exact fun _ _ howner => by cases howner
    · exact fun _ _ howner => by cases howner
    · intro e' he' _ m hm
      obtain rfl : e = e' := Option.some.inj (hb.taken.symm.trans he')
      rw [hb.sequence] at hm
      exact (Option.some.inj hm).symm

def Publication.Known (boot : Boot) (e : Entry) (t : Sys Board) : Publication → Prop
  | .completed => ∃ n, Owes (some (.entry e.ref))
      (Leaving { e with wireSequence := some n } n) t.app
  | .tooLarge => ∃ n, Owes none (Bearing { e with wireSequence := some n } n) t.app ∧
      MAX_OUTBOUND_MESSAGE_BYTES < wireLength e.payloadBytes (boot.fragment n)
  | .failed => Idle t

theorem effects_publishQueued (hs : Owes none (Taken e) s.app) :
    Effects boot A (fun publication t => publication.Known boot e t) (Unwinds (Tried none))
      (publishQueued boot rounds e) s := by
  refine effects_handle (X := fun err t => (err.oversized = true → ∃ n,
      Owes none (Bearing { e with wireSequence := some n } n) t.app ∧
        MAX_OUTBOUND_MESSAGE_BYTES < wireLength e.payloadBytes (boot.fragment n)) ∧
      Unwinds (Tried none) err t) ?_ (fun err t ht => ?_)
  · refine effects_seq (Q := fun _ t => Publication.completed.Known boot e t) ?_
      (fun _ _ ht => ht)
    refine effects_publishEntry (fun _ _ => ⟨fun he => (by cases he), fun he => (by cases he)⟩) ?_
    intro hbrace
    refine effects_seq (effects_claimEntry hs) (fun n t ht => ?_)
    have hpublishable := @publishable_entry boot { e with wireSequence := some n } n hbrace
    refine effects_mono (effects_publishSpliced hpublishable
      (fun _ event hb => ⟨hb.taken, hb.sequence, hb.tried.record event⟩) (fun _ hb => hb.tried) ht)
      (fun _ u hu => ⟨n, hu⟩) (fun err u hu => ⟨fun he => ⟨n, hu.ceiling he⟩, hu.transport⟩)
  · cases err with
    | messageTooLarge m => exact ht.1 rfl
    | osError m => exact ht.2 rfl
    | mqttException m => exact ht.2 rfl
    | _ => exact fun he => by cases he

theorem idling_answerDiscarded (hs : Owes none (Discarded e) s.app) :
    Idling boot A (onApp (answerDiscardedCommandResponse e)) s := by
  unfold answerDiscardedCommandResponse
  rw [onApp_seq]
  refine effects_seq (effects_mono (effects_upkeep enduring_discarded upkeep_allocate hs)
    (fun _ _ h => h) (fun _ _ h _ => h.mono (fun h => h.tried))) (fun _ t ht => ?_)
  cases hread : discardedPayload? e.payloadBytes with
  | none => exact ht.mono (fun h => h.tried)
  | some named =>
    obtain ⟨commandId, payload⟩ := named
    refine effects_update (fun u hu => ?_)
    have hknown := ht.beside enduring_discarded.others hu
    refine ⟨.discardAnswered e _ hknown.kept.released ⟨payload, hread⟩, hknown.sound, ?_, ?_⟩
    · show owed (u.app.command.queueResponse _ false _).2.history = none
      unfold CommandState.queueResponse
      by_cases hfull : u.app.command.queueFull = true
      · rw [if_pos hfull]
        exact hknown.owed
      · rw [if_neg hfull]
        exact (owed_snoc _ _).trans hknown.owed
    · unfold CommandState.queueResponse
      by_cases hfull : u.app.command.queueFull = true
      · rw [if_pos hfull]
        exact hknown.kept.tried
      · rw [if_neg hfull]
        refine hknown.kept.tried.grow ⟨_, rfl⟩ (fun p hp => ?_) (fun _ hr => .inl hr)
          (fun _ he => .inl he)
        refine (List.mem_append.mp hp).imp id (fun hp => ?_)
        rw [List.mem_singleton.mp hp]

theorem effects_completeInFlight (e' : Entry) {discarded : Bool} {X : Exc → Sys Board → Prop}
    {owner : Option Owner} {H : Board → Prop} (hH : Undisturbed H)
    (htaken : ∀ b, H b → b.outbound.inFlight = some e' ∧ Tried (some (.entry e'.ref)) b)
    (hdone : discarded = false → owner = some (.entry e'.ref))
    (hlarge : discarded = true → owner = none ∧ TooLarge boot e')
    (hs : Owes owner H s.app) :
    Effects boot A (fun _ t => Owes none (fun b => .entryReleased e'.ref discarded ∈
        b.command.history ∧ Tried none b) t.app) X
      (onApp (completeInFlight e'.ref discarded)) s := by
  refine wp_onApp_atomic (fun t ht _ _ => ?_)
  have hknown := hs.beside hH ht
  obtain ⟨hflight, htried⟩ := htaken _ hknown.kept
  refine ⟨.board (.released e' discarded hflight (fun h => hknown.owed.trans (hdone h))
    (fun h => ⟨hknown.owed.trans (hlarge h).1, (hlarge h).2⟩)), ?_⟩
  have hresult : (t.app.outbound.completeInFlight (some e'.ref) discarded).1 = .ok true := by
    simp [OutboundQueue.completeInFlight, hflight]
  have hempty : (t.app.outbound.completeInFlight (some e'.ref) discarded).2.inFlight = none := by
    simp [OutboundQueue.completeInFlight, hflight]
  dsimp only
  rw [hresult]
  refine ⟨hknown.sound, owed_snoc _ _, List.mem_append_right _ List.mem_cons_self, ?_⟩
  refine ⟨fun p hp m hm => ?_, fun r hr m hm => ?_, fun e'' he'' => ?_⟩
  · rcases htried.responses p hp m hm with hentry | hrest
    · cases hentry
    · exact .inr (hrest.imp Attempted.more id)
  · rcases htried.reboot r hr m hm with hentry | hrest
    · cases hentry
    · exact .inr (hrest.imp Attempted.more id)
  · exact absurd (hempty.symm.trans he'') (by simp)

theorem idling_serviceEntry (hs : Owes none (Taken e) s.app) :
    Idling boot A (serviceEntry boot rounds e) s := by
  refine effects_seq (effects_publishQueued hs) (fun publication t ht => ?_)
  cases publication with
  | completed =>
    obtain ⟨n, ht⟩ := ht
    exact effects_mono (effects_completeInFlight { e with wireSequence := some n }
      enduring_leaving.others (fun _ hb => ⟨hb.taken, hb.tried.weaken⟩) (fun _ => rfl)
      (fun h => by cases h) ht) (fun _ _ h => h.mono (fun h => h.2)) (fun _ _ h => h)
  | tooLarge =>
    obtain ⟨n, ht, hlarge⟩ := ht
    refine effects_seq (effects_completeInFlight { e with wireSequence := some n }
      bearing_others (fun _ hb => ⟨hb.taken, hb.tried⟩) (fun h => by cases h)
      (fun _ => ⟨rfl, n, rfl, hlarge⟩) ht) (fun _ u hu => ?_)
    refine effects_ite (fun _ => idling_answerDiscarded (hu.mono (fun h => ⟨h.1, h.2⟩))) ?_
    exact fun _ => hu.mono (fun h => h.2)
  | failed => exact ht

theorem idling_serviceOutbound (hs : Idle s) :
    Idling boot A (serviceOutbound boot rounds) s := by
  have hlink : LinkRule boot rounds A Beside (CoreStep boot) Idle := linkRule_owes enduring_tried
  have hstable : Undisturbed (fun b => b.core0.mqtt.isConnected = true ∧ Tried none b) :=
    fun _ _ h hb => ⟨(congrArg (·.mqtt.isConnected) h.core0).trans hb.1, hb.2.others h⟩
  refine effects_seq (Q := fun connected t => Idle t ∧
    (connected = true → t.app.core0.mqtt.isConnected = true)) ?_ ?_
  · exact effects_look (fun t ht => ⟨hs.beside enduring_tried.others ht, id⟩)
  rintro connected t ⟨ht, hup⟩
  refine effects_ite (fun hconnected => ?_) (fun _ => ht)
  have hready : Owes none (fun b => b.core0.mqtt.isConnected = true ∧ Tried none b) t.app :=
    ht.mono (fun h => ⟨hup hconnected, h⟩)
  have hping : ∀ t, Idle t → Idling boot A (do
      if ← onApp (Mqtt.pingDue boot) then ignoreTransport (Mqtt.ping boot rounds)) t := by
    intro t ht
    refine effects_seq (idling_of_keeping (hlink.upkeep upkeep_look ht)) (fun due t ht => ?_)
    refine effects_ite (fun _ => idling_ignoreTransport (idling_of_keeping ?_)) (fun _ => ht)
    exact hlink.mqttPing ht
  refine effects_seq (Q := fun _ t => Owes none (fun b => b.core0.mqtt.isConnected = true ∧
    Tried none b) t.app) (effects_look (fun t ht => hready.beside hstable ht)) ?_
  refine fun isOpen t ht => effects_ite (fun _ => ?_) (fun _ => hping t (ht.mono (fun h => h.2)))
  refine effects_seq (effects_takeEntry ht) (fun taken t ht => ?_)
  cases taken with
  | some e => exact idling_serviceEntry ht
  | none => exact hping t ht

theorem publishable_plain {topic : String} {message : Payload}
    (h : ∀ startedMs, Plain boot ⟨none, topic, message, none, startedMs⟩) :
    Publishable boot none topic message none (Tried none) (Tried none) where
  before := enduring_tried.others
  after := enduring_tried
  connected := fun _ hb => .inr hb
  sends := fun _ startedMs _ => ⟨rfl, h startedMs⟩
  sends' := fun _ startedMs _ => ⟨rfl, h startedMs⟩
  turn := fun _ _ _ _ heq => by cases heq
  attempted := fun _ _ _ hb => hb.record _

theorem idling_completed {topic : String} {message : Payload}
    (h : ∀ startedMs, Plain boot ⟨none, topic, message, none, startedMs⟩)
    (hs : Published none topic message none (Tried none) s) :
    Idling boot A (onApp (noteMqttPublishCompleted none)) s :=
  effects_completed enduring_tried (publishable_plain h).sends' (fun _ event hb => hb.record event)
    hs

theorem idling_still {p : BoardProg α} (hp : Still p) (hs : Idle s) :
    Idling boot A (onApp p) s := idling_of_keeping (effects_still enduring_tried hp hs)

theorem effects_armUtcRequest {X : Exc → Sys Board → Prop} (hs : Idle s) :
    Effects boot A (fun requestId t => Idle t ∧ ∃ counter : Nat,
      requestId = s!"{boot.runtimeId}_{counter}") X (onApp (armUtcRequest boot.runtimeId)) s := by
  refine wp_onApp_atomic (fun t ht _ _ => ?_)
  have hidle : Idle t := hs.beside enduring_tried.others ht
  have haside : AsideStep t.app { t.app with core0 := { t.app.core0 with
      utcRequestCounter := t.app.core0.utcRequestCounter + 1
      pendingUtcRequestId := some s!"{boot.runtimeId}_{t.app.core0.utcRequestCounter + 1}"
      timeline := { t.app.core0.timeline with utcSending := true, utcAcknowledged := false } } } :=
    .quiet ⟨rfl, rfl, rfl, id⟩
  exact ⟨.board (.aside haside), hidle.aside enduring_tried haside, _, rfl⟩

theorem idling_utcSendRequest (hs : Idle s) : Idling boot A (utcSendRequest boot rounds) s := by
  refine effects_seq (effects_armUtcRequest hs) ?_
  rintro _ t ⟨ht, counter, rfl⟩
  have hplain : ∀ startedMs, Plain boot ⟨none, boot.config.topicInfoRequest, .text (Json.dumps
      (.dict (utcRequest boot s!"{boot.runtimeId}_{counter}"))), none, startedMs⟩ :=
    fun _ => .utc counter rfl rfl
  refine effects_seq (Q := fun sent t => if sent then Published none boot.config.topicInfoRequest
    (.text (Json.dumps (.dict (utcRequest boot s!"{boot.runtimeId}_{counter}")))) none (Tried none)
      t else Idle t) ?_ ?_
  · refine effects_handle (effects_seq (effects_publishQos1 (publishable_plain hplain) ht)
      (fun _ _ h => h)) (fun e u hu => ?_)
    have hdisarm : Idling boot A (onApp utcDisarm) u := idling_still still_utcDisarm hu.1
    cases e with
    | memoryError => exact effects_seq hdisarm (fun _ _ _ he => by cases he)
    | osError m => exact effects_seq hdisarm (fun _ _ h => h)
    | mqttException m => exact effects_seq hdisarm (fun _ _ h => h)
    | _ => exact fun _ => hu.1
  · intro sent t ht
    cases sent with
    | false => exact ht
    | true =>
      exact effects_seq (idling_completed hplain ht) (fun _ _ h => idling_still still_utcNoteSent h)

theorem idling_utcPump {turns : Nat} (hs : Idle s) : Idling boot A (utcPump boot turns) s := by
  have hlink : LinkRule boot 0 A Beside (CoreStep boot) Idle := linkRule_owes enduring_tried
  induction turns generalizing s with
  | zero => trivial
  | succ turns ih =>
    refine effects_seq (idling_still still_look hs) (fun pending t ht => ?_)
    refine effects_ite (fun _ => ht) (fun _ => ?_)
    refine effects_seq (idling_still still_utcDeadlinePassed ht) (fun passed t ht => ?_)
    refine effects_ite (fun _ => ht) (fun _ => effects_seq (Q := fun _ => Idle) ?_ ?_)
    · refine effects_handle (effects_seq (idling_of_keeping (hlink.mqttCheckMsg ht))
        (fun _ _ h => h)) (fun e u hu => ?_)
      exact effects_ite (fun he => hu he) (fun _ => hu)
    · intro polled t ht
      refine effects_ite (fun _ => ?_) (fun _ => ht)
      exact effects_seq (idling_still upkeep_sleepMs.still ht) (fun _ _ hu => ih hu)

theorem idling_utcWaitResponse (hs : Idle s) : Idling boot A (utcWaitResponse boot rounds) s :=
  effects_seq (idling_utcPump hs) (fun _ _ ht => idling_still still_clearPending ht)

theorem idling_serviceUtc (hs : Idle s) : Idling boot A (serviceUtc boot rounds) s := by
  refine effects_seq (idling_still still_utcRequestExpired hs) (fun _ t ht => ?_)
  refine effects_seq (idling_still still_look ht) (fun connected t ht => effects_ite ?_ ?_)
  · intro _
    refine effects_seq (idling_still still_utcShouldSendRequest ht) (fun due t ht => ?_)
    refine effects_ite (fun _ => ?_) (fun _ => ht)
    refine effects_seq (idling_still still_look ht) (fun isOpen t ht => ?_)
    exact effects_ite (fun _ => idling_utcSendRequest ht) (fun _ => ht)
  · exact fun _ => ht

theorem idling_pollCommands (hs : Idle s) : Idling boot A (pollCommands boot) s := by
  have hlink : LinkRule boot 0 A Beside (CoreStep boot) Idle := linkRule_owes enduring_tried
  refine effects_seq (idling_still still_look hs) (fun reading t ht => ?_)
  refine effects_ite (fun _ => ?_) (fun _ => ht)
  refine effects_seq (idling_ignoreTransport (idling_of_keeping (hlink.mqttCheckMsg ht))) ?_
  exact fun _ _ hu => idling_still still_noteCommandPolled hu

theorem idling_runOnce (hs : Idle s) : Idling boot A (runOnce boot rounds) s := by
  have hlink : LinkRule boot rounds A Beside (CoreStep boot) Idle := linkRule_owes enduring_tried
  refine effects_seq (idling_still upkeep_serviceWait.still hs) (fun _ s hs => ?_)
  refine effects_seq (idling_rebootIfDue hs) (fun _ s hs => ?_)
  refine effects_seq (idling_of_keeping (hlink.recoverNetworkIfNeeded hs)) (fun _ s hs => ?_)
  refine effects_seq (idling_pollCommands hs) (fun _ s hs => ?_)
  refine effects_seq (idling_rebootIfDue hs) (fun _ s hs => ?_)
  refine effects_seq (idling_serviceResponses hs) (fun _ s hs => ?_)
  refine effects_seq (idling_serviceOutbound hs) (fun _ s hs => ?_)
  refine effects_seq (idling_still upkeep_publishNetworkSnapshot.still hs) (fun _ s hs => ?_)
  refine effects_seq (idling_serviceUtc hs) (fun _ s hs => ?_)
  exact idling_still upkeep_sleepMs.still hs

theorem idling_runLoop {turns : Nat} (hs : Idle s) : Idling boot A (runLoop boot rounds turns) s := by
  induction turns generalizing s with
  | zero => trivial
  | succ turns ih => exact effects_seq (idling_runOnce hs) (fun _ _ ht => ih ht)

theorem idling_publishWithPacketId {topic : String} {message : Payload} {packetId : Nat}
    {timeoutMs : Option Nat}
    (h : ∀ startedMs, Plain boot ⟨none, topic, message, none, startedMs⟩) (hs : Idle s) :
    Effects boot A (fun published t => if published then
      Published none topic message none (Tried none) t else Idle t) (Unwinds (Tried none))
      (Mqtt.publishQos1WithPacketId boot rounds topic message packetId timeoutMs) s := by
  have hplain := publishable_plain h
  refine effects_seq (idling_still still_look hs) (fun connected t ht => ?_)
  refine effects_ite (fun _ _ => ht) (fun _ => ?_)
  refine effects_handle (X := fun _ => Idle) ?_ (fun e u hu => ?_)
  · refine effects_seq (effects_attempting hplain ht) ?_
    rintro _ u ⟨startedMs, hu⟩
    refine effects_seq (Q := fun _ => Published none topic message none (Tried none)) ?_ ?_
    · exact effects_mono (effects_clientPublish (a := ⟨none, topic, message, none, startedMs⟩)
        enduring_tried (fun b hb => hplain.sends' b startedMs hb) (fun he => by cases he) hu)
        (fun _ _ h => ⟨startedMs, h⟩) (fun _ _ h => h.mono (fun h => h.1))
    · intro _ v hv
      exact effects_seq (effects_mono (effects_published enduring_tried still_touchPublished hv)
        (fun _ _ h => h) (fun _ _ h => h.owes)) (fun _ _ h => h)
  · refine effects_ite (fun _ => ?_) (fun _ _ => hu)
    exact effects_seq (idling_still upkeep_session.still hu) (fun _ _ h => h)

theorem idling_performNetworkProbe (hs : Idle s) :
    Idling boot A (performNetworkProbe boot rounds) s := by
  refine effects_seq (idling_still upkeep_waitForMqttPublishSlot.still hs) (fun _ t ht => ?_)
  have hpacketId : Idling boot A Mqtt.getNextPacketId t := by
    refine effects_seq (idling_still still_look ht) (fun hasClient u hu => effects_ite ?_ ?_)
    · exact fun _ => idling_of_keeping ((sessionRule_owes enduring_tried).exchange.nextPacketId hu)
    · exact fun _ => hu
  refine effects_seq hpacketId (fun packetId t ht => ?_)
  refine effects_seq (idling_still upkeep_uptimeMs.still ht) (fun uptime t ht => ?_)
  refine effects_handle (X := Unwinds (Tried none)) ?_ (fun e u hu => ?_)
  · refine effects_seq (idling_publishWithPacketId (fun _ => .probe uptime packetId rfl rfl) ht) ?_
    intro published u hu
    refine effects_ite (c := published = true) (fun hdone => ?_) (fun hfailed => ?_)
    · rw [if_pos hdone] at hu
      exact effects_seq (idling_completed (fun _ => .probe uptime packetId rfl rfl) hu)
        (fun _ _ h => h)
    · rw [if_neg hfailed] at hu
      exact hu
  · exact effects_ite (fun he => hu he) (fun _ => hu)

theorem idling_synchronizeUtc {attempts : Nat} (hs : Idle s) :
    Idling boot A (synchronizeUtcRequired boot rounds attempts) s := by
  induction attempts generalizing s with
  | zero => exact hs
  | succ attempts ih =>
    refine effects_seq (idling_still upkeep_waitForMqttPublishSlot.still hs) (fun _ t ht => ?_)
    refine effects_seq (idling_utcSendRequest ht) (fun _ t ht => ?_)
    refine effects_seq (idling_utcWaitResponse ht) (fun _ t ht => ?_)
    refine effects_seq (idling_still still_look ht) (fun snapshot t ht => effects_ite ?_ ?_)
    · exact fun _ => ht
    · exact fun _ => effects_seq (idling_still upkeep_sleepMs.still ht) (fun _ _ h => ih h)

theorem idling_verifyStartup (hs : Idle s) :
    Idling boot A (verifyStartupContract boot rounds) s := by
  refine effects_seq (idling_performNetworkProbe hs) (fun _ t ht => effects_ite (fun _ => ht) ?_)
  intro _
  refine effects_seq (idling_still upkeep_sleepMs.still ht) (fun _ t ht => ?_)
  refine effects_seq (idling_performNetworkProbe ht) (fun _ t ht => effects_ite (fun _ => ht) ?_)
  exact fun _ => idling_synchronizeUtc ht

theorem idling_verifyUntilClean {turns : Nat} (hs : Idle s) :
    Idling boot A (verifyUntilClean boot rounds turns) s := by
  have hlink : LinkRule boot rounds A Beside (CoreStep boot) Idle := linkRule_owes enduring_tried
  induction turns generalizing s with
  | zero => trivial
  | succ turns ih =>
    refine effects_seq (idling_verifyStartup hs) (fun clean t ht => effects_ite (fun _ => ht) ?_)
    intro _
    refine effects_seq (idling_still upkeep_sleepSliced.still ht) (fun _ t ht => ?_)
    refine effects_seq (idling_still upkeep_session.still ht) (fun _ t ht => ?_)
    exact effects_seq (idling_of_keeping (hlink.establishNetwork ht)) (fun _ _ h => ih h)

theorem idling_core0Main (hs : Idle s) : Idling boot A (core0Main boot rounds) s := by
  have hlink : LinkRule boot rounds A Beside (CoreStep boot) Idle := linkRule_owes enduring_tried
  refine effects_seq (Q := fun _ => Idle) ?_ (fun _ _ h => idling_runLoop h)
  refine effects_seq (idling_of_keeping (hlink.establishNetwork hs)) (fun _ s hs => ?_)
  refine effects_seq (idling_verifyUntilClean hs) (fun _ s hs => ?_)
  refine effects_seq (idling_still still_publishUtcSnapshot hs) (fun _ s hs => ?_)
  refine effects_seq (idling_still upkeep_setNetworkStackReady.still hs) (fun _ s hs => ?_)
  refine effects_seq (idling_still upkeep_publishNetworkSnapshot.still hs) (fun _ s hs => ?_)
  exact idling_still still_armWatchdog hs

end Turns

/-- The configuration has been recovered, and Core 0's objects have just been made from it. -/
structure Started (boot : Boot) (s : Sys Board) : Prop extends AtStart s where
  recovered : ∃ d config, (recovery firmwareRules d).1 = .ret (.dict config) ∧
    s.app.disk.dir = (recovery firmwareRules d).2.dir ∧ boot.config = splitConfigCore0 config
  runtimeId : ∃ uid nonce, boot.runtimeId = runtimeIdOf uid nonce

section Runs

variable {boot : Boot} {rounds : Nat} {s t : Sys Board} {q : CoreProg Unit}
  {act : Sys Board → NetInput CoreInput → Sys Board}
  {next : Sys Board → NetInput CoreInput → CoreProg Unit}

theorem Started.orderly (hs : Started boot s) : Orderly s.app := by
  obtain ⟨bootMs, nowMs, minimum, preferred, maxMessages, disk, happ⟩ := hs.board
  rw [happ]
  exact orderly_initial

theorem Started.idle (hs : Started boot s) : Idle s := by
  obtain ⟨d, config, hrecovered, hdir, -⟩ := hs.recovered
  obtain ⟨bootMs, nowMs, minimum, preferred, maxMessages, disk, happ⟩ := hs.board
  refine ⟨hdir ▸ sound_of_recovery hrecovered, ?_, ?_⟩
  · simp [happ, Board.initial, Board.command, owed]
  · rw [happ]
    exact ⟨by simp [Board.initial, Board.command], by simp [Board.initial, Board.command],
      by simp [Board.initial]⟩

theorem CoreStep.orderly (h : CoreStep boot s t) (hs : Orderly s.app) : Orderly t.app := by
  cases h with
  | board h => exact hs.step h
  | _ => exact hs

/-- What every step of Core 0 and of the others keeps holds at every moment of the run. -/
theorem CoreRun.keeps {I : Sys Board → Prop} (hs : Started boot s) (hI : I s)
    (hstep : ∀ a b, Orderly a.app → I a → CoreStep boot a b → I b)
    (hothers : ∀ a b, I a → Around a b → I b) (h : CoreRun boot rounds s q t) :
    Orderly t.app ∧ I t := by
  refine (Proc.wp_reaches_within (I := fun u => Orderly u.app ∧ I u) Around.refl Around.trans
    (fun a b ha hab => ⟨hab.orderly ha.1, hstep a b ha.1 ha.2 hab⟩)
    (fun a b ha hab => ⟨hab, ha.1.others hab.board, hothers a b ha.2 hab⟩) ⟨hs.orderly, hI⟩
    (Proc.wp_rely (idling_core0Main hs.idle) (fun _ h => h) (fun _ _ h => ⟨h.1, h.2.1⟩)) h).1

/-- Every step of Core 0 from power-on is one of `CoreStep`. -/
theorem CoreRun.coreStep (hs : Started boot s) (h : CoreRun boot rounds s (.step act next) t)
    (i : NetInput CoreInput) : CoreStep boot t (act t i) := by
  obtain ⟨horderly, u, hu, hw⟩ := Proc.wp_reaches_within (I := fun u => Orderly u.app)
    Around.refl Around.trans (fun a b ha hab => CoreStep.orderly hab ha)
    (fun a b ha hab => ⟨hab, ha.others hab.board⟩) hs.orderly (idling_core0Main hs.idle) h
  exact (hw t ⟨hu, horderly⟩ i trivial).1

end Runs
end PicoDualCore
