import PicoDualCore.Core0Walk
set_option autoImplicit false

namespace PicoDualCore
open AtomicProgram MqttClient

structure Schedule where
  lastMqttPublishCompletedMs : Option Nat
  lastCommandPollMs : Nat
  utcRequestCounter : Nat
  pendingUtcRequestId : Option String
  utcRequestDeadlineMs : Option Nat
  utcLastAttemptMs : Option Nat
  utcSnapshot : Option UtcSnapshot
  watchdogArmed : Bool
  timeline : Timeline
  deriving DecidableEq

def Core0.schedule (c : Core0) : Schedule where
  lastMqttPublishCompletedMs := c.lastMqttPublishCompletedMs
  lastCommandPollMs := c.lastCommandPollMs
  utcRequestCounter := c.utcRequestCounter
  pendingUtcRequestId := c.pendingUtcRequestId
  utcRequestDeadlineMs := c.utcRequestDeadlineMs
  utcLastAttemptMs := c.utcLastAttemptMs
  utcSnapshot := c.utcSnapshot
  watchdogArmed := c.watchdogArmed
  timeline := c.timeline

structure Sideline (b b' : Board) : Prop where
  schedule : b'.core0.schedule = b.core0.schedule
  attempts : attempts b'.core0.history = attempts b.core0.history
  clock : b.nowMs ≤ b'.nowMs

theorem Housekeeping.schedule {b b' : Board} (h : Housekeeping b b') :
    b'.core0.schedule = b.core0.schedule := by
  rw [h.core0]
  rfl

theorem UpkeepStep.sideline {b b' : Board} (h : UpkeepStep b b') : Sideline b b' := by
  cases h with
  | kept h =>
    refine ⟨h.schedule, ?_, h.clock⟩
    rw [h.core0]
  | reset => exact ⟨rfl, by simp [attempts, CommandState.record, Board.withCommand, Board.command,
      CoreEvent.attempt?], Nat.le_refl _⟩

section Sidelined

variable {α β : Type}

def Sidelined (p : BoardProg α) : Prop :=
  ∀ b, p.wp (fun _ => True) (fun _ _ => True) Sideline (fun _ _ => True) (fun _ _ => True) b

theorem Upkeep.sidelined {p : BoardProg α} (h : Upkeep p) : Sidelined p := fun b =>
  Proc.wp_mono (h b) (fun _ _ hs => hs.sideline) (fun _ _ h => h) (fun _ _ h => h)

theorem sidelined_ret {a : α} : Sidelined (.ret a) := fun _ => trivial

theorem sidelined_raise {e : Exc} : Sidelined (.raise e : BoardProg α) := fun _ => trivial

theorem sidelined_seq {p : BoardProg α} {f : α → BoardProg β} (hp : Sidelined p)
    (hf : ∀ a, Sidelined (f a)) : Sidelined (p >>= f) := fun b =>
  (Proc.wp_seq _ _ _).mpr (Proc.wp_mono (hp b) (fun _ _ h => h) (fun a t _ => hf a t)
    (fun _ _ h => h))

theorem sidelined_handle {p : BoardProg α} {h : Exc → BoardProg α} (hp : Sidelined p)
    (hh : ∀ e, Sidelined (h e)) : Sidelined (p.handle h) := fun b =>
  (Proc.wp_handle _ _ _).mpr (Proc.wp_mono (hp b) (fun _ _ h => h) (fun _ _ h => h)
    (fun e t _ => hh e t))

theorem sidelined_ite {c : Prop} [Decidable c] {p q : BoardProg α} (hp : Sidelined p)
    (hq : Sidelined q) : Sidelined (if c then p else q) := by
  by_cases h : c
  · rw [if_pos h]
    exact hp
  · rw [if_neg h]
    exact hq

theorem sidelined_atomic {f : Board → CoreInput → Except Exc α × Board}
    (h : ∀ b i, Sideline b (f b i).2) : Sidelined (.atomic f) := by
  refine fun _ => Proc.wp_atomic (fun t _ i _ => ⟨h t i, ?_⟩)
  cases (f t i).1 <;> trivial

theorem sidelined_onState {f : CommandState → α × CommandState}
    (h : ∀ k, attempts (f k).2.history = attempts k.history) : Sidelined (onState f) :=
  sidelined_atomic (fun _ _ => ⟨rfl, h _, Nat.le_refl _⟩)

theorem sidelined_update {f : CommandState → CommandState}
    (h : ∀ k, attempts (f k).history = attempts k.history) : Sidelined (update f) :=
  sidelined_onState h

theorem sidelined_look {f : Board → α} : Sidelined (look f) := upkeep_look.sidelined

theorem sidelined_onDisk {p : FsProg α} : Sidelined (onDisk p) := fun _ =>
  Proc.wp_zoom (A := fun _ => True) (R := fun _ _ => True) (G := fun _ _ => True)
    (J := fun _ => True) (Q := fun _ _ => True) (X := fun _ _ => True) (fun _ _ => trivial)
    (fun _ _ _ _ => ⟨trivial, trivial⟩)
    (fun _ _ _ _ => ⟨⟨rfl, rfl, Nat.le_refl _⟩, trivial, rfl⟩)
    (fun _ _ _ _ => trivial) (fun _ _ _ _ => trivial) trivial (wp_any p _)

end Sidelined

namespace CommandState

variable (k : CommandState)

theorem attempts_record {event : CoreEvent} (h : event.attempt? = none) :
    attempts (k.record event).history = attempts k.history := by
  simp [record, attempts, h]

theorem attempts_queueResponse {response : CommandResponse} {clears : Bool}
    {note : Nat → CoreEvent} (h : ∀ uid, (note uid).attempt? = none) :
    attempts (k.queueResponse response clears note).2.history = attempts k.history := by
  unfold queueResponse
  by_cases hfull : k.queueFull = true
  · rw [if_pos hfull]
  · rw [if_neg hfull]
    simp [attempts, h]

theorem attempts_claimWireSequence (uid : Nat) :
    attempts (k.claimWireSequence uid).2.history = attempts k.history := by
  unfold claimWireSequence
  cases (k.stampsOf uid).wireSequence <;> rfl

theorem attempts_popPublished (pending : PendingResponse) :
    attempts (k.popPublished pending).history = attempts k.history := by
  unfold popPublished
  by_cases h : pending.clearsPendingReboot = true
  · rw [if_pos h]
    cases k.pendingReboot <;> simp [attempts, CoreEvent.attempt?]
  · rw [if_neg h]
    simp [attempts, CoreEvent.attempt?]

theorem attempts_substituteHead (pending : PendingResponse) :
    attempts (k.substituteHead pending).history = attempts k.history := by
  unfold substituteHead
  cases (k.stampsOf pending.uid).permanentFailure with
  | none => rfl
  | some failure =>
    by_cases h : isResponseSubstitute pending.response = true
    · simp only [h, if_true]
    · simp [h, attempts, CoreEvent.attempt?]

theorem attempts_answerUnsentReboot (request : RebootRequest) :
    attempts (k.answerUnsentReboot request).history = attempts k.history := by
  unfold answerUnsentReboot
  cases (k.stampsOf request.uid).permanentFailure with
  | none => rfl
  | some failure =>
    have hqueue := @attempts_queueResponse k
      (substituteFor request.commandId request.targeted (some COMMAND_REBOOT) failure) true
      (fun uid => .rebootSubstituted request.uid uid) (fun _ => rfl)
    revert hqueue
    dsimp only
    rcases k.queueResponse _ true _ with ⟨queued, k'⟩
    cases queued <;> exact id

end CommandState

theorem sidelined_currentUtcTimestamp {boot : Boot} : Sidelined (currentUtcTimestamp boot) := by
  refine sidelined_seq sidelined_look (fun snapshot => ?_)
  cases snapshot with
  | none => exact sidelined_ret
  | some snapshot =>
    refine sidelined_seq upkeep_uptimeMs.sidelined (fun uptime => sidelined_seq ?_ (fun _ =>
      sidelined_ret))
    cases (boot.formatUtcEpochMs (snapshot.runtimeStartEpochMs + uptime)).mapError Exc.python with
    | ok timestamp => exact sidelined_ret
    | error e => exact sidelined_raise

theorem sidelined_responsePayload {boot : Boot} {uid : Nat} {response : CommandResponse} :
    Sidelined (responsePayload boot uid response) := by
  refine sidelined_seq sidelined_look (fun frozen => ?_)
  cases frozen with
  | some payload => exact sidelined_ret
  | none =>
    refine sidelined_seq upkeep_uptimeMs.sidelined (fun uptime => ?_)
    refine sidelined_seq sidelined_currentUtcTimestamp (fun timestamp => ?_)
    refine sidelined_seq upkeep_allocate.sidelined (fun _ => ?_)
    have hfail : ∀ failure, Sidelined (update (fun k => k.recordFailure uid failure) >>= fun _ =>
        pure (none : Option Bytes)) := fun _ =>
      sidelined_seq (sidelined_update (fun _ => rfl)) (fun _ => sidelined_ret)
    cases serializeAndValidateMessage (.dict (response.message uptime timestamp)) with
    | ok payload => exact sidelined_seq (sidelined_update (fun _ => rfl)) (fun _ => sidelined_ret)
    | error e => cases e <;> exact hfail _

theorem sidelined_claimEntrySequence {ref : Nat} : Sidelined (claimEntrySequence ref) := by
  refine sidelined_atomic (fun b _ => ?_)
  cases b.outbound.sequenceOf ref <;> exact ⟨rfl, rfl, Nat.le_refl _⟩

theorem sidelined_takeEntry : Sidelined takeEntry :=
  sidelined_atomic (fun _ _ => ⟨rfl, rfl, Nat.le_refl _⟩)

theorem sidelined_completeInFlight {ref : Nat} {discarded : Bool} :
    Sidelined (completeInFlight ref discarded) :=
  sidelined_atomic (fun b _ => ⟨rfl, b.command.attempts_record rfl, Nat.le_refl _⟩)

theorem sidelined_answerDiscardedCommandResponse {entry : Entry} :
    Sidelined (answerDiscardedCommandResponse entry) := by
  refine sidelined_seq upkeep_allocate.sidelined (fun _ => ?_)
  cases discardedPayload? entry.payloadBytes with
  | none => exact sidelined_ret
  | some named => exact sidelined_update (fun k => k.attempts_queueResponse (fun _ => rfl))

theorem sidelined_machineReset {request : Option Nat} : Sidelined (machineReset request) :=
  sidelined_seq (sidelined_update (fun k => k.attempts_record rfl)) (fun _ _ => trivial)

theorem sidelined_utcSyncDue {boot : Boot} : Sidelined (utcSyncDue boot) := by
  refine sidelined_seq sidelined_look (fun snapshot => ?_)
  cases snapshot with
  | none => exact sidelined_ret
  | some snapshot => exact sidelined_seq upkeep_uptimeMs.sidelined (fun _ => sidelined_ret)

theorem sidelined_reply {response : CommandResponse} : Sidelined (reply response) :=
  sidelined_update (fun k => k.attempts_queueResponse (fun _ => rfl))

theorem sidelined_put {event : CommandEvent} : Sidelined (EventQueue.put event) := by
  have hcount : Sidelined EventQueue.countRejection :=
    sidelined_atomic (fun _ _ => ⟨rfl, rfl, Nat.le_refl _⟩)
  have happend : Sidelined (EventQueue.append event) := by
    refine sidelined_atomic (fun b i => ?_)
    dsimp only
    split
    · exact ⟨rfl, rfl, Nat.le_refl _⟩
    · split
      · exact ⟨rfl, rfl, Nat.le_refl _⟩
      · exact ⟨rfl, b.command.attempts_record rfl, Nat.le_refl _⟩
  have hreserve : Sidelined EventQueue.reserveRestored :=
    sidelined_atomic (fun _ _ => ⟨rfl, rfl, Nat.le_refl _⟩)
  have hrest : Sidelined (do
      if ← EventQueue.reserveRestored then
        if ← EventQueue.append event then pure true
        else do
          EventQueue.gcCollect
          EventQueue.countRejection
          pure false
      else do
        EventQueue.countRejection
        pure false) := by
    refine sidelined_seq hreserve (fun restored => sidelined_ite ?_ ?_)
    · refine sidelined_seq happend (fun admitted => sidelined_ite sidelined_ret ?_)
      exact sidelined_seq sidelined_look (fun _ => sidelined_seq hcount (fun _ => sidelined_ret))
    · exact sidelined_seq hcount (fun _ => sidelined_ret)
  exact sidelined_seq hreserve (fun restored => sidelined_ite
    (sidelined_seq sidelined_look (fun _ => hrest)) hrest)

theorem sidelined_catchConfig {α : Type} {p : BoardProg α} (hp : Sidelined p) :
    Sidelined (catchConfig p) := by
  refine sidelined_handle (sidelined_seq hp (fun _ => sidelined_ret)) (fun e => ?_)
  cases e with
  | config err => exact sidelined_ret
  | _ => exact sidelined_raise

section Handlers

variable {id : String} {targeted : Bool} {payload doc : PyDict}

theorem sidelined_getDetails : Sidelined (handleGetDetailsCommand id targeted payload) :=
  sidelined_ite sidelined_reply (sidelined_seq sidelined_put (fun _ =>
    sidelined_ite sidelined_reply sidelined_ret))

theorem sidelined_readConfig : Sidelined (handleReadConfigCommand id targeted payload) := by
  refine sidelined_ite sidelined_reply ?_
  refine sidelined_seq (sidelined_catchConfig sidelined_onDisk) (fun result => ?_)
  cases result with
  | error err => exact sidelined_reply
  | ok config => exact sidelined_seq sidelined_look (fun _ => sidelined_reply)

theorem sidelined_beginWrite {candidate : PyValue} : Sidelined (beginWriteCommand candidate) :=
  sidelined_handle (sidelined_catchConfig sidelined_onDisk) (fun _ =>
    sidelined_seq (sidelined_update (fun k => k.attempts_record rfl)) (fun _ => sidelined_raise))

theorem sidelined_writeConfig : Sidelined (handleWriteConfigCommand id targeted payload) := by
  refine sidelined_ite sidelined_reply ?_
  cases payload.get? "config" with
  | none => exact sidelined_reply
  | some candidate =>
    refine sidelined_ite sidelined_reply (sidelined_seq sidelined_beginWrite (fun result => ?_))
    cases result with
    | error err => exact sidelined_reply
    | ok result => exact sidelined_seq sidelined_look (fun _ => sidelined_reply)

theorem CommandState.attempts_handleReboot (k : CommandState) :
    attempts (k.handleRebootCommand id targeted payload).history = attempts k.history := by
  unfold CommandState.handleRebootCommand
  split
  · exact k.attempts_queueResponse (fun _ => rfl)
  · split
    · exact k.attempts_queueResponse (fun _ => rfl)
    · exact k.attempts_record rfl

theorem sidelined_dispatch {name : String} :
    Sidelined (answerCommand.dispatch id targeted name payload) := by
  refine sidelined_ite sidelined_reply ?_
  refine sidelined_ite (sidelined_update (fun k => k.attempts_record rfl)) ?_
  refine sidelined_ite (sidelined_update (fun k => k.attempts_handleReboot)) ?_
  refine sidelined_ite sidelined_getDetails (sidelined_ite sidelined_readConfig ?_)
  exact sidelined_ite sidelined_writeConfig sidelined_ret

theorem sidelined_answerCommand : Sidelined (answerCommand id targeted doc) := by
  refine sidelined_ite sidelined_reply ?_
  cases nonEmptyStr? (doc.getD "command") with
  | none => exact sidelined_reply
  | some name =>
    cases doc.get? "payload" with
    | none => exact sidelined_reply
    | some payload =>
      refine sidelined_ite sidelined_reply ?_
      cases payload with
      | dict payload => exact sidelined_dispatch
      | _ => exact sidelined_reply

theorem sidelined_targetMatches {boot : Boot} {target : PyValue} :
    Sidelined (targetMatches boot target) := by
  unfold targetMatches
  cases boundedTarget? target with
  | none => exact sidelined_ret
  | some name =>
    refine sidelined_ite sidelined_ret (sidelined_ite sidelined_ret ?_)
    refine sidelined_seq upkeep_sense.sidelined (fun address => ?_)
    cases address <;> exact sidelined_ret

theorem sidelined_onCommand {boot : Boot} : Sidelined (onCommand boot doc) := by
  refine sidelined_seq sidelined_targetMatches (fun found => sidelined_ite sidelined_ret ?_)
  cases boundedCommandId? (doc.getD "command_id") with
  | none => exact sidelined_ret
  | some commandId =>
    refine sidelined_seq sidelined_look (fun duplicate => sidelined_ite sidelined_ret ?_)
    refine sidelined_seq sidelined_look (fun full => sidelined_ite sidelined_ret ?_)
    exact sidelined_seq (sidelined_update (fun k => k.attempts_record rfl))
      (fun _ => sidelined_answerCommand)

end Handlers

section Run

variable {boot : Boot} {rounds : Nat} {A : NetInput CoreInput → Prop}
  {R G : Sys Board → Sys Board → Prop} {J P D : Sys Board → Prop} {s : Sys Board} {α : Type}

structure RunRule (boot : Boot) (rounds : Nat) (A : NetInput CoreInput → Prop)
    (R G : Sys Board → Sys Board → Prop) (J P D : Sys Board → Prop) : Prop
    extends LinkRule boot rounds A R G J where
  side : ∀ {α : Type} {p : BoardProg α} {s}, Sidelined p → J s → Keeping A R G J (onApp p) s
  sidePaced : ∀ {α : Type} {p : BoardProg α} {s}, Sidelined p → P s →
    Keeping A R G P (onApp p) s
  paced : ∀ {s}, P s → J s
  gate : ∀ {f : Board → Bool} {s}, (∀ b, f b = true → b.mqttPublishReady boot = true) → J s →
    (onApp (look f)).wp A R G (fun isOpen t => J t ∧ (isOpen = true → P t)) (fun _ => J) s
  publish : ∀ {tag topic message fragment s}, P s →
    (Mqtt.publishQos1 boot rounds tag topic message fragment).wp A R G (fun _ => D) (fun _ => J) s
  completed : ∀ {tag s}, D s →
    (onApp (noteMqttPublishCompleted tag)).wp A R G (fun _ => J) (fun _ => J) s
  poll : ∀ {s}, J s → Keeping A R G J (pollCommands boot) s
  utc : ∀ {s}, J s → Keeping A R G J (serviceUtc boot rounds) s

theorem keeping_ignoreTransport {p : CoreProg Unit} (h : Keeping A R G J p s) :
    Keeping A R G J (ignoreTransport p) s :=
  keeping_handle h (fun _ _ ht => keeping_ite (fun _ => ht) (fun _ => ht))

namespace RunRule

variable (rule : RunRule boot rounds A R G J P D)
include rule

theorem pacedThen {β : Type} {p : BoardProg α} {f : α → CoreProg β} (hp : Sidelined p) (hs : P s)
    (hf : ∀ a t, P t → Keeping A R G J (f a) t) : Keeping A R G J (onApp p >>= f) s :=
  (Proc.wp_seq _ _ _).mpr (Proc.wp_mono (rule.sidePaced hp hs) (fun _ _ h => h) hf
    (fun _ _ h => rule.paced h))

theorem gated {f : Board → Bool} {p q : CoreProg α}
    (hf : ∀ b, f b = true → b.mqttPublishReady boot = true) (hs : J s)
    (hp : ∀ t, P t → Keeping A R G J p t) (hq : ∀ t, J t → Keeping A R G J q t) :
    Keeping A R G J (onApp (look f) >>= fun isOpen => if isOpen then p else q) s := by
  refine (Proc.wp_seq _ _ _).mpr (Proc.wp_mono (rule.gate hf hs) (fun _ _ h => h) ?_
    (fun _ _ h => h))
  rintro isOpen t ⟨ht, hopen⟩
  exact keeping_ite (fun h => hp t (hopen h)) (fun _ => hq t ht)

theorem publishSpliced {owner : Owner} {topic : String} {body : Bytes} {sequence : Nat}
    (hs : P s) : Keeping A R G J (publishSpliced boot rounds owner topic body sequence) s := by
  refine keeping_ite (fun _ => rule.paced hs) (fun _ => ?_)
  exact (Proc.wp_seq _ _ _).mpr (Proc.wp_mono (rule.publish hs) (fun _ _ h => h)
    (fun _ _ ht => rule.completed ht) (fun _ _ h => h))

theorem publishEntry {owner : Owner} {topic : String} {body : Bytes} {claim : BoardProg Nat}
    (hclaim : Sidelined claim) (hs : P s) :
    Keeping A R G J (publishEntry boot rounds owner topic body claim) s :=
  keeping_ite (fun _ => rule.paced hs)
    (fun _ => rule.pacedThen hclaim hs (fun _ _ ht => rule.publishSpliced ht))

theorem publishCore0CommandResponse {uid sequence : Nat} {response : CommandResponse} (hs : P s) :
    Keeping A R G J (publishCore0CommandResponse boot rounds uid response sequence) s := by
  refine rule.pacedThen sidelined_responsePayload hs (fun payload t ht => ?_)
  cases payload with
  | none => exact rule.paced ht
  | some payload =>
    refine keeping_handle (keeping_seq (rule.publishEntry sidelined_ret ht) (fun _ _ hu => hu)) ?_
    intro e u hu
    cases e with
    | messageTooLarge =>
      exact keeping_seq (rule.side (sidelined_update (fun _ => rfl)) hu) (fun _ _ hv => hv)
    | _ => exact hu

theorem servicePendingCore0Response (hs : P s) :
    Keeping A R G J (servicePendingCore0Response boot rounds) s := by
  refine rule.pacedThen sidelined_look hs (fun head t ht => ?_)
  cases head with
  | none => exact rule.paced ht
  | some pending =>
    refine rule.pacedThen (sidelined_onState (fun k => k.attempts_claimWireSequence _)) ht ?_
    intro sequence t ht
    refine keeping_seq (rule.publishCore0CommandResponse ht) (fun published t ht => ?_)
    refine keeping_ite (fun _ => rule.side ?_ ht) (fun _ => rule.side ?_ ht)
    · exact sidelined_update (fun k => k.attempts_popPublished pending)
    · exact sidelined_update (fun k => k.attempts_substituteHead pending)

theorem serviceResponses (hs : J s) : Keeping A R G J (serviceResponses boot rounds) s := by
  refine rule.gated ?_ hs (fun t ht => ?_) (fun _ ht => ht)
  · intro b hb
    simp only [Bool.and_eq_true] at hb
    exact hb.2
  · exact keeping_ignoreTransport (rule.servicePendingCore0Response ht)

theorem publishRebootAcknowledgement {request : RebootRequest} (hs : P s) :
    Keeping A R G J (publishRebootAcknowledgement boot rounds request) s := by
  refine keeping_handle ?_ (fun _ _ ht => keeping_ite (fun _ => ht) (fun _ => ht))
  refine rule.pacedThen (sidelined_onState (fun k => k.attempts_claimWireSequence _)) hs ?_
  exact fun _ _ ht => keeping_seq (rule.publishCore0CommandResponse ht) (fun _ _ hu => hu)

theorem performReboot (hs : P s) : Keeping A R G J (performReboot boot rounds) s := by
  refine rule.pacedThen sidelined_look hs (fun request t ht => ?_)
  cases request with
  | none => exact rule.paced ht
  | some request =>
    refine rule.pacedThen sidelined_look ht (fun busy t ht => ?_)
    refine keeping_ite (fun _ => rule.paced ht) (fun _ => keeping_ite (fun _ => rule.paced ht) ?_)
    intro _
    refine keeping_seq (rule.publishRebootAcknowledgement ht) (fun published t ht => ?_)
    cases published with
    | none => exact ht
    | some published =>
      cases published with
      | false => exact rule.side (sidelined_update (fun k => k.attempts_answerUnsentReboot _)) ht
      | true =>
        refine keeping_seq (rule.side (sidelined_update (fun k => k.attempts_record rfl)) ht) ?_
        intro _ t ht
        exact keeping_seq (rule.upkeep upkeep_sleepSliced ht)
          (fun _ _ hu => rule.side sidelined_machineReset hu)

theorem rebootIfDue (hs : J s) : Keeping A R G J (rebootIfDue boot rounds) s := by
  refine rule.gated ?_ hs (fun t ht => rule.performReboot ht) (fun _ ht => ht)
  intro b hb
  simp only [Bool.and_eq_true] at hb
  exact hb.2

theorem serviceEntry {entry : Entry} (hs : P s) :
    Keeping A R G J (serviceEntry boot rounds entry) s := by
  have hpublish : Keeping A R G J (publishQueued boot rounds entry) s := by
    refine keeping_handle (keeping_seq (rule.publishEntry sidelined_claimEntrySequence hs)
      (fun _ _ ht => ht)) (fun e t ht => ?_)
    cases e <;> exact ht
  refine keeping_seq hpublish (fun publication t ht => ?_)
  cases publication with
  | completed => exact rule.side sidelined_completeInFlight ht
  | tooLarge =>
    refine keeping_seq (rule.side sidelined_completeInFlight ht) (fun _ u hu => ?_)
    exact keeping_ite (fun _ => rule.side sidelined_answerDiscardedCommandResponse hu)
      (fun _ => hu)
  | failed => exact ht

theorem pingIfDue (hs : J s) : Keeping A R G J (do
    if ← onApp (Mqtt.pingDue boot) then ignoreTransport (Mqtt.ping boot rounds)) s := by
  refine keeping_seq (rule.upkeep upkeep_look hs) (fun due t ht => ?_)
  exact keeping_ite (fun _ => keeping_ignoreTransport (rule.mqttPing ht)) (fun _ => ht)

theorem serviceOutbound (hs : J s) : Keeping A R G J (serviceOutbound boot rounds) s := by
  refine keeping_seq (rule.upkeep upkeep_look hs) (fun connected s hs => ?_)
  refine keeping_ite (fun _ => ?_) (fun _ => hs)
  refine rule.gated (fun _ h => h) hs (fun t ht => ?_) (fun t ht => rule.pingIfDue ht)
  refine rule.pacedThen sidelined_takeEntry ht (fun entry t ht => ?_)
  cases entry with
  | some entry => exact rule.serviceEntry ht
  | none => exact rule.pingIfDue (rule.paced ht)

theorem runOnce (hs : J s) : Keeping A R G J (runOnce boot rounds) s := by
  refine keeping_seq (rule.upkeep upkeep_serviceWait hs) (fun _ s hs => ?_)
  refine keeping_seq (rule.rebootIfDue hs) (fun _ s hs => ?_)
  refine keeping_seq (rule.recoverNetworkIfNeeded hs) (fun _ s hs => ?_)
  refine keeping_seq (rule.poll hs) (fun _ s hs => ?_)
  refine keeping_seq (rule.rebootIfDue hs) (fun _ s hs => ?_)
  refine keeping_seq (rule.serviceResponses hs) (fun _ s hs => ?_)
  refine keeping_seq (rule.serviceOutbound hs) (fun _ s hs => ?_)
  refine keeping_seq (rule.upkeep upkeep_publishNetworkSnapshot hs) (fun _ s hs => ?_)
  exact keeping_seq (rule.utc hs) (fun _ _ ht => rule.upkeep upkeep_sleepMs ht)

theorem runLoop {turns : Nat} (hs : J s) : Keeping A R G J (runLoop boot rounds turns) s := by
  induction turns generalizing s with
  | zero => trivial
  | succ turns ih => exact keeping_seq (rule.runOnce hs) (fun _ _ ht => ih ht)

end RunRule
end Run
end PicoDualCore
