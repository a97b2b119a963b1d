import PicoDualCore.ConfigRecovery
import PicoDualCore.Core0Schedule
set_option autoImplicit false

/-!
Every step of Core 0, from power-on, is a step of its schedule: what each step may do to the stamps
and to the pending time request, and that a publish begins behind an open gate only.
-/

namespace PicoDualCore
open AtomicProgram MqttClient

/-- A message that answers the time request `requestId`, well-formed. -/
structure UtcAnswer (boot : Boot) (topic payload : Bytes) (requestId : String) (epoch : Int)
    (timestamp : String) : Prop where
  topic : (utf8Decode topic).map String.ofList = some boot.config.topicInfoResponse
  doc : ∃ doc body : PyDict, loadsBytes payload = .ok (.dict doc) ∧
    (∃ n, doc.getD "message_schema_version" = .int n ∧ n = MESSAGE_SCHEMA_VERSION) ∧
    (doc.getD "message_type").isText "info_response" = true ∧
    ((doc.getD "source").isText "server" = true ∨
      (doc.getD "source").isText boot.config.source = true) ∧
    (doc.getD "target").isText boot.config.source = true ∧
    (doc.getD "request_type").isText "utc_time" = true ∧
    (doc.getD "request_id").isText requestId = true ∧
    doc.getD "payload" = .dict body ∧ utcEpoch? body = some epoch
  epoch : boot.formatUtcEpochMs epoch = .ok timestamp

def Schedule.clearPending (c : Schedule) : Schedule :=
  { c with pendingUtcRequestId := none, utcRequestDeadlineMs := none }

/-- The steps that neither acknowledge a publish nor begin or end a time request. `last` is the
latest message that has been delivered. -/
inductive CalmStep (boot : Boot) (last : Option (Bytes × Bytes)) (nowMs : Nat) (c : Schedule) :
    Schedule → Prop where
  | same : CalmStep boot last nowMs c c
  | began : CalmStep boot last nowMs c { c with
      timeline := { c.timeline with unnoted := false } }
  | completed (h : c.timeline.unnoted = true) : CalmStep boot last nowMs c { c with
      lastMqttPublishCompletedMs := some (nowMs % TICKS_PERIOD)
      timeline := { c.timeline with publishCompletedMs := some nowMs, unnoted := false } }
  | polled (atMs : Nat) (h : atMs ≤ nowMs) : CalmStep boot last nowMs c { c with
      lastCommandPollMs := atMs % TICKS_PERIOD
      timeline := { c.timeline with commandPollMs := atMs } }
  | cleared : CalmStep boot last nowMs c c.clearPending
  | refused (requestId : String) (h : c.pendingUtcRequestId = some requestId) :
      CalmStep boot last nowMs c { c.clearPending with
        utcLastAttemptMs := some (ticksAdd (nowMs % TICKS_PERIOD)
          ((UTC_PROMPT_RETRY_DELAY_MS : Int) - UTC_RETRY_INTERVAL_MS))
        timeline := { c.timeline with
          utcAttemptMs := some (nowMs + ((UTC_PROMPT_RETRY_DELAY_MS : Int) -
            UTC_RETRY_INTERVAL_MS)) } }
  | answered (topic payload : Bytes) (requestId timestamp : String) (epoch sync : Int)
      (hlast : last = some (topic, payload)) (hpending : c.pendingUtcRequestId = some requestId)
      (h : UtcAnswer boot topic payload requestId epoch timestamp) :
      CalmStep boot last nowMs c { c.clearPending with
        utcSnapshot := some { timestamp, utcEpochMs := epoch, syncUptimeMs := sync,
                              runtimeStartEpochMs := epoch - sync } }

inductive ScheduleStep (boot : Boot) (last : Option (Bytes × Bytes)) (nowMs : Nat)
    (c : Schedule) : Schedule → Prop where
  | calm {c' : Schedule} (h : CalmStep boot last nowMs c c') : ScheduleStep boot last nowMs c c'
  | acknowledged : ScheduleStep boot last nowMs c { c with
      timeline := c.timeline.acknowledge nowMs }
  | armed (h : c.pendingUtcRequestId = none) : ScheduleStep boot last nowMs c { c with
      utcRequestCounter := c.utcRequestCounter + 1
      pendingUtcRequestId := some s!"{boot.runtimeId}_{c.utcRequestCounter + 1}"
      timeline := { c.timeline with utcSending := true, utcAcknowledged := false } }
  | disarmed (h : c.timeline.utcSending = true) (hack : c.timeline.utcAcknowledged = false) :
      ScheduleStep boot last nowMs c { c with
        pendingUtcRequestId := none
        timeline := { c.timeline with utcSending := false } }
  | sent (h : c.timeline.utcSending = true) (hack : c.timeline.utcAcknowledged = true) :
      ScheduleStep boot last nowMs c { c with
        utcLastAttemptMs := some (nowMs % TICKS_PERIOD)
        utcRequestDeadlineMs := some (ticksAdd (nowMs % TICKS_PERIOD)
          (boot.config.mqttBrokerResponseTimeoutSec * 1000 : Nat))
        timeline := { c.timeline with utcAttemptMs := some nowMs, utcSending := false } }

def Schedule.Paced (boot : Boot) (c : Schedule) (nowMs : Nat) : Prop :=
  ∀ pubackMs, c.timeline.pubackMs = some pubackMs →
    pubackMs + boot.config.mqttOutboundPublishDelayMs ≤ nowMs

def Network.lastDelivery (n : Network) : Option (Bytes × Bytes) := (deliveries n.events).getLast?

structure Begins (boot : Boot) (s t : Sys Board) (a : Attempt) : Prop where
  attempts : attempts t.app.core0.history = attempts s.app.core0.history ++ [a]
  startedMs : a.startedMs = s.app.nowMs
  paced : s.app.core0.schedule.Paced boot s.app.nowMs
  unnoted : t.app.core0.timeline.unnoted = false

/-- One step of Core 0, on its schedule. -/
structure Scheduled (boot : Boot) (s t : Sys Board) : Prop where
  schedule : ScheduleStep boot s.net.lastDelivery s.app.nowMs s.app.core0.schedule
    t.app.core0.schedule
  attempts : attempts t.app.core0.history = attempts s.app.core0.history ∨ ∃ a, Begins boot s t a
  clock : s.app.nowMs ≤ t.app.nowMs

def Board.watched (b : Board) : Board := { b with core0 := { b.core0 with watchdogArmed := true } }

/-- A step of Core 0 from power-on on: the watchdog is armed at the end of startup. -/
inductive MainStep (boot : Boot) (s t : Sys Board) : Prop where
  | scheduled (h : Scheduled boot s t)
  | watched (h : t = { s with app := s.app.watched })

structure CalmBoard (boot : Boot) (last : Option (Bytes × Bytes)) (b b' : Board) : Prop where
  schedule : CalmStep boot last b.nowMs b.core0.schedule b'.core0.schedule
  attempts : attempts b'.core0.history = attempts b.core0.history
  clock : b.nowMs ≤ b'.nowMs

theorem Sideline.calm {boot : Boot} {last : Option (Bytes × Bytes)} {b b' : Board}
    (h : Sideline b b') : CalmBoard boot last b b' :=
  ⟨h.schedule ▸ .same, h.attempts, h.clock⟩

section Callback

variable {boot : Boot} {α : Type} {last : Option (Bytes × Bytes)} {b : Board}

abbrev Calming (boot : Boot) (last : Option (Bytes × Bytes)) (Q : α → Board → Prop)
    (p : BoardProg α) (b : Board) : Prop :=
  Boarding (fun _ => True) (CalmBoard boot last) Q (fun _ _ => True) p b

theorem Sidelined.calming {p : BoardProg α} (h : Sidelined p) :
    Calming boot last (fun _ _ => True) p b :=
  Proc.wp_rely (Proc.wp_mono (h b) (fun _ _ hs => hs.calm) (fun _ _ h => h) (fun _ _ h => h))
    (fun _ h => h) (fun _ _ _ => trivial)

theorem Sidelined.calmingIn {P : Board → Prop} {p : BoardProg α} (h : Sidelined p)
    (hP : Undisturbed P) (hside : ∀ b b', Sideline b b' → P b → P b') (hb : P b) :
    Calming boot last (fun _ => P) p b := by
  have hrely : p.wp (fun _ => True) Others Sideline (fun _ _ => True) (fun _ _ => True) b :=
    Proc.wp_rely (h b) (fun _ h => h) (fun _ _ _ => trivial)
  exact Proc.wp_mono (Proc.wp_invariant hrely hb hP hside) (fun _ _ hs => hs.1.calm)
    (fun _ _ h => h.2) (fun _ _ _ => trivial)

def Awaiting (requestId : String) (b : Board) : Prop :=
  b.core0.pendingUtcRequestId = some requestId

theorem awaiting_settled {requestId : String} : Undisturbed (Awaiting requestId) :=
  fun _ _ h hb => (congrArg Core0.pendingUtcRequestId h.core0).trans hb

theorem calming_reachableFailure {requestId : String} (hb : Awaiting requestId b) :
    Calming boot last (fun _ _ => True) utcNoteReachableFailure b :=
  boarding_atomic awaiting_settled hb (fun _ _ _ ht =>
    ⟨⟨.refused requestId ht, rfl, Nat.le_refl _⟩, fun _ _ => trivial, fun _ _ => trivial⟩)

theorem calming_acceptUtc {topic payload : Bytes} {requestId : String} {epoch : Int}
    (hlast : last = some (topic, payload)) (hb : Awaiting requestId b)
    (h : ∀ timestamp, boot.formatUtcEpochMs epoch = .ok timestamp →
      UtcAnswer boot topic payload requestId epoch timestamp) :
    Calming boot last (fun _ _ => True) (acceptUtc boot epoch) b := by
  unfold acceptUtc
  cases hformat : boot.formatUtcEpochMs epoch with
  | error e => exact calming_reachableFailure hb
  | ok timestamp =>
    refine boarding_seq (Q := fun _ => Awaiting requestId) ?_ (fun sync t ht => ?_)
    · exact boarding_atomic awaiting_settled hb (fun t _ _ ht =>
        ⟨⟨.same, rfl, Nat.le_refl _⟩, fun _ _ => ht, fun _ _ => trivial⟩)
    · refine boarding_atomic awaiting_settled ht (fun u _ _ hu => ⟨⟨?_, rfl, Nat.le_refl _⟩,
        fun _ _ => trivial, fun _ _ => trivial⟩)
      exact .answered topic payload requestId timestamp epoch sync hlast hu (h timestamp hformat)

theorem calming_infoResponse {topic payload : Bytes} {doc : PyDict}
    (hlast : last = some (topic, payload))
    (htopic : (utf8Decode topic).map String.ofList = some boot.config.topicInfoResponse)
    (hshape : loadsBytes payload = .ok (.dict doc))
    (hversion : ∃ n, doc.getD "message_schema_version" = .int n ∧ n = MESSAGE_SCHEMA_VERSION)
    (htype : (doc.getD "message_type").isText "info_response" = true) :
    Calming boot last (fun _ _ => True) (handleInfoResponse boot doc) b := by
  unfold handleInfoResponse
  refine boarding_ite (fun _ => trivial) (fun hsource => boarding_ite (fun _ => trivial) ?_)
  intro htarget
  refine boarding_ite (fun _ => trivial) (fun hkind => ?_)
  refine boarding_seq (Q := fun pending t => t.core0.pendingUtcRequestId = pending) ?_ ?_
  · exact Proc.wp_atomic (fun _ _ _ _ => ⟨⟨.same, rfl, Nat.le_refl _⟩, rfl⟩)
  intro pending t ht
  cases pending with
  | none => trivial
  | some requestId =>
    refine boarding_ite (fun _ => trivial) (fun hrequest => ?_)
    cases hbody : doc.getD "payload" with
    | dict body =>
      dsimp only
      cases hepoch : utcEpoch? body with
      | none => exact calming_reachableFailure ht
      | some epoch =>
        refine calming_acceptUtc hlast ht (fun timestamp hformat => ⟨htopic, ?_, hformat⟩)
        refine ⟨doc, body, hshape, hversion, htype, ?_, ?_, ?_, ?_, hbody, hepoch⟩
        · exact (Bool.or_eq_true _ _).mp (by
            simpa only [Bool.not_eq_true', Bool.not_eq_false] using hsource)
        · simpa using htarget
        · simpa using hkind
        · simpa using hrequest
    | _ => exact calming_reachableFailure ht

theorem calming_message (topic payload : Bytes) (hlast : last = some (topic, payload)) :
    Calming boot last (fun _ _ => True) (onMqttMessage boot topic payload) b := by
  unfold onMqttMessage
  refine boarding_seq (Q := fun parsed _ => ∀ name doc, parsed = some (name, doc) →
    (utf8Decode topic).map String.ofList = some name ∧ loadsBytes payload = .ok doc) ?_ ?_
  · refine boarding_atomic (P := fun _ => True) (fun _ _ _ h => h) trivial (fun t i _ _ => ?_)
    by_cases hm : i.memoryError = true
    · simp only [hm, if_true]
      exact ⟨⟨.same, rfl, Nat.le_refl _⟩, by simp, fun _ _ => trivial⟩
    · simp only [hm, Bool.false_eq_true, if_false]
      split
      · next htopic hdoc =>
        refine ⟨⟨.same, rfl, Nat.le_refl _⟩, fun parsed he => ?_, fun _ _ => trivial⟩
        cases he
        rintro name doc ⟨⟩
        exact ⟨by simp [htopic], hdoc⟩
      · refine ⟨⟨.same, rfl, Nat.le_refl _⟩, fun parsed he => ?_, fun _ _ => trivial⟩
        cases he
        simp
  · intro parsed t hparsed
    split
    · next name doc =>
      obtain ⟨htopic, hshape⟩ := hparsed _ _ rfl
      split
      · next version hversion =>
        refine boarding_ite (fun _ => trivial) (fun hv => boarding_ite (fun hname => ?_) ?_)
        · refine boarding_ite (fun htype => ?_) (fun _ => trivial)
          refine boarding_seq (calming_infoResponse hlast (hname ▸ htopic) hshape
            ⟨version, hversion, by simpa using hv⟩ htype) (fun _ _ _ => trivial)
        · intro _
          refine boarding_ite (fun _ => trivial) (fun _ => boarding_ite (fun _ => trivial) ?_)
          exact fun _ => sidelined_onCommand.calming
      · trivial
    · trivial

end Callback

structure Lasting (boot : Boot) (K : Schedule → Nat → Prop) : Prop where
  later : ∀ {c : Schedule} {n n' : Nat}, n ≤ n' → K c n → K c n'
  calm : ∀ {last : Option (Bytes × Bytes)} {n : Nat} {c c' : Schedule},
    CalmStep boot last n c c' → K c n → K c' n

def Now (K : Schedule → Nat → Prop) (b : Board) : Prop := K b.core0.schedule b.nowMs

structure Clocked (c : Schedule) (nowMs : Nat) : Prop where
  completed : c.lastMqttPublishCompletedMs =
    c.timeline.publishCompletedMs.map (fun atMs => atMs % TICKS_PERIOD)
  completedPast : ∀ atMs, c.timeline.publishCompletedMs = some atMs → atMs ≤ nowMs
  pubackPast : ∀ atMs, c.timeline.pubackMs = some atMs → atMs ≤ nowMs
  poll : c.lastCommandPollMs = c.timeline.commandPollMs % TICKS_PERIOD
  pollPast : c.timeline.commandPollMs ≤ nowMs
  attempt : c.utcLastAttemptMs =
    c.timeline.utcAttemptMs.map (fun atMs : Int => (atMs % TICKS_PERIOD).toNat)
  attemptPast : ∀ atMs, c.timeline.utcAttemptMs = some atMs → atMs ≤ nowMs

def Schedule.Stamped (c : Schedule) : Prop := ∀ pubackMs, c.timeline.pubackMs = some pubackMs →
  ∃ completedMs, c.timeline.publishCompletedMs = some completedMs ∧ pubackMs ≤ completedMs

theorem Clocked.later {c : Schedule} {n n' : Nat} (h : Clocked c n) (hle : n ≤ n') :
    Clocked c n' where
  completed := h.completed
  completedPast := fun atMs hat => Nat.le_trans (h.completedPast atMs hat) hle
  pubackPast := fun atMs hat => Nat.le_trans (h.pubackPast atMs hat) hle
  poll := h.poll
  pollPast := Nat.le_trans h.pollPast hle
  attempt := h.attempt
  attemptPast := fun atMs hat => Int.le_trans (h.attemptPast atMs hat) (Int.ofNat_le.mpr hle)

section

variable {boot : Boot} {last : Option (Bytes × Bytes)} {n : Nat} {c c' : Schedule}

theorem ticksAdd_int (n : Nat) (delta : Int) :
    ticksAdd (n % TICKS_PERIOD) delta = (((n : Int) + delta) % TICKS_PERIOD).toNat := by
  unfold ticksAdd TICKS_PERIOD
  omega

theorem CalmStep.clocked (h : CalmStep boot last n c c') (hc : Clocked c n) : Clocked c' n := by
  cases h with
  | completed =>
    refine { hc with completed := rfl, completedPast := fun atMs hat => ?_ }
    cases hat
    exact Nat.le_refl _
  | polled atMs hpast => exact { hc with poll := rfl, pollPast := hpast }
  | refused requestId =>
    refine { hc with attempt := ?_, attemptPast := fun atMs hat => ?_ }
    · simp only [Option.map_some, ticksAdd_int]
    · cases hat
      simp only [UTC_PROMPT_RETRY_DELAY_MS, UTC_RETRY_INTERVAL_MS]
      omega
  | _ => exact { hc with }

/-- Every step of the schedule keeps the stamps true. -/
theorem ScheduleStep.clocked (h : ScheduleStep boot last n c c') (hc : Clocked c n) :
    Clocked c' n := by
  cases h with
  | calm h => exact h.clocked hc
  | acknowledged =>
    refine { hc with pubackPast := fun atMs hat => ?_ }
    cases hat
    exact Nat.le_refl _
  | sent =>
    refine { hc with attempt := ?_, attemptPast := fun atMs hat => ?_ }
    · simp only [Option.map_some, Option.some.injEq]
      omega
    · cases hat
      exact Int.le_refl _
  | _ => exact { hc with }

theorem ScheduleStep.watchdogArmed (h : ScheduleStep boot last n c c') :
    c'.watchdogArmed = c.watchdogArmed := by
  cases h with
  | calm h => cases h <;> rfl
  | _ => rfl

theorem CalmStep.stamped (h : CalmStep boot last n c c') (hc : Clocked c n) (hs : c.Stamped) :
    c'.Stamped := by
  cases h with
  | completed => exact fun pubackMs hp => ⟨n, rfl, hc.pubackPast pubackMs hp⟩
  | _ => exact hs

theorem CalmStep.paced (h : CalmStep boot last n c c') (hp : c.Paced boot n) : c'.Paced boot n := by
  cases h <;> exact hp

end

def Acknowledges (K L : Schedule → Nat → Prop) : Prop :=
  ∀ {c : Schedule} {n : Nat}, K c n → L { c with timeline := c.timeline.acknowledge n } n

structure Standing (boot : Boot) (K : Schedule → Nat → Prop) : Prop extends Lasting boot K where
  acknowledged : Acknowledges K K

structure Unnoted (K : Schedule → Nat → Prop) (c : Schedule) (n : Nat) : Prop where
  clocked : Clocked c n
  kept : K c n
  unnoted : c.timeline.unnoted = true

structure Noted (K : Schedule → Nat → Prop) (c : Schedule) (n : Nat) : Prop where
  clocked : Clocked c n
  kept : K c n
  stamped : c.Stamped

def Open (boot : Boot) (K : Schedule → Nat → Prop) (c : Schedule) (n : Nat) : Prop :=
  Noted K c n ∧ c.Paced boot n

def AnyTime (_ : Schedule) (_ : Nat) : Prop := True

def NonePending (c : Schedule) (_ : Nat) : Prop := c.pendingUtcRequestId = none

def Sending (acknowledged : Bool) (c : Schedule) (_ : Nat) : Prop :=
  c.timeline.utcSending = true ∧ c.timeline.utcAcknowledged = acknowledged

section

variable {boot : Boot} {K : Schedule → Nat → Prop}

theorem standing_anyTime : Standing boot AnyTime :=
  ⟨⟨fun _ _ => trivial, fun _ _ => trivial⟩, fun _ => trivial⟩

theorem standing_nonePending : Standing boot NonePending := by
  refine ⟨⟨fun _ h => h, fun h hc => ?_⟩, fun h => h⟩
  cases h with
  | cleared => rfl
  | refused => rfl
  | answered => rfl
  | _ => exact hc

theorem lasting_sending {acknowledged : Bool} : Lasting boot (Sending acknowledged) :=
  ⟨fun _ h => h, fun h hc => by cases h <;> exact hc⟩

theorem sending_acknowledges : Acknowledges (Sending false) (Sending true) := by
  intro c n h
  exact ⟨h.1, by simp [Timeline.acknowledge, h.1]⟩

theorem Lasting.unnoted_later (hK : Lasting boot K) {c : Schedule} {n n' : Nat} (hle : n ≤ n')
    (h : Unnoted K c n) : Unnoted K c n' :=
  ⟨h.clocked.later hle, hK.later hle h.kept, h.unnoted⟩

theorem Lasting.noted (hK : Lasting boot K) : Lasting boot (Noted K) :=
  ⟨fun hle h => ⟨h.clocked.later hle, hK.later hle h.kept, h.stamped⟩,
    fun hstep h => ⟨hstep.clocked h.clocked, hK.calm hstep h.kept,
      hstep.stamped h.clocked h.stamped⟩⟩

theorem Lasting.isOpen (hK : Lasting boot K) : Lasting boot (Open boot K) :=
  ⟨fun hle h => ⟨hK.noted.later hle h.1, fun atMs hat => Nat.le_trans (h.2 atMs hat) hle⟩,
    fun hstep h => ⟨hK.noted.calm hstep h.1, hstep.paced h.2⟩⟩

end

section Rules

variable {boot : Boot} {rounds : Nat} {A : NetInput CoreInput → Prop}
  {K L : Schedule → Nat → Prop} {s t : Sys Board} {b : Board} {α : Type}

theorem settled_of_later (hK : ∀ {c : Schedule} {n n' : Nat}, n ≤ n' → K c n → K c n') :
    Undisturbed (Now K) := by
  intro b b' h hb
  unfold Now
  rw [h.core0]
  exact hK h.clock hb

theorem Lasting.settled (hK : Lasting boot K) : Undisturbed (Now K) := settled_of_later hK.later

theorem Lasting.around (hK : Lasting boot K) (h : Around s t) (hs : Now K s.app) : Now K t.app :=
  hK.settled _ _ h.board hs

theorem CalmBoard.keeps (hK : Lasting boot K) {last : Option (Bytes × Bytes)} {b' : Board}
    (h : CalmBoard boot last b b') (hb : Now K b) : Now K b' :=
  hK.later h.clock (hK.calm h.schedule hb)

abbrev Holding (boot : Boot) (A : NetInput CoreInput → Prop) (K : Schedule → Nat → Prop)
    (p : CoreProg α) (s : Sys Board) : Prop :=
  Keeping A Around (Scheduled boot) (fun t => Now K t.app) p s

theorem scheduled_onApp (hK : Lasting boot K) {p : BoardProg α} {Q : α → Board → Prop}
    (hp : Calming boot s.net.lastDelivery Q p s.app) (hs : Now K s.app) :
    (onApp p).wp A Around (Scheduled boot) (fun a t => Now K t.app ∧ Q a t.app)
      (fun _ t => Now K t.app) s := by
  refine Proc.wp_zoom (J := fun t => Now K t.app ∧ t.net.lastDelivery = s.net.lastDelivery)
    (fun _ _ => trivial) ?_ ?_ ?_ ?_ ⟨hs, rfl⟩ hp
  · rintro t u ⟨ht, hlast⟩ hr
    refine ⟨hr.board, hK.around hr ht, ?_⟩
    rw [← hlast, Network.lastDelivery, Network.lastDelivery, hr.peer.events]
  · rintro t b ⟨ht, hlast⟩ hcalm
    refine ⟨⟨?_, .inl hcalm.attempts, hcalm.clock⟩, ⟨hcalm.keeps hK ht, hlast⟩, rfl⟩
    rw [hlast]
    exact .calm hcalm.schedule
  · exact fun _ _ ht hQ => ⟨ht.1, hQ⟩
  · exact fun _ _ ht _ => ht.1

theorem holding_calming (hK : Lasting boot K) {p : BoardProg α}
    (hp : Calming boot s.net.lastDelivery (fun _ _ => True) p s.app) (hs : Now K s.app) :
    Holding boot A K (onApp p) s :=
  Proc.wp_mono (scheduled_onApp hK hp hs) (fun _ _ h => h) (fun _ _ h => h.1) (fun _ _ h => h)

theorem holding_sidelined (hK : Lasting boot K) {p : BoardProg α} (hp : Sidelined p)
    (hs : Now K s.app) : Holding boot A K (onApp p) s := holding_calming hK hp.calming hs

theorem holding_upkeep (hK : Lasting boot K) {p : BoardProg α} (hp : Upkeep p)
    (hs : Now K s.app) : Holding boot A K (onApp p) s := holding_sidelined hK hp.sidelined hs

theorem sessionRule_lasting (hK : Lasting boot K) :
    SessionRule (Mqtt.host boot) A Around (Scheduled boot) (fun t => Now K t.app) where
  stable := hK.around
  step := fun hs _ => ⟨⟨.calm .same, .inl rfl, Nat.le_refl _⟩, hs⟩
  hook := holding_upkeep hK upkeep_serviceWait
  callback := fun topic payload hs hlast =>
    holding_calming hK (calming_message topic payload hlast) hs
  session := fun hs _ => ⟨⟨.calm .same, .inl rfl, Nat.le_refl _⟩, hs⟩

theorem linkRule_lasting (hK : Lasting boot K) :
    LinkRule boot rounds A Around (Scheduled boot) (fun t => Now K t.app) :=
  LinkRule.ofSession (sessionRule_lasting hK) (fun hp hs => holding_upkeep hK hp hs)

theorem ticksDiff_le {a b : Nat} (h : a ≤ b) :
    ticksDiff (b % TICKS_PERIOD) (a % TICKS_PERIOD) ≤ (b : Int) - a := by
  unfold ticksDiff TICKS_PERIOD
  omega

/-- An open gate means that the interval is over, whatever the tick counter has done. -/
theorem paced_of_ready (h : Now (Noted K) b) (hready : b.mqttPublishReady boot = true) :
    b.core0.schedule.Paced boot b.nowMs := by
  intro pubackMs hpuback
  obtain ⟨completedMs, hcompleted, hle⟩ := h.stamped pubackMs hpuback
  have hpast := h.clocked.completedPast completedMs hcompleted
  have hstamp : b.core0.lastMqttPublishCompletedMs = some (completedMs % TICKS_PERIOD) := by
    have hmap := h.clocked.completed
    rw [hcompleted] at hmap
    exact hmap
  have hdiff := ticksDiff_le hpast
  unfold Board.mqttPublishReady at hready
  rw [hstamp] at hready
  simp only [Bool.or_eq_true, beq_iff_eq, decide_eq_true_eq] at hready
  rcases hready with hzero | hdelay
  · omega
  · unfold Board.ticksMs at hdelay
    omega

theorem calming_gate {f : Board → Bool} {last : Option (Bytes × Bytes)} (hK : Lasting boot K)
    (hf : ∀ b, f b = true → b.mqttPublishReady boot = true) (hb : Now (Noted K) b) :
    Calming boot last (fun isOpen t => isOpen = true → t.core0.schedule.Paced boot t.nowMs)
      (look f) b :=
  boarding_look hK.noted.settled hb (fun t ht =>
    ⟨⟨.same, rfl, Nat.le_refl _⟩, fun hopen => paced_of_ready ht (hf t hopen)⟩)

theorem scheduled_gate {f : Board → Bool} (hK : Lasting boot K)
    (hf : ∀ b, f b = true → b.mqttPublishReady boot = true) (hs : Now (Noted K) s.app) :
    (onApp (look f)).wp A Around (Scheduled boot)
      (fun isOpen t => Now (Noted K) t.app ∧ (isOpen = true → Now (Open boot K) t.app))
      (fun _ t => Now (Noted K) t.app) s :=
  Proc.wp_mono (scheduled_onApp hK.noted (calming_gate hK hf hs) hs) (fun _ _ h => h)
    (fun _ _ h => ⟨h.1, fun hopen => ⟨h.1, h.2 hopen⟩⟩) (fun _ _ h => h)

theorem scheduled_wait {turns : Nat} (hK : Lasting boot K) (hs : Now (Noted K) s.app) :
    (onApp (waitForMqttPublishSlot boot turns)).wp A Around (Scheduled boot)
      (fun _ t => Now (Open boot K) t.app) (fun _ t => Now (Noted K) t.app) s := by
  have hwait : ∀ (turns : Nat) (b : Board), Now (Noted K) b →
      Calming boot s.net.lastDelivery (fun _ t => t.core0.schedule.Paced boot t.nowMs)
        (waitForMqttPublishSlot boot turns) b := by
    intro turns
    induction turns with
    | zero => exact fun _ _ => trivial
    | succ turns ih =>
      intro b hb
      refine boarding_seq (Q := fun isOpen t => Now (Noted K) t ∧
        (isOpen = true → t.core0.schedule.Paced boot t.nowMs)) ?_ ?_
      · exact boarding_look hK.noted.settled hb (fun t ht =>
          ⟨⟨.same, rfl, Nat.le_refl _⟩, ht, fun hopen => paced_of_ready ht hopen⟩)
      · rintro isOpen t ⟨ht, hopen⟩
        refine boarding_ite hopen (fun _ => ?_)
        refine boarding_seq (Q := fun _ => Now (Noted K)) ?_ (fun _ u hu => ih u hu)
        refine boarding_atomic hK.noted.settled ht (fun u _ _ hu => ?_)
        exact ⟨⟨.same, rfl, Nat.le_add_right _ _⟩,
          fun _ _ => hK.noted.later (Nat.le_add_right _ _) hu, fun _ _ => trivial⟩
  exact Proc.wp_mono (scheduled_onApp hK.noted (hwait turns s.app hs) hs) (fun _ _ h => h)
    (fun _ _ h => h) (fun _ _ h => h)

theorem holding_clientPublish (hK : Lasting boot K) {owner : Option Owner} {topic : List Char}
    {message : Payload} {packetId timeoutMs : Option Nat} {fragment : Option Bytes}
    (hs : Now K s.app) : Holding boot A K (publish (Mqtt.host boot) rounds owner topic message
      packetId timeoutMs fragment) s := by
  have hrule := (sessionRule_lasting (A := A) hK).toClientRule
  refine hrule.publish (fun bytes t ht => keeping_seq (hrule.service ht) (fun _ u hu => ?_)) hs
  exact keeping_onNet (fun hr => hK.around hr hu)
    (fun _ v hv => ⟨⟨.calm .same, .inl rfl, Nat.le_refl _⟩, hv⟩)

theorem holding_attempting (hK : Lasting boot K) {tag : Option (Owner × Nat)} {topic : String}
    {message : Payload} {fragment : Option Bytes} (hs : Now (Open boot K) s.app) :
    Holding boot A (Open boot K) (onApp (Mqtt.attempting tag topic message fragment)) s := by
  refine wp_onApp_atomic (fun t ht _ _ => ?_)
  have hopen := hK.isOpen.around ht hs
  let attempt : Attempt := { tag, topic, message, fragment, startedMs := t.app.nowMs }
  have hstep : CalmStep boot t.net.lastDelivery t.app.nowMs t.app.core0.schedule _ := .began
  refine ⟨⟨.calm hstep, .inr ⟨attempt, ?_, rfl, hopen.2, rfl⟩, Nat.le_refl _⟩,
    hK.isOpen.calm hstep hopen⟩
  simp [attempts, CommandState.record, Board.command, CoreEvent.attempt?, attempt]

theorem scheduled_touchPublished (hK : Lasting boot K) (hack : Acknowledges K L)
    (hs : Now (Open boot K) s.app) :
    (onApp Mqtt.touchPublished).wp A Around (Scheduled boot) (fun _ t => Now (Unnoted L) t.app)
      (fun _ t => Now (Noted K) t.app) s := by
  refine wp_onApp_atomic (fun t ht _ _ => ⟨⟨.acknowledged, .inl rfl, Nat.le_refl _⟩, ?_⟩)
  have hnow := hK.isOpen.around ht hs
  have hstep : ScheduleStep boot none t.app.nowMs t.app.core0.schedule _ := .acknowledged
  exact ⟨hstep.clocked hnow.1.clocked, hack hnow.1.kept, rfl⟩

theorem scheduled_completed (hK : Lasting boot K) {tag : Option (Owner × Nat)}
    (hs : Now (Unnoted K) s.app) : (onApp (noteMqttPublishCompleted tag)).wp A Around
      (Scheduled boot) (fun _ t => Now (Noted K) t.app) (fun _ t => Now (Noted K) t.app) s := by
  refine wp_onApp_atomic (fun t ht _ _ => ?_)
  have hnow : Now (Unnoted K) t.app :=
    settled_of_later (K := Unnoted K) hK.unnoted_later _ _ ht.board hs
  have hstep : CalmStep boot t.net.lastDelivery t.app.nowMs t.app.core0.schedule _ :=
    .completed hnow.unnoted
  refine ⟨⟨.calm hstep, .inl ?_, Nat.le_refl _⟩, hstep.clocked hnow.clocked,
    hK.calm hstep hnow.kept, fun pubackMs hp => ⟨_, rfl, hnow.clocked.pubackPast pubackMs hp⟩⟩
  simp [attempts, CoreEvent.attempt?]

abbrev Publishes (boot : Boot) (A : NetInput CoreInput → Prop) (K L : Schedule → Nat → Prop)
    (p : CoreProg Unit) (s : Sys Board) : Prop :=
  p.wp A Around (Scheduled boot) (fun _ t => Now (Unnoted L) t.app)
    (fun _ t => Now (Noted K) t.app) s

theorem scheduled_publishQos1 (hK : Lasting boot K) (hack : Acknowledges K L)
    {tag : Option (Owner × Nat)} {topic : String} {message : Payload} {fragment : Option Bytes}
    (hs : Now (Open boot K) s.app) :
    Publishes boot A K L (Mqtt.publishQos1 boot rounds tag topic message fragment) s := by
  have hopen := hK.isOpen
  have hlink : LinkRule boot rounds A Around (Scheduled boot) (fun t => Now (Open boot K) t.app) :=
    linkRule_lasting hopen
  have hexchange : ∀ t : Sys Board, Now (Open boot K) t.app →
      Holding boot A (Open boot K) (Mqtt.orDisconnect .publishFailure (do
        onApp (Mqtt.attempting tag topic message fragment)
        publish (Mqtt.host boot) rounds (tag.map Prod.fst) topic.toList message none
          (some (Mqtt.ackTimeoutMs boot)) fragment)) t := fun t ht =>
    hlink.orDisconnect (keeping_seq (holding_attempting hK ht)
      (fun _ _ hu => holding_clientPublish hopen hu))
  refine (Proc.wp_seq _ _ _).mpr (Proc.wp_mono (holding_upkeep hopen upkeep_look hs)
    (fun _ _ h => h) (fun connected t ht => ?_) (fun _ _ h => h.1))
  cases connected with
  | false => exact ht.1
  | true =>
    refine (Proc.wp_seq _ _ _).mpr (Proc.wp_mono (hexchange t ht) (fun _ _ h => h) ?_
      (fun _ _ h => h.1))
    exact fun _ u hu => scheduled_touchPublished hK hack hu

theorem scheduled_publishQos1WithPacketId (hK : Standing boot K) {topic : String}
    {message : Payload} {packetId : Nat} {timeoutMs : Option Nat}
    (hs : Now (Open boot K) s.app) :
    (Mqtt.publishQos1WithPacketId boot rounds topic message packetId timeoutMs).wp A Around
      (Scheduled boot) (fun published t => if published then Now (Unnoted K) t.app
        else Now (Noted K) t.app) (fun _ t => Now (Noted K) t.app) s := by
  have hopen := hK.isOpen
  refine (Proc.wp_seq _ _ _).mpr (Proc.wp_mono (holding_upkeep hopen upkeep_look hs)
    (fun _ _ h => h) (fun connected t ht => ?_) (fun _ _ h => h.1))
  cases connected with
  | false => exact ht.1
  | true =>
    have hfailed : ∀ (e : Exc) (u : Sys Board), Now (Noted K) u.app →
        (if e.transport then do
            onApp (Mqtt.markDisconnected (some .publishFailure))
            pure false
          else throw e : CoreProg Bool).wp A Around (Scheduled boot)
          (fun published t => if published then Now (Unnoted K) t.app else Now (Noted K) t.app)
          (fun _ t => Now (Noted K) t.app) u := by
      intro e u hu
      cases e.transport with
      | true =>
        exact (Proc.wp_seq _ _ _).mpr (Proc.wp_mono (holding_upkeep hK.noted upkeep_session hu)
          (fun _ _ h => h) (fun _ _ h => h) (fun _ _ h => h))
      | false => exact hu
    refine (Proc.wp_handle _ _ _).mpr ((Proc.wp_seq _ _ _).mpr (Proc.wp_mono
      (holding_attempting hK.toLasting ht) (fun _ _ h => h) (fun _ u hu => ?_)
      (fun e u hu => hfailed e u hu.1)))
    refine (Proc.wp_seq _ _ _).mpr (Proc.wp_mono (holding_clientPublish hopen hu)
      (fun _ _ h => h) (fun _ v hv => ?_) (fun e v hv => hfailed e v hv.1))
    exact (Proc.wp_seq _ _ _).mpr (Proc.wp_mono (scheduled_touchPublished hK.toLasting hK.acknowledged hv)
      (fun _ _ h => h) (fun _ _ h => h) (fun e w hw => hfailed e w hw))

theorem scheduled_arm (hs : Now (Open boot NonePending) s.app) :
    (onApp (armUtcRequest boot.runtimeId)).wp A Around (Scheduled boot)
      (fun _ t => Now (Open boot (Sending false)) t.app) (fun _ t => Now (Noted AnyTime) t.app)
      s := by
  refine wp_onApp_atomic (fun t ht _ _ => ?_)
  have hnow := standing_nonePending.isOpen.around ht hs
  have hstep : ScheduleStep boot t.net.lastDelivery t.app.nowMs t.app.core0.schedule _ :=
    .armed hnow.1.kept
  exact ⟨⟨hstep, .inl rfl, Nat.le_refl _⟩,
    ⟨hstep.clocked hnow.1.clocked, ⟨rfl, rfl⟩, hnow.1.stamped⟩, hnow.2⟩

theorem holding_calmStep (hK : Lasting boot K) {f : Board → CoreInput → Except Exc α × Board}
    (hf : ∀ t : Sys Board, ∀ i, CalmBoard boot t.net.lastDelivery t.app (f t.app i).2)
    (hs : Now K s.app) : Holding boot A K (onApp (.atomic f)) s := by
  refine wp_onApp_atomic (fun t ht i _ => ?_)
  have hcalm := hf t i.app
  refine ⟨⟨.calm hcalm.schedule, .inl hcalm.attempts, hcalm.clock⟩, ?_⟩
  have hnow := hcalm.keeps hK (hK.around ht hs)
  cases (f t.app i.app).1 <;> exact hnow

theorem noted_anyTime (h : Now (Noted K) b) : Now (Noted AnyTime) b :=
  ⟨h.clocked, trivial, h.stamped⟩

theorem scheduled_disarm (hs : Now (Noted (Sending false)) s.app) :
    (onApp utcDisarm).wp A Around (Scheduled boot) (fun _ t => Now (Noted AnyTime) t.app)
      (fun _ t => Now (Noted AnyTime) t.app) s := by
  have hsending : Lasting boot (Sending false) := lasting_sending
  refine wp_onApp_atomic (fun t ht _ _ => ?_)
  have hnow := hsending.noted.around ht hs
  have hstep : ScheduleStep boot t.net.lastDelivery t.app.nowMs t.app.core0.schedule _ :=
    .disarmed hnow.kept.1 hnow.kept.2
  exact ⟨⟨hstep, .inl rfl, Nat.le_refl _⟩, hstep.clocked hnow.clocked, trivial, hnow.stamped⟩

theorem scheduled_noteSent (hs : Now (Noted (Sending true)) s.app) :
    (onApp (utcNoteSent boot)).wp A Around (Scheduled boot) (fun _ t => Now (Noted AnyTime) t.app)
      (fun _ t => Now (Noted AnyTime) t.app) s := by
  have hsending : Lasting boot (Sending true) := lasting_sending
  refine wp_onApp_atomic (fun t ht _ _ => ?_)
  have hnow := hsending.noted.around ht hs
  have hstep : ScheduleStep boot t.net.lastDelivery t.app.nowMs t.app.core0.schedule _ :=
    .sent hnow.kept.1 hnow.kept.2
  exact ⟨⟨hstep, .inl rfl, Nat.le_refl _⟩, hstep.clocked hnow.clocked, trivial, hnow.stamped⟩

theorem holding_utcSendRequest (hs : Now (Open boot NonePending) s.app) :
    Holding boot A (Noted AnyTime) (utcSendRequest boot rounds) s := by
  refine (Proc.wp_seq _ _ _).mpr (Proc.wp_mono (scheduled_arm hs) (fun _ _ h => h)
    (fun requestId t ht => ?_) (fun _ _ h => h))
  refine (Proc.wp_seq _ _ _).mpr (Proc.wp_mono (Q := fun sent t => if sent then
    Now (Unnoted (Sending true)) t.app else Now (Noted AnyTime) t.app)
    (X := fun _ t => Now (Noted AnyTime) t.app) ?_ (fun _ _ h => h) (fun sent u hu => ?_)
    (fun _ _ h => h))
  · refine (Proc.wp_handle _ _ _).mpr ((Proc.wp_bind _ _ _).mpr (Proc.wp_mono
      (scheduled_publishQos1 lasting_sending sending_acknowledges ht) (fun _ _ h => h)
      (fun _ _ h => h) (fun e u hu => ?_)))
    have hfailed : (onApp utcDisarm >>= fun _ => pure false : CoreProg Bool).wp A Around
        (Scheduled boot) (fun sent t => if sent then Now (Unnoted (Sending true)) t.app
          else Now (Noted AnyTime) t.app) (fun _ t => Now (Noted AnyTime) t.app) u :=
      (Proc.wp_seq _ _ _).mpr (Proc.wp_mono (scheduled_disarm hu) (fun _ _ h => h)
        (fun _ _ h => h) (fun _ _ h => h))
    cases e with
    | memoryError =>
      exact (Proc.wp_seq _ _ _).mpr (Proc.wp_mono (scheduled_disarm hu) (fun _ _ h => h)
        (fun _ _ h => h) (fun _ _ h => h))
    | osError => exact hfailed
    | mqttException => exact hfailed
    | _ => exact noted_anyTime hu
  · cases sent with
    | false => exact hu
    | true =>
      refine (Proc.wp_seq _ _ _).mpr (Proc.wp_mono (scheduled_completed lasting_sending hu)
        (fun _ _ h => h) (fun _ v hv => scheduled_noteSent hv) (fun _ _ h => noted_anyTime h))

theorem holding_deadlinePassed (hK : Lasting boot K) (hs : Now K s.app) :
    Holding boot A K (onApp utcDeadlinePassed) s :=
  holding_calmStep hK (fun t _ => by
    cases t.app.core0.utcRequestDeadlineMs <;> exact ⟨.same, rfl, Nat.le_refl _⟩) hs

theorem holding_utcPump (hK : Lasting boot K) {turns : Nat} (hs : Now K s.app) :
    Holding boot A K (utcPump boot turns) s := by
  have hlink : LinkRule boot 0 A Around (Scheduled boot) (fun t => Now K t.app) :=
    linkRule_lasting hK
  induction turns generalizing s with
  | zero => trivial
  | succ turns ih =>
    refine keeping_seq (holding_upkeep hK upkeep_look hs) (fun pending t ht => ?_)
    refine keeping_ite (fun _ => ht) (fun _ => ?_)
    refine keeping_seq (holding_deadlinePassed hK ht) (fun passed t ht => ?_)
    refine keeping_ite (fun _ => ht) (fun _ => keeping_seq ?_ (fun polled t ht => ?_))
    · refine keeping_handle (keeping_seq (hlink.mqttCheckMsg ht) (fun _ _ h => h)) ?_
      exact fun _ _ h => keeping_ite (fun _ => h) (fun _ => h)
    · refine keeping_ite (fun _ => ?_) (fun _ => ht)
      exact keeping_seq (holding_upkeep hK upkeep_sleepMs ht) (fun _ _ hu => ih hu)

/-- Startup waits with the request until it is pending no longer. -/
theorem scheduled_utcWaitResponse (hs : Now (Noted AnyTime) s.app) :
    (utcWaitResponse boot rounds).wp A Around (Scheduled boot)
      (fun _ t => Now (Noted NonePending) t.app) (fun _ t => Now (Noted AnyTime) t.app) s := by
  have hnoted : Lasting boot (Noted AnyTime) := standing_anyTime.noted
  refine (Proc.wp_seq _ _ _).mpr (Proc.wp_mono (holding_utcPump hnoted hs) (fun _ _ h => h)
    (fun _ t ht => ?_) (fun _ _ h => h))
  refine wp_onApp_atomic (fun u hu _ _ => ?_)
  have hnow := hnoted.around hu ht
  have hstep : CalmStep boot none u.app.nowMs u.app.core0.schedule _ := .cleared
  exact ⟨⟨.calm .cleared, .inl rfl, Nat.le_refl _⟩, hstep.clocked hnow.clocked, rfl, hnow.stamped⟩

theorem holding_poll (hK : Lasting boot K) (hs : Now K s.app) :
    Holding boot A K (pollCommands boot) s := by
  have hreading : Calming boot s.net.lastDelivery (fun reading t => reading.1 ≤ t.nowMs)
      (look (fun b => (b.nowMs, b.commandPollDue boot))) s.app :=
    boarding_look (P := fun _ => True) (fun _ _ _ h => h) trivial
      (fun t _ => ⟨⟨.same, rfl, Nat.le_refl _⟩, Nat.le_refl _⟩)
  refine (Proc.wp_seq _ _ _).mpr (Proc.wp_mono (scheduled_onApp hK hreading hs) (fun _ _ h => h)
    ?_ (fun _ _ h => h))
  rintro ⟨atMs, due⟩ t ht
  have hread : Lasting boot (fun c n => K c n ∧ atMs ≤ n) :=
    ⟨fun hle h => ⟨hK.later hle h.1, Nat.le_trans h.2 hle⟩, fun hstep h => ⟨hK.calm hstep h.1, h.2⟩⟩
  have hlink : LinkRule boot 0 A Around (Scheduled boot)
    (fun t => Now (fun c n => K c n ∧ atMs ≤ n) t.app) := linkRule_lasting hread
  have hpoll : Holding boot A (fun c n => K c n ∧ atMs ≤ n) (do
      ignoreTransport (Mqtt.checkMsg boot)
      onApp (noteCommandPolled atMs)) t := by
    refine keeping_seq (keeping_ignoreTransport (hlink.mqttCheckMsg ht)) (fun _ t ht => ?_)
    refine wp_onApp_atomic (fun u hu _ _ => ?_)
    have hnow := hread.around hu ht
    have hstep : CalmStep boot u.net.lastDelivery u.app.nowMs u.app.core0.schedule _ :=
      .polled atMs hnow.2
    exact ⟨⟨.calm hstep, .inl rfl, Nat.le_refl _⟩, hread.calm hstep hnow⟩
  exact keeping_ite (fun _ => Proc.wp_mono hpoll (fun _ _ h => h) (fun _ _ h => h.1)
    (fun _ _ h => h.1)) (fun _ => ht.1)

theorem calming_expired {last : Option (Bytes × Bytes)} :
    Calming boot last (fun _ _ => True) utcRequestExpired b := by
  refine boarding_seq sidelined_look.calming (fun pending t _ => ?_)
  refine boarding_ite (fun _ => ?_) (fun _ => trivial)
  refine boarding_seq (Q := fun _ _ => True) ?_ (fun passed t _ => ?_)
  · refine boarding_atomic (P := fun _ => True) (fun _ _ _ h => h) trivial (fun t _ _ _ => ?_)
    refine ⟨?_, fun _ _ => trivial, fun _ _ => trivial⟩
    cases t.core0.utcRequestDeadlineMs <;> exact ⟨.same, rfl, Nat.le_refl _⟩
  · refine boarding_ite (fun _ => ?_) (fun _ => trivial)
    exact boarding_adjust (P := fun _ => True) (fun _ _ _ h => h) trivial
      (fun _ _ => ⟨⟨.cleared, rfl, Nat.le_refl _⟩, trivial⟩)

theorem calming_shouldSend {last : Option (Bytes × Bytes)} :
    Calming boot last (fun due t => due = true → t.core0.pendingUtcRequestId = none)
      (utcShouldSendRequest boot) b := by
  have hsettled : Undisturbed (fun b => b.core0.pendingUtcRequestId = none) :=
    fun _ _ h hb => (congrArg Core0.pendingUtcRequestId h.core0).trans hb
  refine boarding_seq (Q := fun pending t => pending = t.core0.pendingUtcRequestId)
    (boarding_look (P := fun _ => True) (fun _ _ _ h => h) trivial
      (fun t _ => ⟨⟨.same, rfl, Nat.le_refl _⟩, rfl⟩)) ?_
  rintro pending t rfl
  refine boarding_ite (fun _ => by simp) (fun hfree => ?_)
  have hnone : t.core0.pendingUtcRequestId = none := by simpa using hfree
  refine boarding_seq (Q := fun _ t => t.core0.pendingUtcRequestId = none) ?_ ?_
  · refine sidelined_utcSyncDue.calmingIn hsettled (fun b b' h hb => ?_) hnone
    exact (congrArg Schedule.pendingUtcRequestId h.schedule).trans hb
  · intro due u hu
    refine boarding_ite (fun _ => by simp) (fun _ => ?_)
    refine boarding_seq (Q := fun _ t => t.core0.pendingUtcRequestId = none)
      (boarding_look hsettled hu (fun t ht => ⟨⟨.same, rfl, Nat.le_refl _⟩, ht⟩)) ?_
    exact fun throttled v hv _ => hv

theorem holding_serviceUtc (hs : Now (Noted AnyTime) s.app) :
    Holding boot A (Noted AnyTime) (serviceUtc boot rounds) s := by
  have hnoted : Lasting boot (Noted AnyTime) := standing_anyTime.noted
  refine keeping_seq (holding_calming hnoted calming_expired hs) (fun _ s hs => ?_)
  refine keeping_seq (holding_upkeep hnoted upkeep_look hs) (fun connected s hs => ?_)
  refine keeping_ite (fun _ => ?_) (fun _ => hs)
  refine (Proc.wp_seq _ _ _).mpr (Proc.wp_mono (scheduled_onApp hnoted calming_shouldSend hs)
    (fun _ _ h => h) ?_ (fun _ _ h => h))
  rintro due t ⟨ht, hdue⟩
  refine keeping_ite (fun h => ?_) (fun _ => ht)
  have hnone : Now (Noted NonePending) t.app := ⟨ht.clocked, hdue h, ht.stamped⟩
  refine (Proc.wp_seq _ _ _).mpr (Proc.wp_mono (scheduled_gate standing_nonePending.toLasting
    (fun _ h => h) hnone) (fun _ _ h => h) ?_ (fun _ _ h => noted_anyTime h))
  rintro isOpen u ⟨hu, hopen⟩
  exact keeping_ite (fun h => holding_utcSendRequest (hopen h)) (fun _ => noted_anyTime hu)

theorem runRule_scheduled : RunRule boot rounds A Around (Scheduled boot)
    (fun t => Now (Noted AnyTime) t.app) (fun t => Now (Open boot AnyTime) t.app)
    (fun t => Now (Unnoted AnyTime) t.app) where
  toLinkRule := linkRule_lasting standing_anyTime.noted
  side := holding_sidelined standing_anyTime.noted
  sidePaced := holding_sidelined standing_anyTime.isOpen
  paced := fun hs => hs.1
  gate := fun hf hs => scheduled_gate standing_anyTime.toLasting hf hs
  publish := fun hs => scheduled_publishQos1 standing_anyTime.toLasting (fun _ => trivial) hs
  completed := fun hs => scheduled_completed standing_anyTime.toLasting hs
  poll := holding_poll standing_anyTime.noted
  utc := holding_serviceUtc

theorem holding_performNetworkProbe (hK : Standing boot K) (hs : Now (Noted K) s.app) :
    Holding boot A (Noted K) (performNetworkProbe boot rounds) s := by
  have hopen := hK.isOpen
  refine (Proc.wp_seq _ _ _).mpr (Proc.wp_mono (scheduled_wait hK.toLasting hs) (fun _ _ h => h)
    (fun _ t ht => ?_) (fun _ _ h => h))
  have hpacketId : Holding boot A (Open boot K) Mqtt.getNextPacketId t := by
    refine keeping_seq (holding_upkeep hopen upkeep_look ht) (fun hasClient u hu => ?_)
    exact keeping_ite (fun _ => (sessionRule_lasting hopen).exchange.nextPacketId hu)
      (fun _ => hu)
  refine (Proc.wp_seq _ _ _).mpr (Proc.wp_mono hpacketId (fun _ _ h => h)
    (fun packetId t ht => ?_) (fun _ _ h => h.1))
  refine (Proc.wp_seq _ _ _).mpr (Proc.wp_mono (holding_upkeep hopen upkeep_uptimeMs ht)
    (fun _ _ h => h) (fun uptime t ht => ?_) (fun _ _ h => h.1))
  refine keeping_handle ?_ (fun _ _ h => keeping_ite (fun _ => h) (fun _ => h))
  refine (Proc.wp_seq _ _ _).mpr (Proc.wp_mono (scheduled_publishQos1WithPacketId hK ht)
    (fun _ _ h => h) (fun published u hu => ?_) (fun _ _ h => h))
  cases published with
  | false => exact hu
  | true => exact keeping_seq (scheduled_completed hK.toLasting hu) (fun _ _ h => h)

abbrev Starting (boot : Boot) (A : NetInput CoreInput → Prop) (p : CoreProg α) (s : Sys Board) :
    Prop :=
  p.wp A Around (Scheduled boot) (fun _ t => Now (Noted NonePending) t.app)
    (fun _ t => Now (Noted AnyTime) t.app) s

theorem starting_of_holding {p : CoreProg α} (h : Holding boot A (Noted NonePending) p s) :
    Starting boot A p s :=
  Proc.wp_mono h (fun _ _ h => h) (fun _ _ h => h) (fun _ _ h => noted_anyTime h)

theorem starting_seq {β : Type} {p : CoreProg α} {f : α → CoreProg β} (hp : Starting boot A p s)
    (hf : ∀ a t, Now (Noted NonePending) t.app → Starting boot A (f a) t) :
    Starting boot A (p >>= f) s :=
  (Proc.wp_seq _ _ _).mpr (Proc.wp_mono hp (fun _ _ h => h) hf (fun _ _ h => h))

theorem starting_ite {c : Prop} [Decidable c] {p q : CoreProg α} (hp : Starting boot A p s)
    (hq : Starting boot A q s) : Starting boot A (if c then p else q) s := by
  by_cases h : c
  · rw [if_pos h]
    exact hp
  · rw [if_neg h]
    exact hq

theorem starting_upkeep {p : BoardProg α} (hp : Upkeep p) (hs : Now (Noted NonePending) s.app) :
    Starting boot A (onApp p) s :=
  starting_of_holding (holding_upkeep standing_nonePending.noted hp hs)

theorem starting_synchronizeUtc {attempts : Nat} (hs : Now (Noted NonePending) s.app) :
    Starting boot A (synchronizeUtcRequired boot rounds attempts) s := by
  induction attempts generalizing s with
  | zero => exact hs
  | succ attempts ih =>
    refine (Proc.wp_seq _ _ _).mpr (Proc.wp_mono (scheduled_wait standing_nonePending.toLasting hs)
      (fun _ _ h => h) (fun _ t ht => ?_) (fun _ _ h => noted_anyTime h))
    refine (Proc.wp_seq _ _ _).mpr (Proc.wp_mono (holding_utcSendRequest ht) (fun _ _ h => h)
      (fun _ t ht => ?_) (fun _ _ h => h))
    refine starting_seq (scheduled_utcWaitResponse ht) (fun _ t ht => ?_)
    refine starting_seq (starting_upkeep upkeep_look ht) (fun snapshot t ht => ?_)
    exact starting_ite ht (starting_seq (starting_upkeep upkeep_sleepMs ht) (fun _ _ h => ih h))

theorem starting_verify (hs : Now (Noted NonePending) s.app) :
    Starting boot A (verifyStartupContract boot rounds) s := by
  have hprobe : ∀ t : Sys Board, Now (Noted NonePending) t.app →
      Starting boot A (performNetworkProbe boot rounds) t := fun _ ht =>
    starting_of_holding (holding_performNetworkProbe standing_nonePending ht)
  refine starting_seq (hprobe s hs) (fun _ t ht => starting_ite ht ?_)
  refine starting_seq (starting_upkeep upkeep_sleepMs ht) (fun _ t ht => ?_)
  exact starting_seq (hprobe t ht) (fun _ t ht => starting_ite ht (starting_synchronizeUtc ht))

theorem starting_verifyUntilClean {turns : Nat} (hs : Now (Noted NonePending) s.app) :
    Starting boot A (verifyUntilClean boot rounds turns) s := by
  have hlink : LinkRule boot rounds A Around (Scheduled boot)
    (fun t => Now (Noted NonePending) t.app) := linkRule_lasting standing_nonePending.noted
  induction turns generalizing s with
  | zero => trivial
  | succ turns ih =>
    refine starting_seq (starting_verify hs) (fun clean t ht => starting_ite ht ?_)
    refine starting_seq (starting_upkeep upkeep_sleepSliced ht) (fun _ t ht => ?_)
    refine starting_seq (starting_upkeep upkeep_session ht) (fun _ t ht => ?_)
    exact starting_seq (starting_of_holding (hlink.establishNetwork ht)) (fun _ _ h => ih h)

def startUnwatched (boot : Boot) (rounds : Nat) : CoreProg Unit := do
  establishNetwork boot rounds
  verifyUntilClean boot rounds rounds
  onApp publishUtcSnapshot
  onApp (setNetworkStackReady true)
  onApp (publishNetworkSnapshot boot true)

theorem starting_startUnwatched (hs : Now (Noted NonePending) s.app) :
    Starting boot A (startUnwatched boot rounds) s := by
  have hlink : LinkRule boot rounds A Around (Scheduled boot)
    (fun t => Now (Noted NonePending) t.app) := linkRule_lasting standing_nonePending.noted
  refine starting_seq (starting_of_holding (hlink.establishNetwork hs)) (fun _ t ht => ?_)
  refine starting_seq (starting_verifyUntilClean ht) (fun _ t ht => starting_seq ?_ (fun _ t ht => ?_))
  · refine starting_of_holding (holding_sidelined standing_nonePending.noted
      (sidelined_atomic (fun b _ => ?_)) ht)
    dsimp only
    cases b.core0.utcSnapshot <;> exact ⟨rfl, rfl, Nat.le_refl _⟩
  · refine starting_seq (starting_upkeep upkeep_setNetworkStackReady ht) (fun _ t ht => ?_)
    exact starting_upkeep upkeep_publishNetworkSnapshot ht

theorem core0Main_eq : core0Main boot rounds = startUnwatched boot rounds >>= fun _ =>
    onApp (adjust (fun c _ => { c with watchdogArmed := true })) >>= fun _ =>
      runLoop boot rounds rounds := by
  unfold core0Main start startUnwatched
  simp only [Proc.bind_eq, Proc.bind_assoc]

/-- Core 0, from its start on. -/
theorem scheduled_core0Main (hs : Now (Noted NonePending) s.app) :
    Keeping A Around (MainStep boot) (fun t => Now (Noted AnyTime) t.app) (core0Main boot rounds)
      s := by
  have hnoted : Lasting boot (Noted NonePending) := standing_nonePending.noted
  rw [core0Main_eq]
  refine (Proc.wp_seq _ _ _).mpr (Proc.wp_mono (starting_startUnwatched hs)
    (fun _ _ h => .scheduled h) (fun _ t ht => ?_) (fun _ _ h => h))
  refine keeping_seq ?_ (fun _ t ht => Proc.wp_mono (runRule_scheduled.runLoop ht)
    (fun _ _ h => .scheduled h) (fun _ _ h => h) (fun _ _ h => h))
  refine wp_onApp_atomic (fun u hu _ _ => ⟨.watched rfl, ?_⟩)
  have hnow := hnoted.around hu ht
  exact ⟨{ hnow.clocked with }, trivial, hnow.stamped⟩

end Rules

/-- Core 0's objects have just been made, and no socket has been opened. -/
structure AtStart (s : Sys Board) : Prop where
  net : s.net = {}
  board : ∃ bootMs nowMs minimumFreeHeapBytes preferredFreeHeapBytes maxMessages disk,
    s.app = Board.initial bootMs nowMs minimumFreeHeapBytes preferredFreeHeapBytes maxMessages disk

structure Fresh (c : Schedule) (nowMs : Nat) : Prop where
  poll : c.lastCommandPollMs = nowMs % TICKS_PERIOD
  completed : c.lastMqttPublishCompletedMs = none
  pending : c.pendingUtcRequestId = none
  attempt : c.utcLastAttemptMs = none
  snapshot : c.utcSnapshot = none
  watchdog : c.watchdogArmed = false
  timeline : c.timeline = { commandPollMs := nowMs }

theorem AtStart.fresh {s : Sys Board} (h : AtStart s) : Now Fresh s.app := by
  obtain ⟨bootMs, nowMs, minimum, preferred, maxMessages, disk, happ⟩ := h.board
  rw [happ]
  exact ⟨rfl, rfl, rfl, rfl, rfl, rfl, rfl⟩

theorem Fresh.clocked {c : Schedule} {nowMs : Nat} (h : Fresh c nowMs) : Clocked c nowMs where
  completed := by rw [h.completed, h.timeline]; rfl
  completedPast := by simp [h.timeline]
  pubackPast := by simp [h.timeline]
  poll := by rw [h.poll, h.timeline]
  pollPast := by rw [h.timeline]
  attempt := by rw [h.attempt, h.timeline]; rfl
  attemptPast := by simp [h.timeline]

theorem Fresh.noted {c : Schedule} {nowMs : Nat} (h : Fresh c nowMs) : Noted NonePending c nowMs where
  clocked := h.clocked
  kept := h.pending
  stamped := by simp [Schedule.Stamped, h.timeline]

section Runs

variable {boot : Boot} {rounds : Nat} {s t : Sys Board} {q : CoreProg Unit}
  {act : Sys Board → NetInput CoreInput → Sys Board}
  {next : Sys Board → NetInput CoreInput → CoreProg Unit}

/-- Core 0 has come to this point of its program, whatever it met and the others did. -/
abbrev CoreRun (boot : Boot) (rounds : Nat) (s : Sys Board) (q : CoreProg Unit) (t : Sys Board) :
    Prop :=
  Proc.Reaches (fun _ => True) Around (core0Main boot rounds) s q t

/-- What the steps of the schedule, the arming of the watchdog and the time keep holds at every
moment. -/
theorem CoreRun.invariant {I : Sys Board → Prop} (hs : AtStart s) (hI : I s)
    (hG : ∀ a b, I a → Scheduled boot a b → I b)
    (hW : ∀ a, I a → I { a with app := a.app.watched }) (hE : ∀ a b, I a → Around a b → I b)
    (h : CoreRun boot rounds s q t) : I t := by
  have hstep : ∀ a b, I a → MainStep boot a b → I b := by
    intro a b ha hab
    cases hab with
    | scheduled hab => exact hG a b ha hab
    | watched hab => exact hab ▸ hW a ha
  exact (Proc.wp_reaches Around.refl Around.trans hstep (fun a b ha he => ⟨he, hE a b ha he⟩) hI
    (scheduled_core0Main hs.fresh.noted) h).1

/-- Every step of Core 0 is one of its schedule, or arms the watchdog. -/
theorem CoreRun.mainStep (hs : AtStart s) (h : CoreRun boot rounds s (.step act next) t)
    (i : NetInput CoreInput) : MainStep boot t (act t i) :=
  (Proc.wp_reaches_step (I := fun _ => True) Around.refl Around.trans (fun _ _ _ _ => trivial)
    (fun _ _ _ he => ⟨he, trivial⟩) trivial (scheduled_core0Main hs.fresh.noted) h trivial).2

end Runs

def poweredOn : Sys Board :=
  ⟨{}, Board.initial 0 1000 20000 30000 none ⟨⟨none, none, none, none⟩, false, []⟩⟩

theorem poweredOn_atStart : AtStart poweredOn := ⟨rfl, _, _, _, _, _, _, rfl⟩

def timeAnswer (timestamp : String) : PyDict :=
  [(.str "message_type", .str "info_response"),
    (.str "message_schema_version", .int MESSAGE_SCHEMA_VERSION),
    (.str "source", .str "server"),
    (.str "target", .str "Soil-1"),
    (.str "request_id", .str "runtime_e66141040396962a0badf00d_1"),
    (.str "request_type", .str "utc_time"),
    (.str "payload", .dict [(.str "timestamp", .str timestamp),
      (.str "utc_epoch_ms", .int 1700000000000)])]

def answerPacket (timestamp : String) : Bytes :=
  let topic := "iot/v3/info-response".toList
  let body := utf8 (Json.dumps (.dict (timeAnswer timestamp)))
  0x30 :: Base128.encode (2 + topic.length + body.length) ++ be16 topic.length ++ utf8 topic ++ body

def acceptance : Bytes :=
  [0x20, 2, 0, 0] ++ [0x90, 3, 0, 1, 0] ++ [0x90, 3, 0, 2, 0] ++ [0x40, 2, 0, 3] ++ [0x40, 2, 0, 4]

def acknowledgement : Bytes := [0x40, 2, 0, 5]

def startupInbound : Bytes :=
  acceptance ++ acknowledgement ++ answerPacket "2023-11-14T22:13:20Z" ++ [0xD0, 0]

def answering (inbound : Bytes) (s : Sys Board) : Sys Board :=
  { s with net := { s.net with connections := s.net.connections.map (fun c =>
      { c with inbound := c.inbound ++ inbound }) } }

def waiting (ms : Nat) (s : Sys Board) : Sys Board :=
  { s with app := { s.app with nowMs := s.app.nowMs + ms } }

theorem around_answering (inbound : Bytes) (s : Sys Board) : Around s (answering inbound s) := by
  refine ⟨⟨rfl, rfl, rfl, rfl, fun k c h => ⟨inbound, ?_⟩⟩, .refl _⟩
  simp [answering, h]

theorem around_waiting (ms : Nat) (s : Sys Board) : Around s (waiting ms s) :=
  ⟨⟨rfl, rfl, rfl, rfl, fun _ c h => ⟨[], by simpa [waiting] using h⟩⟩,
    ⟨rfl, rfl, Nat.le_add_right _ _, .refl, List.suffix_refl _⟩⟩

def online : NetInput CoreInput := ⟨.done, {}⟩

/-- There is no Wi-Fi for `outageMs`; the broker sends `inbound` from the moment of the first
connection on, and `count` steps of Core 0 follow. -/
def startupWith (inbound : Bytes) (outageMs count : Nat) : CoreProg Unit × Sys Board :=
  let unreachable := Proc.advance ⟨.done, { wifiConnected := false }⟩ 1 (core0Main shippedBoot 12)
    poweredOn
  let connecting := Proc.advance online 11 unreachable.1 (waiting outageMs unreachable.2)
  Proc.advance online count connecting.1 (answering inbound connecting.2)

theorem startupWith_run (inbound : Bytes) (outageMs count : Nat) : CoreRun shippedBoot 12 poweredOn
    (startupWith inbound outageMs count).1 (startupWith inbound outageMs count).2 :=
  Proc.reaches_advance trivial count (.other (Proc.reaches_advance trivial 11
    (.other (Proc.reaches_advance trivial 1 .refl) (around_waiting outageMs _)))
    (around_answering inbound _))

def startup (outageMs count : Nat) : CoreProg Unit × Sys Board :=
  startupWith startupInbound outageMs count

theorem startup_run (outageMs count : Nat) :
    CoreRun shippedBoot 12 poweredOn (startup outageMs count).1 (startup outageMs count).2 :=
  startupWith_run startupInbound outageMs count

structure Scene where
  ms : Nat
  inbound : Bytes
  health : Option Bytes
  count : Nat

def reporting (health : Option Bytes) (s : Sys Board) : Sys Board :=
  { s with app := { s.app with
      outbound := health.elim s.app.outbound (fun payload =>
        (s.app.outbound.append .health payload .health ⟨100000, false⟩).2) } }

theorem around_reporting (health : Option Bytes) (s : Sys Board) :
    Around s (reporting health s) := by
  refine ⟨⟨rfl, rfl, rfl, rfl, fun _ c h => ⟨[], ?_⟩⟩, rfl, rfl, Nat.le_refl _, ?_, List.suffix_refl _⟩
  · simpa [reporting] using h
  · cases health with
    | none => exact .refl
    | some payload => exact .single (.append _ _ payload _ _)

def Scene.around (e : Scene) (s : Sys Board) : Sys Board :=
  reporting e.health (answering e.inbound (waiting e.ms s))

theorem Scene.around_around (e : Scene) (s : Sys Board) : Around s (e.around s) :=
  ((around_waiting e.ms s).trans (around_answering e.inbound _)).trans (around_reporting _ _)

def enact (scenes : List Scene) (p : CoreProg Unit × Sys Board) : CoreProg Unit × Sys Board :=
  scenes.foldl (fun p e => Proc.advance online e.count p.1 (e.around p.2)) p

theorem enact_run {boot : Boot} {s : Sys Board} (scenes : List Scene)
    {p : CoreProg Unit × Sys Board} (h : CoreRun boot 12 s p.1 p.2) :
    CoreRun boot 12 s (enact scenes p).1 (enact scenes p).2 := by
  induction scenes generalizing p with
  | nil => exact h
  | cons e scenes ih => exact ih (Proc.reaches_advance trivial e.count (.other h (e.around_around _)))

def recovered : Sys Board :=
  ⟨{}, Board.initial 0 1000 20000 30000 none
    ⟨(recovery firmwareRules (Dir.settled (shippedText "Soil-1"))).2.dir, false, []⟩⟩

theorem recovered_atStart : AtStart recovered := ⟨rfl, _, _, _, _, _, _, rfl⟩

def onward (count : Nat) (p : CoreProg Unit × Sys Board) : CoreProg Unit × Sys Board :=
  Proc.advance online count p.1 p.2

theorem onward_run {boot : Boot} {s : Sys Board} (count : Nat) {p : CoreProg Unit × Sys Board}
    (h : CoreRun boot 12 s p.1 p.2) : CoreRun boot 12 s (onward count p).1 (onward count p).2 :=
  Proc.reaches_advance trivial count h

def opening (count : Nat) : CoreProg Unit × Sys Board :=
  onward count (enact [⟨0, [], none, 12⟩, ⟨0, startupInbound, none, 0⟩]
    (core0Main shippedBoot 12, recovered))

theorem opening_run (count : Nat) :
    CoreRun shippedBoot 12 recovered (opening count).1 (opening count).2 :=
  onward_run count (enact_run _ .refl)

def publishing (count : Nat) : CoreProg Unit × Sys Board :=
  onward count (enact [⟨100, [0x40, 2, 0, 6],
    some (utf8 (Json.dumps (.dict [(.str "message_type", .str "health")]))), 0⟩] (opening 270))

theorem publishing_run (count : Nat) :
    CoreRun shippedBoot 12 recovered (publishing count).1 (publishing count).2 :=
  onward_run count (enact_run _ (opening_run 270))

def commandPacket (id name : String) : Bytes :=
  let topic := "iot/v3/command".toList
  let body := utf8 (Json.dumps (.dict [(.str "message_type", .str "command"),
    (.str "message_schema_version", .int MESSAGE_SCHEMA_VERSION), (.str "target", .str "Soil-1"),
    (.str "command_id", .str id), (.str "command", .str name), (.str "payload", .dict [])]))
  0x30 :: Base128.encode (2 + topic.length + body.length) ++ be16 topic.length ++ utf8 topic ++ body

/-- Startup, a health message, an unknown command and a reboot, each publish acknowledged. -/
def shippedSession : CoreProg Unit × Sys Board :=
  enact [⟨100, commandPacket "a" "dance" ++ [0x40, 2, 0, 7], none, 110⟩,
    ⟨100, commandPacket "b" "reboot" ++ [0x40, 2, 0, 8], none, 55⟩, ⟨100, [], none, 220⟩]
    (publishing 85)

theorem shippedSession_run : CoreRun shippedBoot 12 recovered shippedSession.1 shippedSession.2 :=
  enact_run _ (publishing_run 85)

def CoreEvent.reset? : CoreEvent → Option (Option Nat)
  | .reset request => some request
  | _ => none

def CoreEvent.responded? : CoreEvent → Option (Nat × String)
  | .responded uid id => some (uid, id)
  | _ => none

set_option maxRecDepth 100000 in
/-- What the session puts on record: at the first time request, at its answer, at the first read of
the run loop, and at its end. -/
theorem shippedSession_moments :
    ((opening 193).1.isStep = true ∧ (opening 193).2.app.nowMs = 6100 ∧
      (opening 193).2.app.core0.timeline.pubackMs = some 6000 ∧
      (opening 193).2.app.core0.timeline.publishCompletedMs = some 6000 ∧
      (opening 193).2.app.core0.timeline.commandPollMs = 1000 ∧
      (opening 193).2.app.core0.timeline.utcAttemptMs = none ∧
      (attempts (opening 193).2.app.core0.history).length = 2 ∧
      (attempts (onward 1 (opening 193)).2.app.core0.history).length = 3) ∧
    ((opening 265).1.isStep = true ∧ (opening 265).2.app.core0.utcSnapshot = none ∧
      (opening 265).2.app.core0.pendingUtcRequestId =
        some "runtime_e66141040396962a0badf00d_1" ∧
      (onward 1 (opening 265)).2.app.core0.utcSnapshot = some
        { timestamp := "2023-11-14T22:13:20Z", utcEpochMs := 1700000000000, syncUptimeMs := 6100,
          runtimeStartEpochMs := 1699999993900 }) ∧
    ((publishing 18).1.isStep = true ∧ (publishing 18).2.app.core0.watchdogArmed = true ∧
      (publishing 18).2.net.events.length = 52 ∧
      (onward 1 (publishing 18)).2.net.events.length = 53) ∧
    (attempts shippedSession.2.app.command.history).map Attempt.tag = [none, none, none,
      some (.entry 0, 0), some (.container 0, 1), some (.container 1, 2)] ∧
    acknowledged shippedSession.2.app.command.history = [.entry 0, .container 0, .container 1] ∧
    shippedSession.2.app.command.recentCommandIds = ["a", "b"] ∧
    shippedSession.2.app.command.history.filterMap CoreEvent.reset? = [some 1] ∧
    shippedSession.2.app.outbound.completed = [0] ∧
    shippedSession.2.app.command.history.filterMap CoreEvent.responded? = [(0, "a")] := by
  decide +kernel

theorem shippedSession_record :
    (attempts shippedSession.2.app.command.history).map Attempt.tag = [none, none, none,
      some (.entry 0, 0), some (.container 0, 1), some (.container 1, 2)] ∧
    acknowledged shippedSession.2.app.command.history = [.entry 0, .container 0, .container 1] ∧
    shippedSession.2.app.command.recentCommandIds = ["a", "b"] ∧
    shippedSession.2.app.command.history.filterMap CoreEvent.reset? = [some 1] ∧
    shippedSession.2.app.outbound.completed = [0] ∧
    shippedSession.2.app.command.history.filterMap CoreEvent.responded? = [(0, "a")] :=
  shippedSession_moments.2.2.2

end PicoDualCore
