import PicoDualCore.ScheduleSteps
set_option autoImplicit false

/-!
The tick gates of Core 0 against the true time. Each compares one `ticks_diff` with a threshold,
which is exact for less than half a tick period, and after that for the other half of each period.
-/

namespace PicoDualCore
open AtomicProgram

def TickSafe (thresholdMs : Nat) (ageMs : Int) : Prop :=
  ageMs < thresholdMs ∨
    (thresholdMs : Int) ≤ ageMs % TICKS_PERIOD ∧ ageMs % TICKS_PERIOD < TICKS_PERIOD / 2

/-- No more than half a tick period old, and nothing can go wrong. -/
theorem TickSafe.young {thresholdMs : Nat} {ageMs : Int} (hage : 0 ≤ ageMs)
    (h : ageMs < 2 ^ 29) : TickSafe thresholdMs ageMs := by
  unfold TickSafe TICKS_PERIOD
  omega

theorem tickGate_exact_iff {thresholdMs nowMs : Nat} {stampMs : Int} (hpast : stampMs ≤ nowMs) :
    (((thresholdMs : Int) ≤ ticksDiff (nowMs % TICKS_PERIOD) (stampMs % TICKS_PERIOD).toNat) ↔
      (thresholdMs : Int) ≤ nowMs - stampMs) ↔ TickSafe thresholdMs (nowMs - stampMs) := by
  unfold TickSafe ticksDiff TICKS_PERIOD
  omega

/-- Every gate says what the true time since its stamp says. -/
structure GatesExact (boot : Boot) (b : Board) : Prop where
  fresh : b.core0.timeline.publishCompletedMs = none → b.mqttPublishReady boot = true
  publish : ∀ atMs, b.core0.timeline.publishCompletedMs = some atMs →
    (b.mqttPublishReady boot = true ↔ atMs + boot.config.mqttOutboundPublishDelayMs ≤ b.nowMs)
  poll : b.commandPollDue boot = true ↔
    b.core0.timeline.commandPollMs + boot.config.mqttCommandPollMs ≤ b.nowMs
  throttle : ∀ atMs, b.core0.timeline.utcAttemptMs = some atMs →
    (b.utcThrottled = true ↔ (b.nowMs : Int) - atMs < UTC_RETRY_INTERVAL_MS)
  unthrottled : b.core0.timeline.utcAttemptMs = none → b.utcThrottled = false

/-- The ages of the stamps are such that the tick counter shows them. -/
structure AgesSafe (boot : Boot) (b : Board) : Prop where
  publish : ∀ atMs, b.core0.timeline.publishCompletedMs = some atMs →
    boot.config.mqttOutboundPublishDelayMs = 0 ∨
      TickSafe boot.config.mqttOutboundPublishDelayMs (b.nowMs - atMs)
  poll : TickSafe boot.config.mqttCommandPollMs (b.nowMs - b.core0.timeline.commandPollMs)
  throttle : ∀ atMs, b.core0.timeline.utcAttemptMs = some atMs →
    TickSafe UTC_RETRY_INTERVAL_MS (b.nowMs - atMs)

section

variable {boot : Boot} {b : Board}

theorem ready_fresh (h : Clocked b.core0.schedule b.nowMs)
    (hat : b.core0.timeline.publishCompletedMs = none) : b.mqttPublishReady boot = true := by
  have hstamp : b.core0.lastMqttPublishCompletedMs = none :=
    h.completed.trans (by rw [show b.core0.schedule.timeline.publishCompletedMs = none from hat]; rfl)
  simp [Board.mqttPublishReady, hstamp]

theorem ready_exact_iff (h : Clocked b.core0.schedule b.nowMs) {atMs : Nat}
    (hat : b.core0.timeline.publishCompletedMs = some atMs) :
    (b.mqttPublishReady boot = true ↔ atMs + boot.config.mqttOutboundPublishDelayMs ≤ b.nowMs) ↔
      boot.config.mqttOutboundPublishDelayMs = 0 ∨
        TickSafe boot.config.mqttOutboundPublishDelayMs (b.nowMs - atMs) := by
  have hstamp : b.core0.lastMqttPublishCompletedMs = some (atMs % TICKS_PERIOD) :=
    h.completed.trans (by
      rw [show b.core0.schedule.timeline.publishCompletedMs = some atMs from hat]; rfl)
  have hpast := h.completedPast atMs hat
  have hgate := @tickGate_exact_iff boot.config.mqttOutboundPublishDelayMs b.nowMs atMs
    (Int.ofNat_le.mpr hpast)
  rw [← Int.natCast_emod, Int.toNat_natCast] at hgate
  unfold Board.mqttPublishReady
  rw [hstamp]
  simp only [Bool.or_eq_true, beq_iff_eq, decide_eq_true_eq]
  by_cases hzero : boot.config.mqttOutboundPublishDelayMs = 0
  · simp only [hzero, true_or, true_iff, iff_true]
    omega
  · simp only [hzero, false_or]
    rw [← hgate]
    unfold Board.ticksMs
    exact iff_congr Iff.rfl (by omega)

theorem due_exact_iff (h : Clocked b.core0.schedule b.nowMs) :
    (b.commandPollDue boot = true ↔
      b.core0.timeline.commandPollMs + boot.config.mqttCommandPollMs ≤ b.nowMs) ↔
      TickSafe boot.config.mqttCommandPollMs (b.nowMs - b.core0.timeline.commandPollMs) := by
  have hstamp : b.core0.lastCommandPollMs = b.core0.timeline.commandPollMs % TICKS_PERIOD := h.poll
  have hpast : b.core0.timeline.commandPollMs ≤ b.nowMs := h.pollPast
  have hgate := @tickGate_exact_iff boot.config.mqttCommandPollMs b.nowMs
    b.core0.timeline.commandPollMs (Int.ofNat_le.mpr hpast)
  rw [← Int.natCast_emod, Int.toNat_natCast] at hgate
  unfold Board.commandPollDue Board.ticksMs
  rw [hstamp, decide_eq_true_eq, ← hgate]
  exact iff_congr Iff.rfl (by omega)

theorem throttled_exact_iff (h : Clocked b.core0.schedule b.nowMs) {atMs : Int}
    (hat : b.core0.timeline.utcAttemptMs = some atMs) :
    (b.utcThrottled = true ↔ (b.nowMs : Int) - atMs < UTC_RETRY_INTERVAL_MS) ↔
      TickSafe UTC_RETRY_INTERVAL_MS (b.nowMs - atMs) := by
  have hstamp : b.core0.utcLastAttemptMs = some (atMs % TICKS_PERIOD).toNat :=
    h.attempt.trans (by
      rw [show b.core0.schedule.timeline.utcAttemptMs = some atMs from hat]; rfl)
  have hgate := @tickGate_exact_iff UTC_RETRY_INTERVAL_MS b.nowMs atMs (h.attemptPast atMs hat)
  unfold Board.utcThrottled Board.ticksMs
  rw [hstamp]
  simp only [decide_eq_true_eq]
  rw [← hgate, ← Int.not_le, ← Int.not_le]
  exact not_iff_not

theorem unthrottled_fresh (h : Clocked b.core0.schedule b.nowMs)
    (hat : b.core0.timeline.utcAttemptMs = none) : b.utcThrottled = false := by
  have hstamp : b.core0.utcLastAttemptMs = none :=
    h.attempt.trans (by rw [show b.core0.schedule.timeline.utcAttemptMs = none from hat]; rfl)
  simp [Board.utcThrottled, hstamp]

theorem gatesExact_iff (h : Clocked b.core0.schedule b.nowMs) :
    GatesExact boot b ↔ AgesSafe boot b := by
  constructor
  · intro hexact
    exact ⟨fun atMs hat => (ready_exact_iff h hat).mp (hexact.publish atMs hat),
      (due_exact_iff h).mp hexact.poll,
      fun atMs hat => (throttled_exact_iff h hat).mp (hexact.throttle atMs hat)⟩
  · intro hsafe
    exact ⟨ready_fresh h, fun atMs hat => (ready_exact_iff h hat).mpr (hsafe.publish atMs hat),
      (due_exact_iff h).mpr hsafe.poll,
      fun atMs hat => (throttled_exact_iff h hat).mpr (hsafe.throttle atMs hat),
      unthrottled_fresh h⟩

end

theorem CoreRun.clocked {boot : Boot} {rounds : Nat} {s t : Sys Board} {q : CoreProg Unit}
    (hs : AtStart s) (h : CoreRun boot rounds s q t) : Now Clocked t.app :=
  h.invariant (I := fun t => Now Clocked t.app) hs hs.fresh.clocked
    (fun _ _ ha hstep => (hstep.schedule.clocked ha).later hstep.clock) (fun _ ha => { ha with })
    (fun _ _ ha hr => settled_of_later (fun hle hc => hc.later hle) _ _ hr.board ha)

/-- At every moment of every run of Core 0 from power-on, however long it has waited for the
network, the gates are exact if and only if the tick counter shows the ages of their stamps. -/
theorem gates_exact_iff {boot : Boot} {rounds : Nat} {s t : Sys Board} {q : CoreProg Unit}
    (hs : AtStart s) (h : CoreRun boot rounds s q t) :
    GatesExact boot t.app ↔ AgesSafe boot t.app :=
  gatesExact_iff (h.clocked hs)

/-- Six seconds after power-on they are. -/
theorem gates_exact_startup : ∃ q t, CoreRun shippedBoot 12 recovered q t ∧ t.app.nowMs = 6100 ∧
    t.app.core0.timeline.publishCompletedMs = some 6000 ∧ GatesExact shippedBoot t.app := by
  have hrun := opening_run 193
  obtain ⟨-, hnow, -, hcompleted, hpoll, hattempt, -⟩ := shippedSession_moments.1
  generalize opening 193 = p at *
  refine ⟨_, _, hrun, hnow, hcompleted, (gates_exact_iff recovered_atStart hrun).mpr ?_⟩
  constructor
  · intro atMs hat
    rw [hcompleted] at hat
    cases hat
    exact .inr (.young (by omega) (by omega))
  · exact .young (by omega) (by omega)
  · intro atMs hat
    rw [hattempt] at hat
    cases hat

set_option maxRecDepth 100000 in
/-- After a startup that has been without Wi-Fi for half a tick period, the first poll of the run
loop is not due, five seconds beyond that half period after its stamp. -/
theorem gates_not_exact : ∃ q t, CoreRun shippedBoot 12 poweredOn q t ∧
    t.app.core0.watchdogArmed = true ∧ t.app.core0.timeline.commandPollMs = 1000 ∧
    t.app.nowMs = 2 ^ 29 + 6120 ∧ shippedBoot.config.mqttCommandPollMs = 100 ∧
    t.app.commandPollDue shippedBoot = false ∧ ¬ GatesExact shippedBoot t.app := by
  have hfacts : (startup (2 ^ 29) 284).2.app.core0.watchdogArmed = true ∧
      (startup (2 ^ 29) 284).2.app.core0.timeline.commandPollMs = 1000 ∧
      (startup (2 ^ 29) 284).2.app.nowMs = 2 ^ 29 + 6120 ∧
      (startup (2 ^ 29) 284).2.app.commandPollDue shippedBoot = false := by
    decide +kernel
  obtain ⟨harmed, hpoll, hnow, hdue⟩ := hfacts
  refine ⟨_, _, startup_run (2 ^ 29) 284, harmed, hpoll, hnow, rfl, hdue, fun hexact => ?_⟩
  have hopen := hexact.poll.mpr (by rw [hpoll, hnow]; decide)
  rw [hdue] at hopen
  cases hopen

end PicoDualCore
