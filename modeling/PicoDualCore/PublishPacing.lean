import PicoDualCore.ScheduleSteps
set_option autoImplicit false

namespace PicoDualCore
open AtomicProgram

/-- The pacing law of one step. A publish that begins is unacknowledged; from then on the stamp
stays until its PUBACK has come. -/
structure PacedStep (boot : Boot) (s t : Sys Board) : Prop where
  begins : attempts t.app.core0.history = attempts s.app.core0.history ∨ ∃ a, Begins boot s t a
  puback : t.app.core0.timeline.pubackMs = s.app.core0.timeline.pubackMs ∨
    t.app.core0.timeline.pubackMs = some s.app.nowMs
  acknowledged : t.app.core0.timeline.unnoted = true →
    s.app.core0.timeline.unnoted = true ∨ t.app.core0.timeline.pubackMs = some s.app.nowMs
  stamp : t.app.core0.lastMqttPublishCompletedMs ≠ s.app.core0.lastMqttPublishCompletedMs →
    s.app.core0.timeline.unnoted = true

section

variable {boot : Boot} {last : Option (Bytes × Bytes)} {n : Nat} {c c' : Schedule}

theorem ScheduleStep.puback (h : ScheduleStep boot last n c c') :
    c'.timeline.pubackMs = c.timeline.pubackMs ∨ c'.timeline.pubackMs = some n := by
  cases h with
  | calm h => cases h <;> exact .inl rfl
  | acknowledged => exact .inr rfl
  | _ => exact .inl rfl

theorem ScheduleStep.unnoted (h : ScheduleStep boot last n c c')
    (hc : c'.timeline.unnoted = true) :
    c.timeline.unnoted = true ∨ c'.timeline.pubackMs = some n := by
  cases h with
  | calm h =>
    cases h with
    | began => cases hc
    | completed => cases hc
    | _ => exact .inl hc
  | acknowledged => exact .inr rfl
  | _ => exact .inl hc

/-- The stamp moves when a publish is noted. -/
theorem ScheduleStep.stamp (h : ScheduleStep boot last n c c')
    (hc : c'.lastMqttPublishCompletedMs ≠ c.lastMqttPublishCompletedMs) :
    c.timeline.unnoted = true := by
  cases h with
  | calm h =>
    cases h with
    | completed h => exact h
    | _ => exact absurd rfl hc
  | _ => exact absurd rfl hc

end

theorem MainStep.pacedStep {boot : Boot} {s t : Sys Board} (h : MainStep boot s t) :
    PacedStep boot s t := by
  cases h with
  | scheduled h => exact ⟨h.attempts, h.schedule.puback, h.schedule.unnoted, h.schedule.stamp⟩
  | watched h =>
    subst h
    exact ⟨.inl rfl, .inl rfl, .inl, fun hne => absurd rfl hne⟩

/-- In every run of Core 0 from power-on, over all its publishes and failures, every step keeps
the pacing law. -/
theorem publish_paced {boot : Boot} {rounds : Nat} {s t : Sys Board}
    {act : Sys Board → NetInput CoreInput → Sys Board}
    {next : Sys Board → NetInput CoreInput → CoreProg Unit} (hs : AtStart s)
    (h : CoreRun boot rounds s (.step act next) t) (i : NetInput CoreInput) :
    PacedStep boot t (act t i) :=
  (h.mainStep hs i).pacedStep

/-- The time request of the startup begins 100 ms after the PUBACK of the second probe. -/
theorem publish_paced_startup : ∃ t act next,
    CoreRun shippedBoot 12 recovered (.step act next) t ∧ t.app.nowMs = 6100 ∧
    t.app.core0.timeline.pubackMs = some 6000 ∧
    (attempts t.app.core0.history).length = 2 ∧
    (attempts (act t online).app.core0.history).length = 3 ∧
    PacedStep shippedBoot t (act t online) := by
  have hrun := opening_run 193
  have hfacts := shippedSession_moments.1
  generalize opening 193 = p at hrun hfacts
  obtain ⟨p, t⟩ := p
  obtain ⟨hstep, hnow, hpuback, -, -, -, hbefore, hafter⟩ := hfacts
  obtain ⟨act, next, rfl⟩ := Proc.exists_step hstep
  exact ⟨t, act, next, hrun, hnow, hpuback, hbefore, hafter,
    publish_paced recovered_atStart hrun online⟩

end PicoDualCore
