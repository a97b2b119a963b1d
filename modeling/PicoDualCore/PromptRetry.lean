import PicoDualCore.TickGates
set_option autoImplicit false

namespace PicoDualCore
open AtomicProgram

/-- An answer to the request `id` from which no time can be taken. -/
structure MalformedAnswer (boot : Boot) (doc : PyDict) (id : String) : Prop where
  source : (doc.getD "source").isText "server" = true ∨
    (doc.getD "source").isText boot.config.source = true
  target : (doc.getD "target").isText boot.config.source = true
  kind : (doc.getD "request_type").isText "utc_time" = true
  request : (doc.getD "request_id").isText id = true
  payload : ∀ body, doc.getD "payload" = .dict body → ∀ epoch, utcEpoch? body = some epoch →
    ∃ e, boot.formatUtcEpochMs epoch = .error e

/-- The board after such an answer. -/
def Board.refused (b : Board) : Board :=
  let backdate : Int := (UTC_PROMPT_RETRY_DELAY_MS : Int) - UTC_RETRY_INTERVAL_MS
  { b with core0 := { b.core0.utcClearPending with
      utcLastAttemptMs := some (ticksAdd (b.nowMs % TICKS_PERIOD) backdate)
      timeline := { b.core0.timeline with utcAttemptMs := some (b.nowMs + backdate) } } }

theorem handleInfoResponse_malformed {boot : Boot} {doc : PyDict} {id : String} {b : Board}
    (h : MalformedAnswer boot doc id) (hb : b.core0.pendingUtcRequestId = some id) (i : CoreInput) :
    (handleInfoResponse boot doc).run i b = (.ret (), b.refused) := by
  have hsource : (!((doc.getD "source").isText "server" ||
      (doc.getD "source").isText boot.config.source)) = false := by
    rcases h.source with hs | hs <;> simp [hs]
  unfold handleInfoResponse
  simp only [hsource, h.target, h.kind, Bool.not_true, Bool.false_eq_true, if_false, Proc.bind_eq,
    Proc.run_bind, look, Proc.run_atomic, hb, h.request]
  cases hbody : doc.getD "payload" with
  | dict body =>
    dsimp only
    cases hepoch : utcEpoch? body with
    | none => rfl
    | some epoch =>
      obtain ⟨e, he⟩ := h.payload body hbody epoch hepoch
      simp only [acceptUtc, he]
      rfl
  | _ => rfl

/-- The step in which a malformed answer to the pending request takes effect. -/
structure Refused (s t : Sys Board) : Prop where
  pending : s.app.core0.pendingUtcRequestId.isSome = true
  schedule : t.app.core0.schedule = s.app.refused.core0.schedule
  clock : t.app.nowMs = s.app.nowMs

/-- When the throttle lets the next request through. -/
def Timeline.retryMs (t : Timeline) : Option Int :=
  t.utcAttemptMs.map (fun atMs => atMs + UTC_RETRY_INTERVAL_MS)

/-- How the schedule has gone on since an answer was refused at `refusedMs`, when the schedule was
`u`: a newer request has been opened; nothing more has happened; the publish of the refused request
has failed; or it has been acknowledged, and noted as an attempt. -/
inductive Since (u : Schedule) (refusedMs : Nat) (c : Schedule) : Prop where
  | newer (h : u.utcRequestCounter < c.utcRequestCounter)
  | quiet (hcounter : c.utcRequestCounter = u.utcRequestCounter)
      (hpending : c.pendingUtcRequestId = none)
      (hsending : c.timeline.utcSending = u.timeline.utcSending)
      (hretry : c.timeline.retryMs = some (refusedMs + (UTC_PROMPT_RETRY_DELAY_MS : Int)))
  | failed (hcounter : c.utcRequestCounter = u.utcRequestCounter)
      (hpending : c.pendingUtcRequestId = none) (hsending : c.timeline.utcSending = false)
      (hack : c.timeline.utcAcknowledged = false)
      (hretry : c.timeline.retryMs = some (refusedMs + (UTC_PROMPT_RETRY_DELAY_MS : Int)))
  | noted (hcounter : c.utcRequestCounter = u.utcRequestCounter)
      (hpending : c.pendingUtcRequestId = none) (hsending : c.timeline.utcSending = false)
      (hack : c.timeline.utcAcknowledged = true) (hinside : u.timeline.utcSending = true)
      (atMs : Nat) (hlater : refusedMs ≤ atMs) (hattempt : c.timeline.utcAttemptMs = some atMs)

section

variable {boot : Boot} {last : Option (Bytes × Bytes)} {refusedMs n : Nat} {u c c' : Schedule}

theorem CalmStep.since (h : CalmStep boot last n c c') (hc : Since u refusedMs c) :
    Since u refusedMs c' := by
  cases hc with
  | newer hc => cases h <;> exact .newer hc
  | quiet hcounter hpending hsending hretry =>
    cases h with
    | refused id hid => rw [hpending] at hid; cases hid
    | answered topic payload id timestamp epoch sync hlast hid =>
      rw [hpending] at hid
      cases hid
    | cleared => exact .quiet hcounter rfl hsending hretry
    | _ => exact .quiet hcounter hpending hsending hretry
  | failed hcounter hpending hsending hack hretry =>
    cases h with
    | refused id hid => rw [hpending] at hid; cases hid
    | answered topic payload id timestamp epoch sync hlast hid =>
      rw [hpending] at hid
      cases hid
    | cleared => exact .failed hcounter rfl hsending hack hretry
    | _ => exact .failed hcounter hpending hsending hack hretry
  | noted hcounter hpending hsending hack hinside atMs hlater hattempt =>
    cases h with
    | refused id hid => rw [hpending] at hid; cases hid
    | answered topic payload id timestamp epoch sync hlast hid =>
      rw [hpending] at hid
      cases hid
    | cleared => exact .noted hcounter rfl hsending hack hinside atMs hlater hattempt
    | _ => exact .noted hcounter hpending hsending hack hinside atMs hlater hattempt

theorem ScheduleStep.since (h : ScheduleStep boot last n c c') (hn : refusedMs ≤ n)
    (hc : Since u refusedMs c) : Since u refusedMs c' := by
  cases h with
  | calm h => exact h.since hc
  | acknowledged =>
    cases hc with
    | newer hc => exact .newer hc
    | quiet hcounter hpending hsending hretry =>
      exact .quiet hcounter hpending hsending hretry
    | failed hcounter hpending hsending hack hretry =>
      exact .failed hcounter hpending hsending (by simp [Timeline.acknowledge, hack, hsending])
        hretry
    | noted hcounter hpending hsending hack hinside atMs hlater hattempt =>
      exact .noted hcounter hpending hsending (by simp [Timeline.acknowledge, hack]) hinside atMs
        hlater hattempt
  | armed =>
    cases hc with
    | newer hc => exact .newer (Nat.lt_succ_of_lt hc)
    | quiet hcounter => exact .newer (hcounter ▸ Nat.lt_succ_self _)
    | failed hcounter => exact .newer (hcounter ▸ Nat.lt_succ_self _)
    | noted hcounter => exact .newer (hcounter ▸ Nat.lt_succ_self _)
  | disarmed hsent hunacked =>
    cases hc with
    | newer hc => exact .newer hc
    | quiet hcounter hpending hsending hretry => exact .failed hcounter rfl rfl hunacked hretry
    | failed hcounter hpending hsending => rw [hsending] at hsent; cases hsent
    | noted hcounter hpending hsending => rw [hsending] at hsent; cases hsent
  | sent hsent hacked =>
    cases hc with
    | newer hc => exact .newer hc
    | quiet hcounter hpending hsending hretry =>
      exact .noted hcounter hpending rfl hacked (hsending.symm.trans hsent) n hn rfl
    | failed hcounter hpending hsending => rw [hsending] at hsent; cases hsent
    | noted hcounter hpending hsending => rw [hsending] at hsent; cases hsent

/-- The stamp has kept the prompt retry, unless the refused request was acknowledged later. -/
theorem Since.retry_iff (h : Since u refusedMs c) (hcounter : c.utcRequestCounter = u.utcRequestCounter)
    (hover : c.timeline.utcSending = false) :
    c.timeline.retryMs = some (refusedMs + (UTC_PROMPT_RETRY_DELAY_MS : Int)) ↔
      u.timeline.utcSending = false ∨ c.timeline.utcAcknowledged = false := by
  cases h with
  | newer hnewer => omega
  | quiet _ _ hsending hretry => exact iff_of_true hretry (.inl (hsending.symm.trans hover))
  | failed _ _ _ hack hretry => exact iff_of_true hretry (.inr hack)
  | noted _ _ _ hack hinside atMs hlater hattempt =>
    refine iff_of_false (fun hretry => ?_) (by simp [hack, hinside])
    rw [Timeline.retryMs, hattempt] at hretry
    have heq : (atMs : Int) + 30000 = refusedMs + 500 := Option.some.inj hretry
    omega

end

section Runs

variable {boot : Boot} {rounds : Nat} {s u v : Sys Board}
  {act : Sys Board → NetInput CoreInput → Sys Board}
  {next : Sys Board → NetInput CoreInput → CoreProg Unit} {i : NetInput CoreInput}
  {q : CoreProg Unit}

def SinceRefusal (u t : Sys Board) : Prop :=
  u.app.nowMs ≤ t.app.nowMs ∧ Since u.app.core0.schedule u.app.nowMs t.app.core0.schedule

theorem Refused.since {t : Sys Board} (h : Refused u t) : SinceRefusal u t := by
  unfold SinceRefusal
  rw [h.schedule, h.clock]
  refine ⟨Nat.le_refl _, .quiet rfl rfl rfl ?_⟩
  simp only [Board.refused, Core0.schedule, Timeline.retryMs, Option.map_some, Option.some.injEq]
  omega

theorem MainStep.sinceRefusal {a b : Sys Board} (h : MainStep boot a b) (ha : SinceRefusal u a) :
    SinceRefusal u b := by
  cases h with
  | scheduled h => exact ⟨Nat.le_trans ha.1 h.clock, h.schedule.since ha.1 ha.2⟩
  | watched h =>
    subst h
    refine ⟨ha.1, ?_⟩
    obtain ⟨-, hsince⟩ := ha
    cases hsince with
    | newer h => exact .newer h
    | quiet h₁ h₂ h₃ h₄ => exact .quiet h₁ h₂ h₃ h₄
    | failed h₁ h₂ h₃ h₄ h₅ => exact .failed h₁ h₂ h₃ h₄ h₅
    | noted h₁ h₂ h₃ h₄ h₅ atMs h₆ h₇ => exact .noted h₁ h₂ h₃ h₄ h₅ atMs h₆ h₇

theorem CoreRun.sinceRefusal (hs : AtStart s) (h : CoreRun boot rounds s (.step act next) u)
    (hrefused : Refused u (act u i))
    (h' : Proc.Reaches (fun _ => True) Around (next u i) (act u i) q v) : SinceRefusal u v := by
  have hrun : CoreRun boot rounds s (next u i) (act u i) := .own h trivial
  refine Proc.Reaches.relates (M := fun a b => SinceRefusal u a → SinceRefusal u b)
    (fun _ h => h) (fun hab hbc ha => hbc (hab ha))
    (fun {_ _ _ i} hr _ => (CoreRun.mainStep hs hr i).sinceRefusal) (fun _ he ha => ?_) hrun h'
    hrefused.since
  refine ⟨Nat.le_trans ha.1 he.board.clock, ?_⟩
  rw [he.board.core0]
  exact ha.2

/-- The throttle holds for 500 ms after the answer, and is open then. -/
theorem throttled_iff_retry (hclock : Now Clocked v.app)
    (hretry : v.app.core0.timeline.retryMs =
      some (u.app.nowMs + (UTC_PROMPT_RETRY_DELAY_MS : Int)))
    (hsoon : v.app.nowMs + 29500 < u.app.nowMs + 2 ^ 29) (hlater : u.app.nowMs ≤ v.app.nowMs) :
    v.app.utcThrottled = true ↔ v.app.nowMs < u.app.nowMs + UTC_PROMPT_RETRY_DELAY_MS := by
  obtain ⟨atMs, hattempt, heq⟩ := Option.map_eq_some_iff.mp hretry
  simp only [UTC_PROMPT_RETRY_DELAY_MS, UTC_RETRY_INTERVAL_MS] at heq
  have hage : TickSafe UTC_RETRY_INTERVAL_MS (v.app.nowMs - atMs) := .young (by omega) (by omega)
  refine ((throttled_exact_iff hclock hattempt).mpr hage).trans ?_
  simp only [UTC_PROMPT_RETRY_DELAY_MS, UTC_RETRY_INTERVAL_MS]
  omega

/-- For every run in which a malformed answer to the pending request is processed at `u`, and every
later moment `v` with no newer request: the throttle opens 500 ms after the answer if and only if
the answer has not come in the middle of a `_utc_send_request` whose publish is then
acknowledged. -/
theorem prompt_retry_iff (hs : AtStart s) (h : CoreRun boot rounds s (.step act next) u)
    (hrefused : Refused u (act u i))
    (h' : Proc.Reaches (fun _ => True) Around (next u i) (act u i) q v)
    (hnext : v.app.core0.utcRequestCounter = u.app.core0.utcRequestCounter)
    (hover : v.app.core0.timeline.utcSending = false) :
    (v.app.core0.timeline.retryMs = some (u.app.nowMs + (UTC_PROMPT_RETRY_DELAY_MS : Int)) ↔
      u.app.core0.timeline.utcSending = false ∨
        v.app.core0.timeline.utcAcknowledged = false) ∧
    (v.app.core0.timeline.retryMs = some (u.app.nowMs + (UTC_PROMPT_RETRY_DELAY_MS : Int)) →
      v.app.nowMs + 29500 < u.app.nowMs + 2 ^ 29 →
      (v.app.utcThrottled = true ↔ v.app.nowMs < u.app.nowMs + UTC_PROMPT_RETRY_DELAY_MS)) ∧
    ∀ doc id b j, MalformedAnswer boot doc id → b.core0.pendingUtcRequestId = some id →
      (handleInfoResponse boot doc).run j b = (.ret (), b.refused) := by
  have hsince := h.sinceRefusal hs hrefused h'
  have hrun : CoreRun boot rounds s q v := Proc.Reaches.trans (.own h trivial) h'
  exact ⟨hsince.2.retry_iff hnext hover,
    fun hretry hsoon => throttled_iff_retry (hrun.clocked hs) hretry hsoon hsince.1,
    fun _ _ _ j hanswer hpending => handleInfoResponse_malformed hanswer hpending j⟩

end Runs

set_option maxRecDepth 100000 in
theorem pumped_facts : let u := startupWith (acceptance ++ acknowledgement ++ answerPacket "") 0 267
    let t := Proc.advance online 1 u.1 u.2
    let v := Proc.advance online 7 u.1 u.2
    u.1.isStep = true ∧ u.2.app.core0.pendingUtcRequestId.isSome = true ∧
      t.2.app.core0.schedule = u.2.app.refused.core0.schedule ∧ t.2.app.nowMs = u.2.app.nowMs ∧
      u.2.app.core0.timeline.utcSending = false ∧ u.2.app.nowMs = 6100 ∧
      v.2.app.nowMs = 6620 ∧ v.2.app.utcThrottled = false ∧
      v.2.app.core0.utcRequestCounter = u.2.app.core0.utcRequestCounter ∧
      v.2.app.core0.timeline.utcSending = false := by
  decide +kernel

/-- The answer comes after the PUBACK of its request: 520 ms later the throttle is open. -/
theorem prompt_retry_pumped : ∃ act next u q v,
    CoreRun shippedBoot 12 poweredOn (.step act next) u ∧ Refused u (act u online) ∧
    Proc.Reaches (fun _ => True) Around (next u online) (act u online) q v ∧
    u.app.core0.timeline.utcSending = false ∧ u.app.nowMs = 6100 ∧ v.app.nowMs = 6620 ∧
    v.app.core0.timeline.retryMs = some (6100 + (UTC_PROMPT_RETRY_DELAY_MS : Int)) ∧
    v.app.utcThrottled = false := by
  have hrun := startupWith_run (acceptance ++ acknowledgement ++ answerPacket "") 0 267
  have hfacts := pumped_facts
  generalize startupWith (acceptance ++ acknowledgement ++ answerPacket "") 0 267 = p at hrun hfacts
  obtain ⟨p, u⟩ := p
  obtain ⟨hstep, hpending, hschedule, hclock, hsending, hnow, hlater, hopen, hnext, hover⟩ := hfacts
  obtain ⟨act, next, rfl⟩ := Proc.exists_step hstep
  have hreaches := Proc.reaches_advance (A := fun _ => True) (E := Around) (i := online) trivial 6
    (Proc.Reaches.refl (p := next u online) (s := act u online))
  have hlaw := prompt_retry_iff poweredOn_atStart hrun ⟨hpending, hschedule, hclock⟩ hreaches
    hnext hover
  dsimp only at hnow
  rw [hnow] at hlaw
  exact ⟨act, next, u, _, _, hrun, ⟨hpending, hschedule, hclock⟩, hreaches, hsending, hnow, hlater,
    hlaw.1.mpr (.inl hsending), hopen⟩

set_option maxRecDepth 100000 in
theorem overwritten_facts :
    let u := startupWith (acceptance ++ answerPacket "" ++ acknowledgement) 0 246
    let t := Proc.advance online 1 u.1 u.2
    let v := Proc.advance online 21 u.1 u.2
    u.1.isStep = true ∧ u.2.app.core0.pendingUtcRequestId.isSome = true ∧
      t.2.app.core0.schedule = u.2.app.refused.core0.schedule ∧ t.2.app.nowMs = u.2.app.nowMs ∧
      u.2.app.nowMs = 6100 ∧ v.2.app.nowMs = 6600 ∧ v.2.app.utcThrottled = true ∧
      v.2.app.core0.timeline.retryMs = some 36100 ∧
      v.2.app.core0.utcRequestCounter = u.2.app.core0.utcRequestCounter ∧
      v.2.app.core0.timeline.utcSending = false := by
  decide +kernel

/-- The answer comes before the PUBACK of its request: 500 ms later the throttle still holds. -/
theorem prompt_retry_overwritten : ∃ act next u q v,
    CoreRun shippedBoot 12 poweredOn (.step act next) u ∧ Refused u (act u online) ∧
    Proc.Reaches (fun _ => True) Around (next u online) (act u online) q v ∧
    v.app.core0.utcRequestCounter = u.app.core0.utcRequestCounter ∧
    v.app.core0.timeline.utcSending = false ∧ u.app.nowMs = 6100 ∧ v.app.nowMs = 6600 ∧
    v.app.core0.timeline.retryMs = some 36100 ∧ v.app.utcThrottled = true := by
  have hrun := startupWith_run (acceptance ++ answerPacket "" ++ acknowledgement) 0 246
  have hfacts := overwritten_facts
  generalize startupWith (acceptance ++ answerPacket "" ++ acknowledgement) 0 246 = p at hrun hfacts
  obtain ⟨p, u⟩ := p
  obtain ⟨hstep, hpending, hschedule, hclock, hnow, hlater, hthrottled, hretry, hnext, hover⟩ :=
    hfacts
  obtain ⟨act, next, rfl⟩ := Proc.exists_step hstep
  have hreaches := Proc.reaches_advance (A := fun _ => True) (E := Around) (i := online) trivial 20
    (Proc.Reaches.refl (p := next u online) (s := act u online))
  exact ⟨act, next, u, _, _, hrun, ⟨hpending, hschedule, hclock⟩, hreaches, hnext, hover, hnow,
    hlater, hretry, hthrottled⟩

end PicoDualCore
