import PicoDualCore.ScheduleSteps
set_option autoImplicit false

namespace PicoDualCore
open AtomicProgram MqttClient

def requestId (boot : Boot) (counter : Nat) : String := s!"{boot.runtimeId}_{counter}"

theorem requestId_injective {boot : Boot} {m n : Nat} (h : requestId boot m = requestId boot n) :
    m = n := by
  have htext : (toString boot.runtimeId ++ "_").toList ++ (Nat.repr m).toList =
      (toString boot.runtimeId ++ "_").toList ++ (Nat.repr n).toList := by
    rw [← String.toList_append, ← String.toList_append]
    exact congrArg String.toList h
  have hdigits := List.append_cancel_left htext
  rw [Nat.toList_repr, Nat.toList_repr] at hdigits
  calc m = Nat.ofDigitChars 10 (Nat.toDigits 10 m) 0 := (Nat.ofDigitChars_ten_toDigits).symm
    _ = Nat.ofDigitChars 10 (Nat.toDigits 10 n) 0 := by rw [hdigits]
    _ = n := Nat.ofDigitChars_ten_toDigits

/-- What holds of the request and the snapshot at every moment. -/
structure UtcState (boot : Boot) (c : Schedule) : Prop where
  pending : ∀ id, c.pendingUtcRequestId = some id → id = requestId boot c.utcRequestCounter
  deadline : c.pendingUtcRequestId.isSome = true →
    c.utcRequestDeadlineMs.isSome = true ∨ c.timeline.utcSending = true
  snapshot : ∀ snapshot, c.utcSnapshot = some snapshot →
    snapshot.runtimeStartEpochMs + snapshot.syncUptimeMs = snapshot.utcEpochMs

theorem Fresh.utcState {boot : Boot} {c : Schedule} {nowMs : Nat} (h : Fresh c nowMs) :
    UtcState boot c where
  pending := by simp [h.pending]
  deadline := by simp [h.pending]
  snapshot := by simp [h.snapshot]

section

variable {boot : Boot} {last : Option (Bytes × Bytes)} {n : Nat} {c c' c'' : Schedule}

theorem CalmStep.utcState (h : CalmStep boot last n c c') (hc : UtcState boot c) :
    UtcState boot c' := by
  cases h with
  | cleared => exact { hc with pending := by simp [Schedule.clearPending]
                               deadline := by simp [Schedule.clearPending] }
  | refused => exact { hc with pending := by simp [Schedule.clearPending]
                               deadline := by simp [Schedule.clearPending] }
  | answered topic payload id timestamp epoch sync =>
    refine ⟨by simp [Schedule.clearPending], by simp [Schedule.clearPending], ?_⟩
    rintro snapshot ⟨⟩
    exact Int.sub_add_cancel epoch sync
  | _ => exact { hc with }

theorem ScheduleStep.utcState (h : ScheduleStep boot last n c c') (hc : UtcState boot c) :
    UtcState boot c' := by
  cases h with
  | calm h => exact h.utcState hc
  | armed => exact { hc with pending := fun id hid => (Option.some.inj hid).symm
                             deadline := fun _ => .inr rfl }
  | disarmed => exact { hc with pending := by simp, deadline := by simp }
  | sent => exact { hc with deadline := fun _ => .inl rfl }
  | acknowledged => exact { hc with }

def Onward (c c' : Schedule) : Prop :=
  c.utcRequestCounter < c'.utcRequestCounter ∨ c'.utcRequestCounter = c.utcRequestCounter ∧
    (c'.pendingUtcRequestId = c.pendingUtcRequestId ∨ c'.pendingUtcRequestId = none)

theorem Onward.refl (c : Schedule) : Onward c c := .inr ⟨rfl, .inl rfl⟩

theorem Onward.trans (h : Onward c c') (h' : Onward c' c'') : Onward c c'' := by
  rcases h with h | ⟨hcounter, hpending⟩
  · rcases h' with h' | ⟨hcounter', -⟩
    · exact .inl (Nat.lt_trans h h')
    · exact .inl (hcounter'.symm ▸ h)
  rcases h' with h' | ⟨hcounter', hpending'⟩
  · exact .inl (hcounter ▸ h')
  refine .inr ⟨hcounter'.trans hcounter, ?_⟩
  rcases hpending' with hpending' | hnone
  · rw [hpending']
    exact hpending
  · exact .inr hnone

theorem ScheduleStep.onward (h : ScheduleStep boot last n c c') : Onward c c' := by
  cases h with
  | calm h => cases h <;> first | exact .inr ⟨rfl, .inl rfl⟩ | exact .inr ⟨rfl, .inr rfl⟩
  | armed => exact .inl (Nat.lt_succ_self _)
  | disarmed => exact .inr ⟨rfl, .inr rfl⟩
  | _ => exact .inr ⟨rfl, .inl rfl⟩

/-- A request that was pending and is no longer is never pending again. -/
theorem Onward.closed {id : String} (hc : UtcState boot c) (hc'' : UtcState boot c'')
    (h : Onward c c') (h' : Onward c' c'') (hopen : c.pendingUtcRequestId = some id)
    (hclosed : c'.pendingUtcRequestId ≠ some id) : c''.pendingUtcRequestId ≠ some id := by
  intro hagain
  have hcounter : c.utcRequestCounter = c''.utcRequestCounter :=
    requestId_injective ((hc.pending id hopen).symm.trans (hc''.pending id hagain))
  rcases h with h | ⟨heq, hpending⟩
  · rcases h' with h' | ⟨heq', -⟩ <;> omega
  rcases h' with h' | ⟨-, hpending'⟩
  · omega
  rcases hpending' with hpending' | hnone
  · exact hclosed (hpending'.symm.trans hagain)
  · rw [hnone] at hagain
    cases hagain

/-- A new snapshot comes from a well-formed answer to the pending request. -/
theorem ScheduleStep.utcSnapshot (h : ScheduleStep boot last n c c')
    (hne : c'.utcSnapshot ≠ c.utcSnapshot) :
    ∃ topic payload id timestamp epoch sync, last = some (topic, payload) ∧
      c.pendingUtcRequestId = some id ∧ UtcAnswer boot topic payload id epoch timestamp ∧
      c'.utcSnapshot = some { timestamp, utcEpochMs := epoch, syncUptimeMs := sync,
                              runtimeStartEpochMs := epoch - sync } ∧
      c'.pendingUtcRequestId = none := by
  cases h with
  | calm h =>
    cases h with
    | answered topic payload id timestamp epoch sync hlast hpending h =>
      exact ⟨topic, payload, id, timestamp, epoch, sync, hlast, hpending, h, rfl, rfl⟩
    | _ => exact absurd rfl hne
  | _ => exact absurd rfl hne

/-- A request is opened while none is pending. -/
theorem ScheduleStep.opened (h : ScheduleStep boot last n c c') {id : String}
    (hid : c'.pendingUtcRequestId = some id) :
    c.pendingUtcRequestId = some id ∨ c.pendingUtcRequestId = none := by
  cases h with
  | calm h =>
    cases h with
    | cleared => cases hid
    | refused => cases hid
    | answered => cases hid
    | _ => exact .inl hid
  | armed h => exact .inr h
  | disarmed => cases hid
  | _ => exact .inl hid

end

/-- One step, as far as the time requests go. -/
structure UtcStep (boot : Boot) (s t : Sys Board) : Prop where
  snapshot : t.app.core0.utcSnapshot ≠ s.app.core0.utcSnapshot →
    ∃ topic payload id timestamp epoch sync, s.net.lastDelivery = some (topic, payload) ∧
      s.app.core0.pendingUtcRequestId = some id ∧
      UtcAnswer boot topic payload id epoch timestamp ∧
      t.app.core0.utcSnapshot = some { timestamp, utcEpochMs := epoch, syncUptimeMs := sync,
                                       runtimeStartEpochMs := epoch - sync } ∧
      t.app.core0.pendingUtcRequestId = none
  opened : ∀ id, t.app.core0.pendingUtcRequestId = some id →
    s.app.core0.pendingUtcRequestId = some id ∨ s.app.core0.pendingUtcRequestId = none

theorem MainStep.utcStep {boot : Boot} {s t : Sys Board} (h : MainStep boot s t) :
    UtcStep boot s t := by
  cases h with
  | scheduled h => exact ⟨h.schedule.utcSnapshot, fun _ hid => h.schedule.opened hid⟩
  | watched h =>
    subst h
    exact ⟨fun hne => absurd rfl hne, fun _ hid => .inl hid⟩

theorem MainStep.onward {boot : Boot} {s t : Sys Board} (h : MainStep boot s t) :
    Onward s.app.core0.schedule t.app.core0.schedule := by
  cases h with
  | scheduled h => exact h.schedule.onward
  | watched h =>
    subst h
    exact .inr ⟨rfl, .inl rfl⟩

section Runs

variable {boot : Boot} {rounds : Nat} {s : Sys Board}

theorem CoreRun.utcState {q : CoreProg Unit} {t : Sys Board} (hs : AtStart s)
    (h : CoreRun boot rounds s q t) : UtcState boot t.app.core0.schedule :=
  h.invariant (I := fun t => UtcState boot t.app.core0.schedule) hs hs.fresh.utcState
    (fun _ _ ha hstep => hstep.schedule.utcState ha) (fun _ ha => { ha with })
    (fun _ _ ha hr => by rw [hr.board.core0]; exact ha)

theorem CoreRun.onward {q q' : CoreProg Unit} {t t' : Sys Board} (hs : AtStart s)
    (h : CoreRun boot rounds s q t)
    (h' : Proc.Reaches (fun _ => True) Around q t q' t') :
    Onward t.app.core0.schedule t'.app.core0.schedule := by
  have htrans : ∀ {a b c : Sys Board}, Onward a.app.core0.schedule b.app.core0.schedule →
      Onward b.app.core0.schedule c.app.core0.schedule →
      Onward a.app.core0.schedule c.app.core0.schedule := fun hab hbc => hab.trans hbc
  exact Proc.Reaches.relates (M := fun a b => Onward a.app.core0.schedule b.app.core0.schedule)
    (fun _ => .refl _) htrans (fun {_ _ _ i} hr _ => (CoreRun.mainStep hs hr i).onward)
    (fun _ he => by rw [he.board.core0]; exact .refl _) h h'

/-- `_utc_send_request` is over when it returns; an error that gets out of it ends Core 0. -/
theorem utcSendRequest_ends (s : Sys Board) :
    (utcSendRequest boot rounds).wp (fun _ => True) Around (fun _ _ => True)
      (fun _ t => t.app.core0.timeline.utcSending = false) (fun e _ => e.transport = false) s := by
  have hdisarm : ∀ t : Sys Board, (onApp utcDisarm).wp (fun _ => True) Around (fun _ _ => True)
      (fun _ t => t.app.core0.timeline.utcSending = false) (fun e _ => e.transport = false) t :=
    fun t => wp_onApp_atomic (fun _ _ _ _ => ⟨trivial, rfl⟩)
  refine (Proc.wp_seq _ _ _).mpr (Proc.wp_mono (X := fun _ _ => False)
    (wp_onApp_atomic (Q := fun _ _ => True) (fun _ _ _ _ => ⟨trivial, trivial⟩)) (fun _ _ h => h)
    (fun requestId t _ => ?_) (fun _ _ h => h.elim))
  refine (Proc.wp_seq _ _ _).mpr (Proc.wp_mono (Q := fun sent t => sent = false →
    t.app.core0.timeline.utcSending = false) (X := fun e _ => e.transport = false) ?_
    (fun _ _ h => h) (fun sent t ht => ?_) (fun _ _ h => h))
  · refine (Proc.wp_handle _ _ _).mpr ((Proc.wp_bind _ _ _).mpr (Proc.wp_mono (wp_any _ t)
      (fun _ _ h => h) (fun _ _ _ => by simp [Proc.pure_eq]) (fun e u _ => ?_)))
    cases e with
    | memoryError =>
      exact (Proc.wp_seq _ _ _).mpr (Proc.wp_mono (hdisarm u) (fun _ _ h => h)
        (fun _ _ _ => rfl) (fun _ _ h => h))
    | osError => exact (Proc.wp_seq _ _ _).mpr (Proc.wp_mono (hdisarm u) (fun _ _ h => h)
        (fun _ _ h _ => h) (fun _ _ h => h))
    | mqttException => exact (Proc.wp_seq _ _ _).mpr (Proc.wp_mono (hdisarm u) (fun _ _ h => h)
        (fun _ _ h _ => h) (fun _ _ h => h))
    | _ => rfl
  · cases sent with
    | false => exact ht rfl
    | true =>
      refine (Proc.wp_seq _ _ _).mpr (Proc.wp_mono (X := fun _ _ => False)
        (wp_onApp_atomic (Q := fun _ _ => True) (fun _ _ _ _ => ⟨trivial, trivial⟩))
        (fun _ _ h => h) (fun _ u _ => ?_) (fun _ _ h => h.elim))
      exact wp_onApp_atomic (fun _ _ _ _ => ⟨trivial, rfl⟩)

/-- A request that is pending at `t` and has been closed by a later moment stays closed. -/
def StaysClosed (q : CoreProg Unit) (t : Sys Board) : Prop :=
  ∀ (q' q'' : CoreProg Unit) (t' t'' : Sys Board) (id : String),
    Proc.Reaches (fun _ => True) Around q t q' t' →
    Proc.Reaches (fun _ => True) Around q' t' q'' t'' →
    t.app.core0.pendingUtcRequestId = some id → t'.app.core0.pendingUtcRequestId ≠ some id →
    t''.app.core0.pendingUtcRequestId ≠ some id

theorem CoreRun.staysClosed {q : CoreProg Unit} {t : Sys Board} (hs : AtStart s)
    (h : CoreRun boot rounds s q t) : StaysClosed q t := by
  intro q' q'' t' t'' id h' h'' hopen hclosed
  have hrun : CoreRun boot rounds s q' t' := h.trans h'
  exact Onward.closed (h.utcState hs) (CoreRun.utcState hs (hrun.trans h'')) (h.onward hs h')
    (hrun.onward hs h'') hopen hclosed

/-- At every moment of every run of Core 0 from power-on: a pending request has a deadline unless
it is being sent, the snapshot is consistent, the next step opens a request only while none is
pending and changes the snapshot only for a well-formed answer to the pending one, and what has
been closed stays closed. -/
theorem utc_requests {q : CoreProg Unit} {t : Sys Board} (hs : AtStart s)
    (h : CoreRun boot rounds s q t) :
    UtcState boot t.app.core0.schedule ∧ StaysClosed q t ∧
    (∀ act next i, q = .step act next → UtcStep boot t (act t i)) ∧
    ∀ u : Sys Board, (utcSendRequest boot rounds).wp (fun _ => True) Around (fun _ _ => True)
      (fun _ v => v.app.core0.timeline.utcSending = false) (fun e _ => e.transport = false) u := by
  refine ⟨h.utcState hs, h.staysClosed hs, fun act next i hq => ?_, utcSendRequest_ends⟩
  subst hq
  exact (h.mainStep hs i).utcStep

end Runs

/-- The answer of the startup comes in. -/
theorem utc_requests_startup : ∃ t act next,
    CoreRun shippedBoot 12 recovered (.step act next) t ∧ t.app.core0.utcSnapshot = none ∧
    t.app.core0.pendingUtcRequestId = some "runtime_e66141040396962a0badf00d_1" ∧
    (act t online).app.core0.utcSnapshot = some
      { timestamp := "2023-11-14T22:13:20Z", utcEpochMs := 1700000000000, syncUptimeMs := 6100,
        runtimeStartEpochMs := 1699999993900 } ∧
    UtcState shippedBoot t.app.core0.schedule ∧ UtcStep shippedBoot t (act t online) := by
  have hrun := opening_run 265
  have hfacts := shippedSession_moments.2.1
  generalize opening 265 = p at hrun hfacts
  obtain ⟨p, t⟩ := p
  obtain ⟨hstep, hbefore, hpending, hafter⟩ := hfacts
  obtain ⟨act, next, rfl⟩ := Proc.exists_step hstep
  have hlaw := utc_requests recovered_atStart hrun
  exact ⟨t, act, next, hrun, hbefore, hpending, hafter, hlaw.1, hlaw.2.2.1 act next online rfl⟩

end PicoDualCore
