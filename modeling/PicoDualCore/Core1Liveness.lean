import PicoDualCore.Core1Run
import PicoDualCore.DriverTimes
import PicoDualCore.DriverSpec
import PicoDualCore.MqttSession
import Mathlib.Data.List.Chain
set_option autoImplicit false

/-!
The liveness stamp of Core 1. A run is followed with the time slept as the only time: at every
moment the latest refresh of the stamp is less than thirty seconds old.
-/

namespace PicoDualCore
open AtomicProgram

def Gap (a b : Nat) : Prop := a ≤ b ∧ b < a + CORE_1_HEARTBEAT_STALE_TIMEOUT_MS

/-- The refreshes, and the present moment after them, follow each other in time. -/
def Core1.Live {D : Type} (c : Core1 D) : Prop :=
  (c.refreshedAt ++ [c.bus.clockMs]).IsChain Gap

/-- Core 1 at most `age` milliseconds after a refresh that is not before `since`, with at most
`count` devices, whose drivers read in a short time. -/
structure Core1.Fresh {D : Type} (drivers : DriverSet D) (since age count : Nat) (c : Core1 D) :
    Prop where
  chain : c.refreshedAt.IsChain Gap
  last : ∃ last ∈ c.refreshedAt.getLast?, since ≤ last ∧ last ≤ c.bus.clockMs ∧
    c.bus.clockMs ≤ last + age
  short : ∀ device ∈ c.active, SleepsAtMost READ_MS (fun _ => True) (drivers.read device.driver)
  count : c.active.length + c.failed.length ≤ count

/-- Work other than sleeping takes no time. -/
def Core1Input.Quick (i : Core1Input) : Prop := Prompt i.toBusInput

def Keeps {D α : Type} (drivers : DriverSet D) (d age age' count count' : Nat) (P : α → Prop)
    (p : Core1Prog D α) : Prop :=
  ∀ since c, c.Fresh drivers since age count →
    p.wp Core1Input.Quick Proc.Alone
      (fun _ t => t.Live ∧ Proc.Spent (fun c => c.bus.clockMs) d c t)
      (fun a t => P a ∧ t.Fresh drivers since age' count' ∧
        Proc.Spent (fun c => c.bus.clockMs) d c t)
      (fun _ _ => True) c

section Rules
open Proc

variable {D α β : Type} {drivers : DriverSet D} {d w age age' age'' count count' count'' : Nat}
  {P : α → Prop} {Q : β → Prop} {since : Nat} {c : Core1 D}

theorem Core1.Fresh.live (h : c.Fresh drivers since age count)
    (hage : age < CORE_1_HEARTBEAT_STALE_TIMEOUT_MS) : c.Live := by
  obtain ⟨last, hlast, -, hle, hwithin⟩ := h.last
  refine List.isChain_append.mpr ⟨h.chain, List.isChain_singleton _, ?_⟩
  intro a ha b hb
  rw [Option.mem_unique ha hlast]
  cases hb
  exact ⟨hle, by omega⟩

theorem Core1.Fresh.mono (h : c.Fresh drivers since age count) (hage : age ≤ age')
    (hcount : count ≤ count') : c.Fresh drivers since age' count' := by
  obtain ⟨last, hlast, hsince, hle, hwithin⟩ := h.last
  exact ⟨h.chain, ⟨last, hlast, hsince, hle, by omega⟩, h.short, Nat.le_trans h.count hcount⟩

theorem Core1.Fresh.refreshed (h : c.Fresh drivers since age count)
    (hage : age < CORE_1_HEARTBEAT_STALE_TIMEOUT_MS) (activityMs : Option Nat) :
    Core1.Fresh drivers c.bus.clockMs 0 count
      { c with activityMs, refreshedAt := c.refreshedAt ++ [c.bus.clockMs] } where
  chain := h.live hage
  last := ⟨c.bus.clockMs, by simp, Nat.le_refl _, Nat.le_refl _, Nat.le_refl _⟩
  short := h.short
  count := h.count

theorem Core1.Fresh.later {since' : Nat} (h : c.Fresh drivers since age count)
    (hsince : since' ≤ since) : c.Fresh drivers since' age count := by
  obtain ⟨last, hlast, hle, hrest⟩ := h.last
  exact ⟨h.chain, ⟨last, hlast, Nat.le_trans hsince hle, hrest⟩, h.short, h.count⟩

theorem Core1.Fresh.since_le (h : c.Fresh drivers since age count) : since ≤ c.bus.clockMs := by
  obtain ⟨last, -, hsince, hle, -⟩ := h.last
  exact Nat.le_trans hsince hle

theorem keeps_pure {a : α} (h : P a) : Keeps drivers d age age count count P (pure a) :=
  fun _ _ hc => ⟨h, hc, Spent.refl⟩

theorem keeps_throw {e : WorkerError} :
    Keeps drivers d age age' count count' P (throw e : Core1Prog D α) := fun _ _ _ => trivial

theorem keeps_stop : Keeps drivers d age age' count count' P (.stop : Core1Prog D α) :=
  fun _ _ _ => trivial

theorem keeps_within {p : Core1Prog D α} (hd : d ≤ w)
    (h : Keeps drivers d age age' count count' P p) : Keeps drivers w age age' count count' P p :=
  fun since c hc => wp_mono (h since c hc) (fun _ _ hG => ⟨hG.1, hG.2.mono hd⟩)
    (fun _ _ hQ => ⟨hQ.1, hQ.2.1, hQ.2.2.mono hd⟩) (fun _ _ h => h)

theorem keeps_from {p : Core1Prog D α} {young : Nat} (hage : young ≤ age)
    (h : Keeps drivers d age age' count count' P p) : Keeps drivers d young age' count count' P p :=
  fun since c hc => h since c (hc.mono hage (Nat.le_refl _))

theorem keeps_until {p : Core1Prog D α} {old : Nat} (hage : age' ≤ old)
    (h : Keeps drivers d age age' count count' P p) : Keeps drivers d age old count count' P p :=
  fun since c hc => wp_mono (h since c hc) (fun _ _ hG => hG)
    (fun _ _ hQ => ⟨hQ.1, hQ.2.1.mono hage (Nat.le_refl _), hQ.2.2⟩) (fun _ _ h => h)

theorem keeps_seq {p : Core1Prog D α} {f : α → Core1Prog D β}
    (hp : Keeps drivers d age age' count count' P p)
    (hf : ∀ a, P a → Keeps drivers w age' age'' count' count'' Q (f a)) :
    Keeps drivers (d + w) age age'' count count'' Q (p >>= f) := by
  intro since c hc
  refine (wp_seq _ _ _).mpr (wp_mono (hp since c hc)
    (fun _ _ hG => ⟨hG.1, hG.2.mono (Nat.le_add_right _ _)⟩) ?_ (fun _ _ h => h))
  rintro a t ⟨ha, ht, hspent⟩
  exact wp_mono (hf a ha since t ht) (fun _ _ hG => ⟨hG.1, hspent.trans hG.2⟩)
    (fun _ _ hQ => ⟨hQ.1, hQ.2.1, hspent.trans hQ.2.2⟩) (fun _ _ h => h)

theorem keeps_then {p : Core1Prog D α} {f : α → Core1Prog D β}
    (hp : Keeps drivers 0 age age' count count' P p)
    (hf : ∀ a, P a → Keeps drivers d age' age'' count' count'' Q (f a)) :
    Keeps drivers d age age'' count count'' Q (p >>= f) := by
  have h := keeps_seq hp hf
  rwa [Nat.zero_add] at h

theorem keeps_before {p : Core1Prog D α} {f : α → Core1Prog D β}
    (hp : Keeps drivers d age age' count count' P p)
    (hf : ∀ a, P a → Keeps drivers 0 age' age'' count' count'' Q (f a)) :
    Keeps drivers d age age'' count count'' Q (p >>= f) := by
  have h := keeps_seq hp hf
  rwa [Nat.add_zero] at h

theorem keeps_ite {b : Prop} [Decidable b] {p q : Core1Prog D α}
    (hp : b → Keeps drivers d age age' count count' P p)
    (hq : ¬ b → Keeps drivers d age age' count count' P q) :
    Keeps drivers d age age' count count' P (if b then p else q) := by
  by_cases h : b
  · rw [if_pos h]
    exact hp h
  · rw [if_neg h]
    exact hq h

theorem keeps_atomic {f : Core1 D → Core1Input → Except WorkerError α × Core1 D}
    (hage : age < CORE_1_HEARTBEAT_STALE_TIMEOUT_MS)
    (hclock : ∀ c i, (f c i).2.bus.clockMs = c.bus.clockMs)
    (hsame : ∀ c i, (f c i).2.refreshedAt = c.refreshedAt)
    (h : ∀ since c i a, c.Fresh drivers since age count → (f c i).1 = .ok a →
      (∀ device ∈ (f c i).2.active,
        SleepsAtMost READ_MS (fun _ => True) (drivers.read device.driver)) ∧
      (f c i).2.active.length + (f c i).2.failed.length ≤ count' ∧ P a) :
    Keeps drivers 0 age age count count' P (.atomic f) := by
  intro since c hc
  refine wp_atomic ?_
  rintro t rfl i -
  have hspent : Spent (fun c : Core1 D => c.bus.clockMs) 0 t (f t i).2 :=
    ⟨Nat.le_of_eq (hclock t i).symm, Nat.le_of_eq (hclock t i)⟩
  refine ⟨⟨?_, hspent⟩, ?_⟩
  · unfold Core1.Live
    rw [hsame, hclock]
    exact hc.live hage
  · cases hout : (f t i).1 with
    | ok a =>
      obtain ⟨hshort, hcount, ha⟩ := h since t i a hc hout
      refine ⟨ha, ⟨?_, ?_, hshort, hcount⟩, hspent⟩
      · rw [hsame]
        exact hc.chain
      · rw [hsame, hclock]
        exact hc.last
    | error e => trivial

theorem keeps_look {f : Core1 D → Core1Input → Except WorkerError α}
    (hage : age < CORE_1_HEARTBEAT_STALE_TIMEOUT_MS) :
    Keeps drivers 0 age age count count (fun _ => True) (.atomic (fun c i => (f c i, c))) :=
  keeps_atomic hage (fun _ _ => rfl) (fun _ _ => rfl)
    (fun _ _ _ _ hc _ => ⟨hc.short, hc.count, trivial⟩)

theorem keeps_refreshActivity (hage : age < CORE_1_HEARTBEAT_STALE_TIMEOUT_MS) :
    Keeps drivers 0 age 0 count count (fun _ => True) refreshActivity := by
  refine keeps_then (keeps_look hage) (fun now _ => ?_)
  intro since c hc
  refine wp_atomic ?_
  rintro t rfl i -
  have hfresh := (hc.refreshed hage (some now)).later hc.since_le
  exact ⟨⟨hfresh.live (by decide), Spent.refl⟩, trivial, hfresh, Spent.refl⟩

/-- A program of the bus sleeps while the stamp ages. -/
theorem keeps_onBus {p : BusProg α} (h : SleepsAtMost d P p)
    (hage : age + d < CORE_1_HEARTBEAT_STALE_TIMEOUT_MS) :
    Keeps drivers d age (age + d) count count P (onBus p) := by
  intro since c hc
  unfold onBus
  refine wp_zoom (A := Prompt) (J := fun t : Core1 D => t = { c with bus := t.bus })
    ?_ ?_ ?_ ?_ ?_ rfl (h c.bus)
  · exact fun _ hk => hk
  · rintro t u hJ rfl
    exact ⟨rfl, hJ⟩
  · intro t s hJ hs
    have hfresh : Core1.Fresh drivers since (age + d) count { t with bus := s } := by
      obtain ⟨last, hlast, hsince, hle, hwithin⟩ := hc.last
      rw [hJ]
      have := hs.1
      have := hs.2
      exact ⟨hc.chain, ⟨last, hlast, hsince, by simp only; omega, by simp only; omega⟩, hc.short,
        hc.count⟩
    refine ⟨⟨hfresh.live hage, hs⟩, ?_, rfl⟩
    rw [hJ]
  · intro a t hJ hQ
    refine ⟨hQ.1, ?_, hQ.2⟩
    obtain ⟨last, hlast, hsince, hle, hwithin⟩ := hc.last
    have := hQ.2.1
    have := hQ.2.2
    rw [hJ]
    exact ⟨hc.chain, ⟨last, hlast, hsince, by simp only; omega, by simp only; omega⟩, hc.short,
      hc.count⟩
  · exact fun _ _ _ _ => trivial

theorem sleeps_operational {p : BusProg α} (h : SleepsAtMost d P p) :
    SleepsAtMost d (fun r => ∀ a, r = .ok a → P a) (operational p) := by
  refine takes_handle (w := 0) (takes_seq (w := 0) h (fun a ha => takes_pure ?_)) (fun e => ?_)
  · rintro b hb
    cases hb
    exact ha
  · cases e with
    | osError message =>
      refine takes_pure ?_
      rintro b hb
      cases hb
    | _ => exact takes_throw

end Rules

structure DriverSet.Short {D : Type} (drivers : DriverSet D) : Prop where
  create : ∀ definition, SleepsAtMost 0 (fun _ => True) (drivers.create definition)
  initializeDriver : ∀ deviceType config, SleepsAtMost INITIALIZE_MS
    (fun driver => SleepsAtMost READ_MS (fun _ => True) (drivers.read driver))
    (drivers.initializeDriver deviceType config)

structure Core1Config.Bounded (config : Core1Config) : Prop where
  attempts : config.deviceInitializationAttempts ≤ 10
  retryDelay : config.deviceInitializationRetryDelayMs ≤ 60000
  devices : config.devices.length ≤ 16

def SETTLED_MS : Nat := 7100

def DEVICE_MS : Nat := 602000

section Manager
open Proc

variable {D : Type} {drivers : DriverSet D} {config : Core1Config} {age count : Nat}

theorem keeps_elsewhere (hage : age < CORE_1_HEARTBEAT_STALE_TIMEOUT_MS) :
    Keeps drivers 0 age age count count (fun _ => True) elsewhere := keeps_look hage

theorem keeps_core1UptimeMs (hage : age < CORE_1_HEARTBEAT_STALE_TIMEOUT_MS) :
    Keeps drivers 0 age age count count (fun _ => True) core1UptimeMs :=
  keeps_atomic hage (fun _ _ => rfl) (fun _ _ => rfl)
    (fun _ _ _ _ hc _ => ⟨hc.short, hc.count, trivial⟩)

theorem keeps_activeDevices (hage : age < CORE_1_HEARTBEAT_STALE_TIMEOUT_MS) :
    Keeps drivers 0 age age count count (fun active => (∀ device ∈ active,
      SleepsAtMost READ_MS (fun _ => True) (drivers.read device.driver)) ∧ active.length ≤ count)
      activeDevices := by
  refine keeps_atomic hage (fun _ _ => rfl) (fun _ _ => rfl) ?_
  rintro since c i a hc ⟨⟩
  exact ⟨hc.short, hc.count, hc.short, Nat.le_trans (Nat.le_add_right _ _) hc.count⟩

theorem keeps_setDevice {index : Nat} {device : ManagedDevice D}
    (hshort : SleepsAtMost READ_MS (fun _ => True) (drivers.read device.driver))
    (hage : age < CORE_1_HEARTBEAT_STALE_TIMEOUT_MS) :
    Keeps drivers 0 age age count count (fun _ => True) (setDevice index device) := by
  refine keeps_atomic hage (fun _ _ => rfl) (fun _ _ => rfl) (fun since c i a hc _ => ⟨?_, ?_, trivial⟩)
  · intro other hother
    rcases List.mem_or_eq_of_mem_set hother with hold | rfl
    · exact hc.short other hold
    · exact hshort
  · simpa using hc.count

theorem keeps_addDevice {device : ManagedDevice D}
    (hshort : SleepsAtMost READ_MS (fun _ => True) (drivers.read device.driver))
    (hage : age < CORE_1_HEARTBEAT_STALE_TIMEOUT_MS) :
    Keeps drivers 0 age age count (count + 1) (fun _ => True) (addDevice device) := by
  refine keeps_atomic hage (fun _ _ => rfl) (fun _ _ => rfl) (fun since c i a hc _ => ⟨?_, ?_, trivial⟩)
  · intro other hother
    rcases List.mem_append.mp hother with hold | hnew
    · exact hc.short other hold
    · rw [List.mem_singleton.mp hnew]
      exact hshort
  · have := hc.count
    simp only [List.length_append, List.length_singleton]
    omega

theorem length_recordFailed_le (failed : List FailedDevice) (info : FailedDevice) :
    (recordFailed failed info).length ≤ failed.length + 1 := by
  unfold recordFailed replaceFailed
  split <;> simp

theorem keeps_setFailed {info : FailedDevice} (hage : age < CORE_1_HEARTBEAT_STALE_TIMEOUT_MS) :
    Keeps drivers 0 age age count (count + 1) (fun _ => True) (setFailed info) := by
  refine keeps_atomic hage (fun _ _ => rfl) (fun _ _ => rfl)
    (fun since c i a hc _ => ⟨hc.short, ?_, trivial⟩)
  have := hc.count
  have := length_recordFailed_le c.failed info
  simp only
  omega

theorem keeps_updateFailed {info : FailedDevice} (hage : age < CORE_1_HEARTBEAT_STALE_TIMEOUT_MS) :
    Keeps drivers 0 age age count count (fun _ => True) (updateFailed info) := by
  refine keeps_atomic hage (fun _ _ => rfl) (fun _ _ => rfl)
    (fun since c i a hc _ => ⟨hc.short, ?_, trivial⟩)
  simpa [replaceFailed] using hc.count

theorem keeps_deleteFailed {deviceId : String} (hage : age < CORE_1_HEARTBEAT_STALE_TIMEOUT_MS) :
    Keeps drivers 0 age age (count + 1) count (fun _ => True) (deleteFailed deviceId) := by
  refine keeps_atomic hage (fun c _ => by split <;> rfl) (fun c _ => by split <;> rfl)
    (fun since c i a hc hok => ?_)
  by_cases hany : c.failed.any (fun f => f.id == deviceId) = true
  · rw [if_pos hany]
    obtain ⟨info, hmem, hid⟩ := List.any_eq_true.mp hany
    have hlength := List.length_eraseP_of_mem (p := fun f => f.id == deviceId) hmem hid
    have := hc.count
    have := List.length_pos_of_mem hmem
    exact ⟨hc.short, by simp only [hlength]; omega, trivial⟩
  · rw [if_neg hany] at hok
    cases hok

/-- Every step of the sleep ends in a refresh. -/
theorem keeps_sleepWithActivityRefresh (delayMs : Nat)
    (hage : age + ACTIVITY_REFRESH_STEP_MS < CORE_1_HEARTBEAT_STALE_TIMEOUT_MS) :
    Keeps drivers delayMs age age count count (fun _ => True) (sleepWithActivityRefresh delayMs) := by
  induction delayMs using Nat.strongRecOn generalizing age with
  | ind delayMs ih =>
    unfold sleepWithActivityRefresh
    by_cases h : delayMs = 0
    · rw [dif_pos h]
      exact keeps_pure trivial
    · rw [dif_neg h]
      have hstep : min delayMs ACTIVITY_REFRESH_STEP_MS ≤ ACTIVITY_REFRESH_STEP_MS :=
        Nat.min_le_right _ _
      have hpos : 0 < min delayMs ACTIVITY_REFRESH_STEP_MS := by
        unfold ACTIVITY_REFRESH_STEP_MS
        omega
      have hrest := @ih (delayMs - min delayMs ACTIVITY_REFRESH_STEP_MS) (by omega) 0 (by decide)
      have htotal : min delayMs ACTIVITY_REFRESH_STEP_MS +
          (delayMs - min delayMs ACTIVITY_REFRESH_STEP_MS) ≤ delayMs := by omega
      refine keeps_until (Nat.zero_le _) (keeps_within htotal (keeps_seq
        (keeps_onBus (sleeps_sleepMs _) (by omega)) (fun _ _ => ?_)))
      exact keeps_then (keeps_refreshActivity (by omega)) (fun _ _ => hrest)

theorem keeps_processNormalRead (index : Nat) {device : ManagedDevice D}
    (hshort : SleepsAtMost READ_MS (fun _ => True) (drivers.read device.driver)) :
    Keeps drivers READ_MS 0 SETTLED_MS count count (fun _ => True)
      (processNormalRead drivers config index device) := by
  refine keeps_then (keeps_core1UptimeMs (by decide)) (fun started _ => ?_)
  refine keeps_then (keeps_setDevice hshort (by decide)) (fun _ _ => ?_)
  refine keeps_before (keeps_until (show 0 + READ_MS ≤ SETTLED_MS by decide)
    (keeps_onBus (sleeps_operational hshort) (by decide))) (fun r _ => ?_)
  cases r with
  | ok _ =>
    refine keeps_then (keeps_core1UptimeMs (by decide)) (fun finished _ => ?_)
    exact keeps_then (keeps_setDevice hshort (by decide)) (fun _ _ => keeps_pure trivial)
  | error err =>
    refine keeps_then (keeps_setDevice ?_ (by decide)) (fun _ _ => keeps_pure trivial)
    unfold ManagedDevice.readFailed
    dsimp only
    split <;> exact hshort

theorem keeps_lateRetryFailure (info : FailedDevice) (error : String)
    (hage : age < CORE_1_HEARTBEAT_STALE_TIMEOUT_MS) :
    Keeps drivers 0 age age count count (fun _ => True) (lateRetryFailure info error) :=
  keeps_then (keeps_updateFailed hage) (fun _ _ => keeps_pure trivial)

section Retry

variable (hdrivers : drivers.Short)
include hdrivers

/-- A driver's `initialize` right after a refresh. -/
theorem keeps_initializeDriver (deviceType : String) (deviceConfig : PyDict) :
    Keeps drivers INITIALIZE_MS 0 SETTLED_MS count count
      (fun r => ∀ driver, r = .ok driver →
        SleepsAtMost READ_MS (fun _ => True) (drivers.read driver))
      (onBus (operational (drivers.initializeDriver deviceType deviceConfig))) :=
  keeps_until (show 0 + INITIALIZE_MS ≤ SETTLED_MS by decide)
    (keeps_onBus (sleeps_operational (hdrivers.initializeDriver _ _)) (by decide))

theorem keeps_create (definition : DeviceDefinition)
    (hage : age < CORE_1_HEARTBEAT_STALE_TIMEOUT_MS) :
    Keeps drivers 0 age age count count (fun _ => True)
      (onBus (operational (drivers.create definition))) := by
  intro since c hc
  refine Proc.wp_mono (keeps_onBus (sleeps_operational (hdrivers.create definition)) hage since c hc)
    (fun _ _ hG => hG) (fun _ _ hQ => ⟨trivial, hQ.2⟩) (fun _ _ h => h)

theorem keeps_retryFailedDevice (definition : DeviceDefinition) (info : FailedDevice) :
    Keeps drivers INITIALIZE_MS SETTLED_MS SETTLED_MS count count (fun _ => True)
      (retryFailedDevice drivers definition info) := by
  refine keeps_then (keeps_refreshActivity (by decide)) (fun _ _ => ?_)
  refine keeps_then (keeps_create hdrivers definition (by decide)) (fun r _ => ?_)
  cases r with
  | error err =>
    exact keeps_within (Nat.zero_le _) (keeps_until (by decide)
      (keeps_lateRetryFailure _ _ (by decide)))
  | ok _ =>
    refine keeps_before (keeps_initializeDriver hdrivers _ _) (fun r hr => ?_)
    cases r with
    | error err => exact keeps_lateRetryFailure _ _ (by decide)
    | ok driver =>
      refine keeps_then (keeps_addDevice (hr driver rfl) (by decide)) (fun _ _ => ?_)
      exact keeps_then (keeps_deleteFailed (by decide)) (fun _ _ => keeps_pure trivial)

theorem keeps_retryFailedFrom (definitions : List DeviceDefinition) :
    Keeps drivers (definitions.length * INITIALIZE_MS) SETTLED_MS SETTLED_MS count count
      (fun _ => True) (retryFailedFrom drivers definitions) := by
  induction definitions with
  | nil => exact keeps_pure trivial
  | cons definition rest ih =>
    refine keeps_then (keeps_look (by decide)) (fun info _ => ?_)
    rw [List.length_cons, Nat.succ_mul, Nat.add_comm]
    cases info with
    | none => exact keeps_within (Nat.le_add_left _ _) ih
    | some info =>
      refine keeps_seq (keeps_retryFailedDevice hdrivers definition info) (fun result _ => ?_)
      exact keeps_before ih (fun results _ => keeps_pure trivial)

end Retry

section Attempts

variable (hdrivers : drivers.Short) (hconfig : config.Bounded)
include hdrivers hconfig

theorem keeps_attemptsFrom (deviceType : String) (deviceConfig : PyDict) (used : Nat)
    (lastError : Option String) (left : Nat) :
    Keeps drivers (left * 60200) SETTLED_MS SETTLED_MS count count
      (fun r => ∀ driver, r.2 = .ok driver →
        SleepsAtMost READ_MS (fun _ => True) (drivers.read driver))
      (attemptsFrom drivers config deviceType deviceConfig used lastError left) := by
  induction left generalizing used lastError with
  | zero =>
    refine keeps_pure ?_
    rintro driver h
    cases h
  | succ left ih =>
    have hdelay := hconfig.retryDelay
    refine keeps_then (keeps_refreshActivity (by decide)) (fun _ _ => ?_)
    refine keeps_within (d := INITIALIZE_MS + (60000 + left * 60200))
      (by unfold INITIALIZE_MS; omega)
      (keeps_seq (keeps_initializeDriver hdrivers _ _) (fun r hr => ?_))
    cases r with
    | ok driver =>
      refine keeps_pure ?_
      rintro other h
      cases h
      exact hr driver rfl
    | error err =>
      have hrest := ih (used + 1) (some err)
      refine keeps_ite (fun _ => ?_) (fun _ => ?_)
      · exact keeps_seq (keeps_within hdelay (keeps_sleepWithActivityRefresh _ (by decide)))
          (fun _ _ => hrest)
      · exact keeps_within (Nat.le_add_left _ _) hrest

theorem keeps_initializeDriverWithRetries (deviceType : String) (deviceConfig : PyDict) :
    Keeps drivers DEVICE_MS SETTLED_MS SETTLED_MS count count
      (fun r => ∀ driver, r.2 = .ok driver →
        SleepsAtMost READ_MS (fun _ => True) (drivers.read driver))
      (initializeDriverWithRetries drivers config deviceType deviceConfig) := by
  have hattempts := hconfig.attempts
  refine keeps_within ?_ (keeps_attemptsFrom hdrivers hconfig _ _ _ _ _)
  unfold DEVICE_MS
  omega

theorem keeps_initializeSingleDevice (definition : DeviceDefinition) :
    Keeps drivers DEVICE_MS SETTLED_MS SETTLED_MS count (count + 1) (fun _ => True)
      (initializeSingleDevice drivers config definition) := by
  refine keeps_then (keeps_create hdrivers definition (by decide)) (fun r _ => ?_)
  cases r with
  | error err => exact keeps_then (keeps_setFailed (by decide)) (fun _ _ => keeps_pure trivial)
  | ok _ =>
    refine keeps_before (keeps_initializeDriverWithRetries hdrivers hconfig _ _)
      (fun outcome houtcome => ?_)
    cases hout : outcome.2 with
    | error err => exact keeps_then (keeps_setFailed (by decide)) (fun _ _ => keeps_pure trivial)
    | ok driver =>
      exact keeps_then (keeps_addDevice (houtcome driver hout) (by decide))
        (fun _ _ => keeps_pure trivial)

theorem keeps_initializeDevicesFrom (initialized : Nat) (definitions : List DeviceDefinition) :
    Keeps drivers (definitions.length * DEVICE_MS) SETTLED_MS SETTLED_MS count
      (count + definitions.length) (fun _ => True)
      (initializeDevicesFrom drivers config initialized definitions) := by
  induction definitions generalizing initialized count with
  | nil => exact keeps_pure trivial
  | cons definition rest ih =>
    refine keeps_then (keeps_refreshActivity (by decide)) (fun _ _ => ?_)
    rw [List.length_cons, Nat.succ_mul, Nat.add_comm (_ * _), Nat.add_comm rest.length,
      ← Nat.add_assoc]
    exact keeps_seq (keeps_from (Nat.zero_le _)
      (keeps_initializeSingleDevice hdrivers hconfig definition)) (fun success _ => ih _)

theorem keeps_processReinitialization (index : Nat) {device : ManagedDevice D}
    (hshort : SleepsAtMost READ_MS (fun _ => True) (drivers.read device.driver)) :
    Keeps drivers DEVICE_MS SETTLED_MS SETTLED_MS count count (fun _ => True)
      (processReinitialization drivers config index device) := by
  unfold processReinitialization
  cases config.devices.find? (fun d => d.id == device.deviceId) with
  | none => exact keeps_throw
  | some definition =>
    refine keeps_before (keeps_initializeDriverWithRetries hdrivers hconfig _ _)
      (fun outcome houtcome => ?_)
    cases hout : outcome.2 with
    | ok driver =>
      exact keeps_then (keeps_setDevice (houtcome driver hout) (by decide))
        (fun _ _ => keeps_pure trivial)
    | error err =>
      exact keeps_then (keeps_setDevice hshort (by decide)) (fun _ _ => keeps_pure trivial)

theorem keeps_processDevice (index : Nat) {device : ManagedDevice D}
    (hshort : SleepsAtMost READ_MS (fun _ => True) (drivers.read device.driver)) :
    Keeps drivers DEVICE_MS SETTLED_MS SETTLED_MS count count (fun _ => True)
      (processDevice drivers config index device) := by
  refine keeps_then (keeps_refreshActivity (by decide)) (fun _ _ => keeps_ite (fun _ => ?_) (fun _ => ?_))
  · exact keeps_from (Nat.zero_le _) (keeps_processReinitialization hdrivers hconfig index hshort)
  · exact keeps_within (by decide) (keeps_processNormalRead index hshort)

theorem keeps_readPassFrom (indices : List Nat) :
    Keeps drivers (indices.length * DEVICE_MS) SETTLED_MS SETTLED_MS count count (fun _ => True)
      (readPassFrom drivers config indices) := by
  induction indices with
  | nil => exact keeps_pure trivial
  | cons index rest ih =>
    refine keeps_then (keeps_activeDevices (by decide)) (fun active hactive => ?_)
    rw [List.length_cons, Nat.succ_mul, Nat.add_comm]
    cases hget : active[index]? with
    | none => exact keeps_within (Nat.le_add_left _ _) ih
    | some device =>
      refine keeps_seq (keeps_processDevice hdrivers hconfig index
        (hactive.1 device (List.mem_of_getElem? hget))) (fun result _ => ?_)
      exact keeps_then (keeps_elsewhere (by decide)) (fun _ _ => ih)

theorem keeps_runTelemetryReadPass :
    Keeps drivers (count * DEVICE_MS) SETTLED_MS SETTLED_MS count count (fun _ => True)
      (runTelemetryReadPass drivers config) := by
  refine keeps_then (keeps_activeDevices (by decide)) (fun active hactive => ?_)
  refine keeps_within (Nat.mul_le_mul_right _ ?_) (keeps_readPassFrom hdrivers hconfig _)
  rw [List.length_range]
  exact hactive.2

end Attempts

end Manager

section Loop
open Proc

variable {D : Type} {drivers : DriverSet D} {config : Core1Config} {since age count m : Nat}
  {c : Core1 D}

theorem keeps_skipped (next : Option Nat) :
    Keeps drivers 0 age age count count (fun _ => True) (skipped next) := by
  cases next with
  | none => exact keeps_stop
  | some next => exact keeps_pure trivial

theorem keeps_handleResults (results : List DeviceResult)
    (hage : age < CORE_1_HEARTBEAT_STALE_TIMEOUT_MS) :
    Keeps drivers 0 age age count count (fun _ => True) (handleResults results) := by
  induction results with
  | nil => exact keeps_pure trivial
  | cons result rest ih => exact keeps_then (keeps_elsewhere hage) (fun _ _ => ih)

theorem keeps_healthBlock (passes now : Nat) (schedulers : Schedulers)
    (hage : age < CORE_1_HEARTBEAT_STALE_TIMEOUT_MS) :
    Keeps drivers 0 age age count count (fun _ => True) (healthBlock passes now schedulers) := by
  refine keeps_ite (fun _ => ?_) (fun _ => keeps_pure trivial)
  refine keeps_then (keeps_elsewhere hage) (fun _ _ => ?_)
  exact keeps_then (keeps_skipped _) (fun _ _ => keeps_pure trivial)

theorem keeps_admitStartupLog (hage : age + 100 < CORE_1_HEARTBEAT_STALE_TIMEOUT_MS) :
    Keeps drivers 100 age (age + 100) count count (fun _ => True) admitStartupLog := by
  refine keeps_then (keeps_look (by omega)) (fun answer _ => ?_)
  cases answer with
  | refused =>
    exact keeps_before (keeps_onBus (sleeps_sleepMs 100) hage)
      (fun _ _ => keeps_look hage)
  | _ => exact keeps_until (Nat.le_add_right _ _) (keeps_pure trivial)

theorem keeps_admitStartupLogWithFallback
    (hage : age + 200 < CORE_1_HEARTBEAT_STALE_TIMEOUT_MS) :
    Keeps drivers 200 age (age + 200) count count (fun _ => True) admitStartupLogWithFallback := by
  refine keeps_seq (w := 100) (keeps_admitStartupLog (by omega)) (fun answer _ => ?_)
  have hagain : Keeps drivers 100 (age + 100) (age + 200) count count (fun _ => True) (do
      elsewhere
      admitStartupLog) :=
    keeps_then (keeps_elsewhere (by omega)) (fun _ _ => keeps_admitStartupLog (by omega))
  cases answer with
  | tooLarge message => exact hagain
  | memory => exact hagain
  | _ => exact keeps_until (by omega) (keeps_pure trivial)

theorem keeps_admitStartup (hage : age + 200 < CORE_1_HEARTBEAT_STALE_TIMEOUT_MS) :
    Keeps drivers 200 age (age + 200) count count (fun _ => True) admitStartup := by
  refine keeps_before (keeps_admitStartupLogWithFallback hage) (fun answer _ => ?_)
  cases answer with
  | admitted => exact keeps_pure trivial
  | _ => exact keeps_throw

theorem keeps_waitForNetworkStack (rounds : Nat) :
    Keeps drivers (rounds * 100) SETTLED_MS SETTLED_MS count count (fun _ => True)
      (waitForNetworkStack rounds) := by
  induction rounds with
  | zero => exact keeps_stop
  | succ rounds ih =>
    refine keeps_then (keeps_look (by decide)) (fun ready _ => ?_)
    refine keeps_ite (fun _ => keeps_pure trivial) (fun _ => ?_)
    rw [Nat.succ_mul, Nat.add_comm]
    refine keeps_seq (keeps_onBus (sleeps_sleepMs 100) (by decide)) (fun _ _ => ?_)
    exact keeps_then (keeps_refreshActivity (by decide))
      (fun _ _ => keeps_from (Nat.zero_le _) ih)

theorem keeps_readBlock (hdrivers : drivers.Short) (hconfig : config.Bounded) (passes now : Nat)
    (schedulers : Schedulers) :
    Keeps drivers (count * DEVICE_MS) SETTLED_MS SETTLED_MS count count (fun _ => True)
      (readBlock drivers config passes now schedulers) := by
  refine keeps_ite (fun _ => ?_) (fun _ => keeps_pure trivial)
  refine keeps_before (keeps_runTelemetryReadPass hdrivers hconfig) (fun _ _ => ?_)
  refine keeps_then (keeps_look (by decide)) (fun skipNow _ => ?_)
  exact keeps_then (keeps_skipped _) (fun _ _ => keeps_pure trivial)

theorem keeps_retryBlock (hdrivers : drivers.Short) (passes now : Nat) (schedulers : Schedulers) :
    Keeps drivers (config.devices.length * INITIALIZE_MS) SETTLED_MS SETTLED_MS count count
      (fun _ => True) (retryBlock drivers config passes now schedulers) := by
  refine keeps_then (keeps_look (by decide)) (fun hasFailed _ => ?_)
  refine keeps_ite (fun _ => ?_) (fun _ => keeps_pure trivial)
  refine keeps_before (keeps_retryFailedFrom hdrivers _) (fun results _ => ?_)
  refine keeps_then (keeps_handleResults results (by decide)) (fun _ _ => ?_)
  refine keeps_then (keeps_look (by decide)) (fun retryNow _ => ?_)
  exact keeps_then (keeps_skipped _) (fun _ _ => keeps_pure trivial)

abbrev StaysLive {α : Type} (Q : α → Core1 D → Prop) (p : Core1Prog D α) (c : Core1 D) : Prop :=
  p.wp Core1Input.Quick Alone (fun _ t => t.Live) Q (fun _ _ => True) c

theorem staysLive_seq {α β : Type} {P : α → Prop} {Q : β → Core1 D → Prop} {p : Core1Prog D α}
    {f : α → Core1Prog D β} {d age' count' : Nat}
    (h : Keeps drivers d age age' count count' P p) (hc : c.Fresh drivers since age count)
    (hf : ∀ a t, P a → t.Fresh drivers since age' count' → t.bus.clockMs ≤ c.bus.clockMs + d →
      StaysLive Q (f a) t) : StaysLive Q (p >>= f) c :=
  (wp_seq _ _ _).mpr (wp_mono (h since c hc) (fun _ _ hG => hG.1)
    (fun a t hQ => hf a t hQ.1 hQ.2.1 hQ.2.2.2) (fun _ _ h => h))

structure Head (drivers : DriverSet D) (m nextActivity : Nat) (c : Core1 D) : Prop where
  fresh : c.Fresh drivers m SETTLED_MS 16
  due : nextActivity = ticksAdd (m % TICKS_PERIOD) ACTIVITY_INTERVAL_MS
  near : c.bus.clockMs ≤ m + 16 * DEVICE_MS

theorem Core1.Fresh.now (h : c.Fresh drivers since 0 count) :
    c.Fresh drivers c.bus.clockMs 0 count := by
  obtain ⟨last, hlast, -, hle, hwithin⟩ := h.last
  exact ⟨h.chain, ⟨last, hlast, hwithin, hle, hwithin⟩, h.short, h.count⟩

/-- After the block the stamp is less than five seconds old. -/
theorem staysLive_activityBlock {nextActivity : Nat} (hc : c.Fresh drivers m SETTLED_MS 16)
    (hdue : nextActivity = ticksAdd (m % TICKS_PERIOD) ACTIVITY_INTERVAL_MS)
    (hnear : c.bus.clockMs < m + 2 ^ 29) :
    StaysLive (fun next t => ∃ m', t.Fresh drivers m' ACTIVITY_INTERVAL_MS 16 ∧
      next = ticksAdd (m' % TICKS_PERIOD) ACTIVITY_INTERVAL_MS ∧
      t.bus.clockMs ≤ m' + ACTIVITY_INTERVAL_MS) (activityBlock nextActivity) c := by
  have hsince := hc.since_le
  have hdiff : ticksDiff (c.bus.clockMs % TICKS_PERIOD) nextActivity =
      (c.bus.clockMs : Int) - (m + ACTIVITY_INTERVAL_MS : Nat) := by
    rw [hdue, ticksAdd_mod]
    unfold ACTIVITY_INTERVAL_MS
    exact ticksDiff_near (by omega) (by omega)
  refine (wp_seq _ _ _).mpr (wp_atomic ?_)
  rintro t rfl i -
  refine ⟨hc.live (by decide), ?_⟩
  show StaysLive _ (if 0 ≤ ticksDiff t.ticksMs nextActivity then _ else _) t
  by_cases hover : 0 ≤ ticksDiff t.ticksMs nextActivity
  · rw [if_pos hover]
    refine (wp_seq _ _ _).mpr (wp_atomic ?_)
    rintro u rfl j -
    have hfresh := hc.refreshed (by decide) (some u.ticksMs)
    exact ⟨hfresh.live (by decide), _, hfresh.mono (Nat.zero_le _) (Nat.le_refl _), rfl,
      Nat.le_add_right _ _⟩
  · rw [if_neg hover]
    have hover : ¬ 0 ≤ ticksDiff (t.bus.clockMs % TICKS_PERIOD) nextActivity := hover
    rw [hdiff] at hover
    have hrecent : t.bus.clockMs ≤ m + ACTIVITY_INTERVAL_MS := by omega
    obtain ⟨last, hlast, hsince', hle, -⟩ := hc.last
    exact ⟨m, ⟨hc.chain, ⟨last, hlast, hsince', hle, by omega⟩, hc.short, hc.count⟩, hdue, hrecent⟩

variable (hdrivers : drivers.Short) (hconfig : config.Bounded)
include hdrivers hconfig

theorem staysLive_loopTurn (passes : Nat) (schedulers : Schedulers) {nextActivity : Nat}
    (h : Head drivers m nextActivity c) :
    StaysLive (fun r t => ∃ m', Head drivers m' r.2 t)
      (loopTurn drivers config passes schedulers nextActivity) c := by
  have hnear := h.near
  have hdevices := hconfig.devices
  refine staysLive_seq (keeps_elsewhere (by decide)) h.fresh (fun _ c₁ _ h₁ ht₁ => ?_)
  refine staysLive_seq (keeps_look (by decide)) h₁ (fun now c₂ _ h₂ ht₂ => ?_)
  refine staysLive_seq (keeps_readBlock hdrivers hconfig passes now schedulers) h₂
    (fun schedulers c₃ _ h₃ ht₃ => ?_)
  refine staysLive_seq (keeps_retryBlock hdrivers passes now schedulers) h₃
    (fun schedulers c₄ _ h₄ ht₄ => ?_)
  have hshort : c₄.bus.clockMs < m + 2 ^ 29 := by
    have : config.devices.length * INITIALIZE_MS ≤ 16 * INITIALIZE_MS :=
      Nat.mul_le_mul_right _ hdevices
    unfold DEVICE_MS at hnear ht₃
    unfold INITIALIZE_MS at this ht₄
    omega
  refine (wp_seq _ _ _).mpr (wp_mono (staysLive_activityBlock h₄ h.due hshort) (fun _ _ hG => hG) ?_
    (fun _ _ h => h))
  rintro next c₅ ⟨m', h₅, hdue, hrecent⟩
  refine staysLive_seq (keeps_healthBlock passes now schedulers (by decide)) h₅
    (fun schedulers c₆ _ h₆ ht₆ => ?_)
  refine staysLive_seq (keeps_onBus (sleeps_sleepMs 20) (by decide)) h₆ (fun _ c₇ _ h₇ ht₇ => ?_)
  refine ⟨m', h₇.mono (by decide) (Nat.le_refl _), hdue, ?_⟩
  unfold DEVICE_MS
  unfold ACTIVITY_INTERVAL_MS at hrecent
  omega

theorem staysLive_core1Loop (passes rounds : Nat) (schedulers : Schedulers) {nextActivity : Nat}
    (h : Head drivers m nextActivity c) :
    StaysLive (fun _ _ => True) (core1Loop drivers config passes rounds schedulers nextActivity) c := by
  induction rounds generalizing m schedulers nextActivity c with
  | zero => trivial
  | succ rounds ih =>
    refine (wp_seq _ _ _).mpr (wp_mono (staysLive_loopTurn hdrivers hconfig passes schedulers h)
      (fun _ _ hG => hG) ?_ (fun _ _ h => h))
    rintro next t ⟨m', hhead⟩
    exact ih next.1 hhead

theorem staysLive_core1Main (passes rounds : Nat) (h : c.Fresh drivers since SETTLED_MS 0) :
    StaysLive (fun _ _ => True) (core1Main drivers config passes rounds) c := by
  refine staysLive_seq (keeps_refreshActivity (by decide)) h (fun _ c₁ _ h₁ _ => ?_)
  refine staysLive_seq (keeps_initializeDevicesFrom hdrivers hconfig 0 config.devices)
    (h₁.mono (Nat.zero_le _) (Nat.le_refl _)) (fun initialized c₂ _ h₂ _ => ?_)
  have h₂ : c₂.Fresh drivers since SETTLED_MS 16 :=
    h₂.mono (Nat.le_refl _) (by have := hconfig.devices; omega)
  refine staysLive_seq (keeps_core1UptimeMs (by decide)) h₂ (fun _ c₃ _ h₃ _ => ?_)
  refine staysLive_seq (keeps_elsewhere (by decide)) h₃ (fun _ c₄ _ h₄ _ => ?_)
  refine staysLive_seq (keeps_admitStartup (by decide)) h₄ (fun _ c₅ _ h₅ _ => ?_)
  refine staysLive_seq (keeps_look (by decide)) h₅ (fun anchor c₆ _ h₆ _ => ?_)
  refine staysLive_seq (keeps_elsewhere (by decide)) h₆ (fun _ c₇ _ h₇ _ => ?_)
  refine staysLive_seq (keeps_refreshActivity (by decide)) h₇ (fun _ c₈ _ h₈ _ => ?_)
  -- the reading that the schedule of the stamp starts from is the time of this refresh
  have h₈ := h₈.now
  refine (wp_seq _ _ _).mpr (wp_atomic ?_)
  rintro t rfl i -
  refine ⟨h₈.live (by decide), ?_⟩
  refine staysLive_seq (keeps_runTelemetryReadPass hdrivers hconfig)
    (h₈.mono (Nat.zero_le _) (Nat.le_refl _)) (fun _ c₉ _ h₉ ht₉ => ?_)
  refine staysLive_seq (keeps_elsewhere (by decide)) h₉ (fun _ c₁₀ _ h₁₀ ht₁₀ => ?_)
  have ht₉ : c₉.bus.clockMs ≤ t.bus.clockMs + 16 * DEVICE_MS := ht₉
  exact staysLive_core1Loop hdrivers hconfig passes rounds _ ⟨h₁₀, rfl, by omega⟩

theorem staysLive_core1ThreadEntry (passes rounds bootMs nowMs : Nat) :
    StaysLive (fun _ _ => True) (core1ThreadEntry drivers config passes rounds)
      (Core1.initial D bootMs nowMs) := by
  have hinitial : (Core1.initial D bootMs nowMs).Live := List.isChain_singleton _
  refine (wp_seq _ _ _).mpr ((wp_seq _ _ _).mpr (wp_atomic ?_))
  rintro t rfl i -
  refine ⟨hinitial, wp_atomic ?_⟩
  rintro t rfl j -
  have hfresh : Core1.Fresh drivers nowMs 0 0 { Core1.initial D bootMs nowMs with
      activityMs := some (Core1.initial D bootMs nowMs).ticksMs
      refreshedAt := (Core1.initial D bootMs nowMs).refreshedAt ++ [nowMs] } :=
    ⟨List.isChain_singleton _, ⟨nowMs, rfl, Nat.le_refl _, Nat.le_refl _, Nat.le_refl _⟩,
      (fun _ h => nomatch h), Nat.le_refl _⟩
  refine ⟨hfresh.live (by decide), ?_⟩
  refine staysLive_seq (keeps_waitForNetworkStack rounds) (hfresh.mono (Nat.zero_le _) (Nat.le_refl _))
    (fun _ c₁ _ h₁ _ => ?_)
  exact staysLive_core1Main hdrivers hconfig passes rounds h₁

end Loop

theorem boardDrivers_short : boardDrivers.Short where
  create := by
    intro definition
    have hbus : ∀ arguments, SleepsAtMost 0 (fun _ => True) (makeBus arguments) :=
      fun _ => sleeps_answered
    have hi2c : ∀ config freq, SleepsAtMost 0 (fun _ => True) (makeI2c config freq) :=
      fun _ _ => Proc.takes_then sleeps_evaluated (fun _ _ => hbus _)
    have hpin : ∀ (config : PyDict) key, SleepsAtMost 0 (fun _ => True) (do
        let pin ← python (config.subscript key)
        makeBus [pin]) := fun _ _ => Proc.takes_then sleeps_evaluated (fun _ _ => hbus _)
    exact Proc.takes_ite (fun _ => hi2c _ _) (fun _ => Proc.takes_ite (fun _ => hi2c _ _)
      (fun _ => Proc.takes_ite (fun _ => hi2c _ _) (fun _ => Proc.takes_ite (fun _ => hpin _ _)
        (fun _ => Proc.takes_ite (fun _ => hpin _ _) (fun _ => Proc.takes_throw)))))
  initializeDriver := sleeps_initialized

theorem IsIntBetween.asNat_le {low high : Int} {v : PyValue} (h : IsIntBetween low high v) :
    v.asNat ≤ high.toNat := by
  obtain ⟨n, rfl, -, hn⟩ := h
  exact Int.toNat_le_toNat hn

theorem AcceptedConfig.core1_bounded {items : PyDict} (h : AcceptedConfig items) :
    (splitConfigCore1 items).Bounded where
  attempts := (h.integers ("device_initialization_attempts", 10) (by decide)).asNat_le
  retryDelay := (h.integers ("device_initialization_retry_delay_ms", 60000) (by decide)).asNat_le
  devices := by
    obtain ⟨devices, hdevices, -, hlength, -⟩ := h.devices
    show ((items.getD "devices").asList.map _).length ≤ 16
    rw [hdevices]
    show ((devices.map PyValue.dict).map _).length ≤ 16
    rw [List.length_map, List.length_map]
    exact hlength

/-- For every accepted configuration and every run of Core 1's thread in which only sleeping takes
time, less than thirty seconds pass between two consecutive refreshes of the stamp, and since the
latest one. -/
theorem core1_live {items : PyDict} {value : PyValue}
    (h : validateConfig (.dict items) = .ok value) (passes rounds bootMs nowMs : Nat)
    {q : Core1Prog Driver Unit} {c : Core1 Driver}
    (hrun : Proc.Visits Core1Input.Quick
      (core1ThreadEntry boardDrivers (splitConfigCore1 items) passes rounds)
      (Core1.initial Driver bootMs nowMs) q c) : c.Live := by
  obtain ⟨items', heq, haccepted⟩ := AcceptedConfig.of_ok h
  cases heq
  have hstart := staysLive_core1ThreadEntry boardDrivers_short haccepted.core1_bounded passes rounds
    bootMs nowMs
  have hinitial : (Core1.initial Driver bootMs nowMs).Live := List.isChain_singleton _
  exact (Proc.wp_reaches (I := Core1.Live) (R := Proc.Alone) (fun _ => rfl)
    (fun hab hbc => hbc.trans hab) (fun _ _ _ hG => hG) (fun _ _ _ hE => hE.elim)
    hinitial hstart hrun).1

def quietBus : Core1Input where
  outcome := .done
  byte := fun _ => 0
  roms := []
  lateMs := 0

theorem core1_live_ds18b20 : ((core1ThreadEntry boardDrivers
    (splitConfigCore1 (withDevices [.dict plainDs18b20Device])) 1 3).run quietBus
      (Core1.initial Driver 0 1500)).2.Live := by
  have haccepted : validateConfig (.dict (withDevices [.dict plainDs18b20Device])) =
      .ok (.dict (withDevices [.dict plainDs18b20Device])) :=
    validateConfig_self (by decide)
  obtain ⟨q, hq, -⟩ := Proc.run_visits Core1Input.Quick (i := quietBus) rfl
    (core1ThreadEntry boardDrivers (splitConfigCore1 (withDevices [.dict plainDs18b20Device])) 1 3)
    (Core1.initial Driver 0 1500)
  exact core1_live haccepted 1 3 0 1500 hq

end PicoDualCore
