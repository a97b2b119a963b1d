import PicoDualCore.Core1Liveness
import PicoDualCore.DeviceInvariant
set_option autoImplicit false

/-!
The manager that runs the drivers against the one that is told how their calls end: whatever the
drivers do in a run, there is a world in which the other comes to the same records and results.
-/

namespace PicoDualCore
open AtomicProgram

/-- What a driver or the clock has answered. -/
inductive Answer where
  | call (c : DriverCall)
  | time (t : Int)

def Answer.call? : Answer → Option DriverCall
  | .call c => some c
  | .time _ => none

def Answer.time? : Answer → Option Int
  | .call _ => none
  | .time t => some t

def callsOf (past : List Answer) : List DriverCall := past.filterMap Answer.call?

def timesOf (past : List Answer) : List Int := past.filterMap Answer.time?

@[simp] theorem callsOf_append (a b : List Answer) : callsOf (a ++ b) = callsOf a ++ callsOf b :=
  List.filterMap_append

@[simp] theorem timesOf_append (a b : List Answer) : timesOf (a ++ b) = timesOf a ++ timesOf b :=
  List.filterMap_append

namespace DriverWorld

/-- The world gives this answer after those of `past`. -/
def Gives (world : DriverWorld) (past : List Answer) : Answer → Prop
  | .call c => world.error c.deviceId c.operation
      (callErrors (callsOf past) c.deviceId c.operation).length = c.error
  | .time t => world.nowMs (timesOf past).length = t

def Follows (world : DriverWorld) (past : List Answer) : Prop :=
  ∀ before a after, past = before ++ a :: after → world.Gives before a

theorem Follows.before {world : DriverWorld} {past past' : List Answer} (h : world.Follows past')
    (hfront : past <+: past') : world.Follows past := by
  rintro before a after rfl
  obtain ⟨rest, rfl⟩ := hfront
  exact h before a (after ++ rest) (by simp)

theorem Follows.last {world : DriverWorld} {past : List Answer} {a : Answer}
    (h : world.Follows (past ++ [a])) : world.Gives past a := h past a [] rfl

/-- The world in which `past` happens. -/
def replaying (past : List Answer) : DriverWorld where
  error deviceId operation n := (callErrors (callsOf past) deviceId operation)[n]?.getD none
  nowMs n := (timesOf past)[n]?.getD 0

theorem replaying_follows (past : List Answer) : (replaying past).Follows past := by
  rintro before a after rfl
  cases a with
  | call c => simp [Gives, replaying, callErrors, callsOf, Answer.call?]
  | time t => simp [Gives, replaying, timesOf, Answer.time?]

end DriverWorld

def ManagedDevice.forget {D : Type} (d : ManagedDevice D) : ManagedDevice Unit :=
  { d with driver := () }

namespace ManagedDevice

variable {D : Type} (d : ManagedDevice D)

@[simp] theorem forget_deviceId : d.forget.deviceId = d.deviceId := rfl

@[simp] theorem forget_deviceType : d.forget.deviceType = d.deviceType := rfl

@[simp] theorem forget_name : d.forget.name = d.name := rfl

@[simp] theorem forget_consecutiveReadFailures :
    d.forget.consecutiveReadFailures = d.consecutiveReadFailures := rfl

@[simp] theorem forget_totalReadFailures : d.forget.totalReadFailures = d.totalReadFailures := rfl

@[simp] theorem forget_reinitializePending :
    d.forget.reinitializePending = d.reinitializePending := rfl

@[simp] theorem forget_readStarted (nowMs : Int) :
    d.forget.readStarted nowMs = (d.readStarted nowMs).forget := rfl

@[simp] theorem forget_readSucceeded (nowMs : Int) :
    d.forget.readSucceeded nowMs = (d.readSucceeded nowMs).forget := rfl

@[simp] theorem forget_readFailed (threshold : Nat) :
    d.forget.readFailed threshold = (d.readFailed threshold).forget := by
  unfold readFailed
  dsimp only
  have hsame : d.forget.recordReadFailure.consecutiveReadFailures =
    d.recordReadFailure.consecutiveReadFailures := rfl
  rw [hsame]
  split <;> rfl

end ManagedDevice

section Tracks

variable {D α : Type} {past : List Answer} {c c' : Core1 D} {m : DeviceManager}
  {world : DriverWorld} {deviceId : String} {operation : DriverOperation} {error : Option String}

structure Tracks (past : List Answer) (c : Core1 D) (m : DeviceManager) : Prop where
  active : c.active.map ManagedDevice.forget = m.active
  failed : c.failed = m.failed
  calls : m.calls = callsOf past
  readings : m.readings = (timesOf past).length

theorem Tracks.same (h : Tracks past c m) (hsame : c'.active = c.active ∧ c'.failed = c.failed) :
    Tracks past c' m :=
  ⟨hsame.1 ▸ h.active, hsame.2 ▸ h.failed, h.calls, h.readings⟩

theorem Tracks.called (h : Tracks past c m) (deviceId : String) (operation : DriverOperation)
    (error : Option String) :
    Tracks (past ++ [.call ⟨deviceId, operation, error⟩]) c (m.called deviceId operation [error]) :=
  ⟨h.active, h.failed, by simp [DeviceManager.called, h.calls, callsOf, Answer.call?],
    by simp [DeviceManager.called, h.readings, timesOf, Answer.time?]⟩

theorem Tracks.timed (h : Tracks past c m) (t : Int) :
    Tracks (past ++ [.time t]) c { m with readings := m.readings + 1 } :=
  ⟨h.active, h.failed, by simp [h.calls, callsOf, Answer.call?],
    by simp [h.readings, timesOf, Answer.time?]⟩

theorem Tracks.call (h : Tracks past c m)
    (hw : world.Follows (past ++ [.call ⟨deviceId, operation, error⟩])) :
    m.call world deviceId operation = (error, m.called deviceId operation [error]) := by
  have hgives : world.error deviceId operation
    (callErrors (callsOf past) deviceId operation).length = error := hw.last
  rw [DeviceManager.call, h.calls, hgives]

theorem Tracks.nowMs {t : Int} (h : Tracks past c m) (hw : world.Follows (past ++ [.time t])) :
    m.nowMs world = (t, { m with readings := m.readings + 1 }) := by
  have hgives : world.nowMs (timesOf past).length = t := hw.last
  rw [DeviceManager.nowMs, h.readings, hgives]

end Tracks

/-- In a world that goes on like this the manager comes to `b`, and to the records of Core 1. -/
def Replays {D β : Type} (past : List Answer) (f : DriverWorld → β × DeviceManager) (b : β)
    (c : Core1 D) : Prop :=
  ∃ m past', Tracks past' c m ∧ past <+: past' ∧
    ∀ world : DriverWorld, world.Follows past' → f world = (b, m)

abbrev Comes {D α : Type} (p : Core1Prog D α) (c : Core1 D) (Q : α → Core1 D → Prop) : Prop :=
  p.wp (fun _ => True) Proc.Alone (fun _ _ => True) Q (fun _ _ => True) c

section Programs

variable {D α β γ : Type} {past : List Answer} {c : Core1 D} {m : DeviceManager} {b : β}

theorem Replays.here {f : DriverWorld → β × DeviceManager} {past₁ : List Answer}
    (h : Tracks past₁ c m) (hfront : past <+: past₁)
    (hf : ∀ world : DriverWorld, world.Follows past₁ → f world = (b, m)) : Replays past f b c :=
  ⟨m, past₁, h, hfront, hf⟩

theorem Replays.further {f g : DriverWorld → β × DeviceManager} {past₁ : List Answer}
    (h : Replays past₁ g b c) (hfront : past <+: past₁)
    (hf : ∀ world : DriverWorld, world.Follows past₁ → f world = g world) :
    Replays past f b c := by
  obtain ⟨m', past', htracks, hfront', hg⟩ := h
  exact ⟨m', past', htracks, hfront.trans hfront', fun world hw =>
    (hf world (hw.before hfront')).trans (hg world hw)⟩

theorem comes_seq {p : Core1Prog D α} {f : α → Core1Prog D β} {Q : β → Core1 D → Prop}
    {P : α → Core1 D → Prop} (hp : Comes p c P) (hf : ∀ a c', P a c' → Comes (f a) c' Q) :
    Comes (p >>= f) c Q :=
  (Proc.wp_seq _ _ _).mpr (Proc.wp_mono hp (fun _ _ h => h) hf (fun _ _ h => h))

abbrev Spares (p : Core1Prog D α) : Prop :=
  ∀ c, Comes p c (fun _ c' => c'.active = c.active ∧ c'.failed = c.failed)

theorem spares_pure {a : α} : Spares (.ret a : Core1Prog D α) :=
  fun _ => Proc.wp_ret.mpr ⟨rfl, rfl⟩

theorem spares_seq {p : Core1Prog D α} {f : α → Core1Prog D β} (hp : Spares p)
    (hf : ∀ a, Spares (f a)) : Spares (p >>= f) := fun c =>
  comes_seq (hp c) (fun a c' hc => Proc.wp_mono (hf a c') (fun _ _ h => h)
    (fun _ _ h => ⟨h.1.trans hc.1, h.2.trans hc.2⟩) (fun _ _ h => h))

theorem spares_atomic {f : Core1 D → Core1Input → Except WorkerError α × Core1 D}
    (h : ∀ c i, (f c i).2.active = c.active ∧ (f c i).2.failed = c.failed) :
    Spares (.atomic f) := by
  refine fun c => Proc.wp_atomic (fun t ht i _ => ⟨trivial, ?_⟩)
  obtain rfl : t = c := ht
  cases (f t i).1 <;> first | exact h t i | trivial

theorem spares_onBus {p : BusProg α} : Spares (onBus p : Core1Prog D α) := by
  intro c
  refine Proc.wp_zoom (A := fun _ => True) (R := fun _ _ => True) (G := fun _ _ => True)
    (J := fun c' => c'.active = c.active ∧ c'.failed = c.failed) (Q := fun _ _ => True)
    (X := fun _ _ => True) (fun _ _ => trivial) ?_ ?_ ?_ ?_ ⟨rfl, rfl⟩ (wp_any p _)
  · rintro t _ ht rfl
    exact ⟨trivial, ht⟩
  · exact fun _ _ ht _ => ⟨trivial, ht, rfl⟩
  · exact fun _ _ ht _ => ht
  · exact fun _ _ _ _ => trivial

theorem spares_refreshActivity : Spares (refreshActivity : Core1Prog D Unit) :=
  spares_seq (spares_atomic (fun _ _ => ⟨rfl, rfl⟩))
    (fun _ => spares_atomic (fun _ _ => ⟨rfl, rfl⟩))

theorem spares_sleepWithActivityRefresh {delayMs : Nat} :
    Spares (sleepWithActivityRefresh delayMs : Core1Prog D Unit) := by
  induction delayMs using Nat.strongRecOn with
  | _ delayMs ih =>
    rw [sleepWithActivityRefresh]
    split
    · exact fun c => Proc.wp_ret.mpr ⟨rfl, rfl⟩
    · refine spares_seq spares_onBus (fun _ => spares_seq spares_refreshActivity (fun _ => ih _ ?_))
      unfold ACTIVITY_REFRESH_STEP_MS
      omega

theorem spares_core1UptimeMs : Spares (core1UptimeMs : Core1Prog D Int) :=
  spares_atomic (fun _ _ => ⟨rfl, rfl⟩)

theorem comes_after {p : Core1Prog D α} {f : α → Core1Prog D β} {Q : β → Core1 D → Prop}
    (hp : Spares p) (h : Tracks past c m) (hf : ∀ a c', Tracks past c' m → Comes (f a) c' Q) :
    Comes (p >>= f) c Q :=
  comes_seq (hp c) (fun a c' hsame => hf a c' (h.same hsame))

def errorOf (answer : Except String α) : Option String :=
  match answer with
  | .ok _ => none
  | .error err => some err

theorem comes_called {q : BusProg α} {f : Except String α → Core1Prog D β} {Q : β → Core1 D → Prop}
    (deviceId : String) (operation : DriverOperation) (h : Tracks past c m)
    (hf : ∀ answer c', Tracks (past ++ [.call ⟨deviceId, operation, errorOf answer⟩]) c'
      (m.called deviceId operation [errorOf answer]) → Comes (f answer) c' Q) :
    Comes (onBus (operational q) >>= f) c Q :=
  comes_after spares_onBus h (fun answer c' h' => hf answer c' (h'.called _ _ _))

theorem comes_atomic {f : Core1 D → Core1Input → Except WorkerError α × Core1 D}
    {Q : α → Core1 D → Prop} (h : ∀ i a, (f c i).1 = .ok a → Q a (f c i).2) :
    Comes (.atomic f) c Q := by
  refine Proc.wp_atomic (fun t ht i _ => ⟨trivial, ?_⟩)
  obtain rfl : t = c := ht
  cases ha : (f t i).1 with
  | ok a => exact h i a ha
  | error e => trivial

theorem comes_mono {p : Core1Prog D α} {P Q : α → Core1 D → Prop} (h : Comes p c P)
    (hPQ : ∀ a c', P a c' → Q a c') : Comes p c Q :=
  Proc.wp_mono h (fun _ _ h => h) hPQ (fun _ _ h => h)

theorem comes_step {f : Core1 D → Core1Input → Except WorkerError α × Core1 D}
    {g : α → Core1Prog D β} {Q : β → Core1 D → Prop}
    (h : ∀ i a, (f c i).1 = .ok a → Comes (g a) (f c i).2 Q) : Comes (.atomic f >>= g) c Q :=
  comes_seq (comes_atomic h) (fun _ _ hg => hg)

end Programs

section Functions

variable {D : Type} {drivers : DriverSet D} {config : Core1Config} {past : List Answer}
  {c : Core1 D} {m : DeviceManager}

theorem replays_attemptsFrom (deviceId : String) {deviceType : String} {deviceConfig : PyDict}
    {used left : Nat} {lastError : Option String} (h : Tracks past c m) :
    Comes (attemptsFrom drivers config deviceType deviceConfig used lastError left) c
      (fun outcome => Replays past (fun world => m.attemptsFrom world deviceId used lastError left)
        (outcome.1, outcome.2.map (fun _ => ()))) := by
  induction left generalizing past c m used lastError with
  | zero => exact Proc.wp_ret.mpr (.here h List.prefix_rfl (fun _ _ => rfl))
  | succ left ih =>
    refine comes_after spares_refreshActivity h (fun _ c h => ?_)
    refine comes_called deviceId .initialization h (fun answer c h' => ?_)
    cases answer with
    | ok driver =>
      refine Proc.wp_ret.mpr (.here h' (List.prefix_append _ _) (fun world hw => ?_))
      rw [DeviceManager.attemptsFrom, h.call hw]
      rfl
    | error err =>
      have hrest : ∀ c', Tracks (past ++ [.call ⟨deviceId, .initialization, some err⟩]) c'
          (m.called deviceId .initialization [some err]) →
          Comes (attemptsFrom drivers config deviceType deviceConfig (used + 1) (some err) left) c'
            (fun outcome => Replays past
              (fun world => m.attemptsFrom world deviceId used lastError (left + 1))
              (outcome.1, outcome.2.map (fun _ => ()))) := by
        intro c' h'
        refine comes_mono (ih h') (fun outcome t hreplays => ?_)
        refine hreplays.further (List.prefix_append _ _) (fun world hw => ?_)
        rw [DeviceManager.attemptsFrom, h.call hw]
      dsimp only
      split
      · exact comes_after spares_sleepWithActivityRefresh h' (fun _ c h' => hrest c h')
      · exact hrest c h'

theorem Tracks.recordFailure (h : Tracks past c m) (info : FailedDevice) :
    Tracks past { c with failed := recordFailed c.failed info } (m.recordFailure info) :=
  ⟨h.active, congrArg (recordFailed · info) h.failed, h.calls, h.readings⟩

theorem Tracks.recordSuccess (h : Tracks past c m) (definition : DeviceDefinition) (driver : D)
    (used : Nat) :
    Tracks past { c with active := c.active ++ [{
        deviceId := definition.id, deviceType := definition.deviceType, driver
        name := definition.name, initializationAttemptsUsed := used }] }
      (m.recordSuccess definition used) :=
  ⟨by simp [DeviceManager.recordSuccess, h.active, ManagedDevice.forget], h.failed, h.calls,
    h.readings⟩

theorem replays_initializeSingleDevice {definition : DeviceDefinition} (h : Tracks past c m) :
    Comes (initializeSingleDevice drivers config definition) c
      (Replays past (fun world => m.initializeSingleDevice world config definition)) := by
  refine comes_called definition.id .construction h (fun answer c h' => ?_)
  cases answer with
  | error err =>
    refine comes_step (fun _ _ _ => Proc.wp_ret.mpr ?_)
    refine .here (h'.recordFailure _) (List.prefix_append _ _) (fun world hw => ?_)
    rw [DeviceManager.initializeSingleDevice, h.call hw]
    rfl
  | ok created =>
    refine comes_seq (replays_attemptsFrom definition.id h') (fun outcome c hattempts => ?_)
    obtain ⟨m₁, past₁, h₁, hfront, heq⟩ := hattempts
    obtain ⟨used, outcome⟩ := outcome
    have hsingle : ∀ world : DriverWorld, world.Follows past₁ →
        m.initializeSingleDevice world config definition =
          match outcome.map (fun _ => ()) with
          | .error err => (false, m₁.recordInitializationFailure definition used err)
          | .ok () => (true, m₁.recordSuccess definition used) := by
      intro world hw
      have heq' : (m.called definition.id .construction [none]).attemptsFrom world definition.id 0
        none config.deviceInitializationAttempts = _ := heq world hw
      rw [DeviceManager.initializeSingleDevice, h.call (hw.before hfront)]
      dsimp only [errorOf]
      rw [DeviceManager.initializeDriverWithRetries, heq']
      cases outcome <;> rfl
    have hpast : past <+: past₁ := (List.prefix_append _ _).trans hfront
    cases outcome with
    | error err =>
      exact comes_step (fun _ _ _ => Proc.wp_ret.mpr (.here (h₁.recordFailure _) hpast hsingle))
    | ok driver =>
      exact comes_step (fun _ _ _ => Proc.wp_ret.mpr (.here (h₁.recordSuccess _ _ _) hpast hsingle))

theorem replays_initializeDevicesFrom {count : Nat} {definitions : List DeviceDefinition}
    (h : Tracks past c m) :
    Comes (initializeDevicesFrom drivers config count definitions) c (fun _ =>
      Replays past (fun world => ((), m.initializeDevicesFrom world config definitions)) ()) := by
  induction definitions generalizing past c m count with
  | nil => exact Proc.wp_ret.mpr (.here h List.prefix_rfl (fun _ _ => rfl))
  | cons definition rest ih =>
    refine comes_after spares_refreshActivity h (fun _ c h => ?_)
    refine comes_seq (replays_initializeSingleDevice h) (fun success c hsingle => ?_)
    obtain ⟨m₁, past₁, h₁, hfront, heq⟩ := hsingle
    refine comes_mono (ih h₁) (fun _ t hrest => hrest.further hfront (fun world hw => ?_))
    have heq' : m.initializeSingleDevice world config definition = (success, m₁) := heq world hw
    rw [DeviceManager.initializeDevicesFrom, heq']

theorem Tracks.setDevice (h : Tracks past c m) (index : Nat) (device : ManagedDevice D) :
    Tracks past { c with active := c.active.set index device } (m.setDevice index device.forget) :=
  ⟨by simp [DeviceManager.setDevice, h.active.symm, List.map_set], h.failed, h.calls, h.readings⟩

theorem replays_processReinitialization {index : Nat} {device : ManagedDevice D}
    (h : Tracks past c m) :
    Comes (processReinitialization drivers config index device) c (fun result => Replays past
      (fun world => m.processReinitialization world config index device.forget) (.ok result)) := by
  unfold processReinitialization
  cases hfind : config.devices.find? (fun d => d.id == device.deviceId) with
  | none => trivial
  | some definition =>
    refine comes_seq (replays_attemptsFrom device.deviceId h) (fun outcome c hattempts => ?_)
    obtain ⟨m₁, past₁, h₁, hfront, heq⟩ := hattempts
    obtain ⟨used, outcome⟩ := outcome
    have hprocess : ∀ world : DriverWorld, world.Follows past₁ →
        m.processReinitialization world config index device.forget =
          match outcome.map (fun _ => ()) with
          | .ok () => (.ok (.reinitialized device.deviceId device.deviceType used),
              m₁.setDevice index (device.forget.reinitialized ()))
          | .error err => (.ok (.reinitializationFailed device.deviceId device.deviceType err
              device.consecutiveReadFailures device.totalReadFailures used
              (!device.reinitFailureLogged)),
              m₁.setDevice index device.forget.reinitializationFailed) := by
      intro world hw
      have hfind' : config.devices.find? (fun d => d.id == device.forget.deviceId) =
        some definition := hfind
      have heq' : m.attemptsFrom world device.forget.deviceId 0 none
        config.deviceInitializationAttempts = _ := heq world hw
      rw [DeviceManager.processReinitialization, hfind']
      dsimp only
      rw [DeviceManager.initializeDriverWithRetries, heq']
      cases outcome <;> rfl
    cases outcome with
    | ok driver =>
      exact comes_step (fun _ _ _ => Proc.wp_ret.mpr (.here (h₁.setDevice _ _) hfront hprocess))
    | error err =>
      exact comes_step (fun _ _ _ => Proc.wp_ret.mpr (.here (h₁.setDevice _ _) hfront hprocess))

theorem replays_processNormalRead {index : Nat} {device : ManagedDevice D} (h : Tracks past c m) :
    Comes (processNormalRead drivers config index device) c
      (Replays past (fun world => m.processNormalRead world config index device.forget)) := by
  refine comes_after spares_core1UptimeMs h (fun started c h => ?_)
  have hstarted := h.timed started
  refine comes_step (fun _ _ _ => ?_)
  refine comes_called (device.readStarted started).deviceId .read
    (hstarted.setDevice index (device.readStarted started)) (fun answer c hread => ?_)
  have hpast := (List.prefix_append past [.time started]).trans (List.prefix_append _
    [.call ⟨(device.readStarted started).deviceId, .read, errorOf answer⟩])
  cases answer with
  | ok =>
    refine comes_after spares_core1UptimeMs hread (fun finished c hread => ?_)
    refine comes_step (fun _ _ _ => Proc.wp_ret.mpr ?_)
    refine .here ((hread.timed finished).setDevice index
      ((device.readStarted started).readSucceeded finished))
      (hpast.trans (List.prefix_append _ _))
      (fun world hw => ?_)
    have hcalled := hw.before (List.prefix_append _ _)
    rw [DeviceManager.processNormalRead, h.nowMs (hcalled.before (List.prefix_append _ _))]
    dsimp only [ManagedDevice.forget_readStarted, ManagedDevice.forget_deviceId]
    rw [hstarted.call hcalled]
    dsimp only [errorOf]
    rw [(hstarted.called _ _ none).nowMs hw]
    simp [DeviceManager.setDevice, DeviceManager.called]
    rfl
  | error err =>
    refine comes_step (fun _ _ _ => Proc.wp_ret.mpr ?_)
    refine .here (hread.setDevice index
      ((device.readStarted started).readFailed config.deviceReadFailureThreshold))
      hpast
      (fun world hw => ?_)
    rw [DeviceManager.processNormalRead, h.nowMs (hw.before (List.prefix_append _ _))]
    dsimp only [ManagedDevice.forget_readStarted, ManagedDevice.forget_deviceId]
    rw [hstarted.call hw]
    dsimp only [errorOf]
    simp [DeviceManager.setDevice, DeviceManager.called]

theorem processDevice_pending (world : DriverWorld) (index : Nat) (device : ManagedDevice Unit)
    (h : device.reinitializePending = true) : m.processDevice world config index device =
      m.processReinitialization world config index device := by
  rw [DeviceManager.processDevice, if_pos h]

theorem processDevice_ready (world : DriverWorld) (index : Nat) (device : ManagedDevice Unit)
    (h : device.reinitializePending = false) : m.processDevice world config index device =
      (.ok (m.processNormalRead world config index device).1,
        (m.processNormalRead world config index device).2) := by
  rw [DeviceManager.processDevice, if_neg (by simp [h])]

theorem replays_processDevice {index : Nat} {device : ManagedDevice D} (h : Tracks past c m) :
    Comes (processDevice drivers config index device) c (fun result => Replays past
      (fun world => m.processDevice world config index device.forget) (.ok result)) := by
  refine comes_after spares_refreshActivity h (fun _ c h => ?_)
  cases hpending : device.reinitializePending with
  | true =>
    refine comes_mono (replays_processReinitialization h) (fun result t hreplays => ?_)
    exact hreplays.further List.prefix_rfl (fun world _ =>
      processDevice_pending world index device.forget hpending)
  | false =>
    refine comes_mono (replays_processNormalRead h) (fun result t hreplays => ?_)
    obtain ⟨m', past', htracks, hfront, heq⟩ := hreplays
    refine .here htracks hfront (fun world hw => ?_)
    have hread : m.processNormalRead world config index device.forget = (result, m') := heq world hw
    rw [processDevice_ready world index device.forget hpending, hread]

theorem Tracks.updateFailed (h : Tracks past c m) (info : FailedDevice) :
    Tracks past { c with failed := replaceFailed c.failed info }
      { m with failed := replaceFailed m.failed info } :=
  ⟨h.active, congrArg (replaceFailed · info) h.failed, h.calls, h.readings⟩

theorem Tracks.deleteFailed (h : Tracks past c m) (deviceId : String) :
    Tracks past { c with failed := c.failed.eraseP (fun f => f.id == deviceId) }
      (m.deleteFailed deviceId) :=
  ⟨h.active, congrArg (List.eraseP (fun f => f.id == deviceId)) h.failed, h.calls, h.readings⟩

theorem replays_lateRetryFailure {info : FailedDevice} {error : String} (h : Tracks past c m) :
    Comes (lateRetryFailure info error : Core1Prog D DeviceResult) c
      (Replays past (fun _ => m.lateRetryFailure info error)) :=
  comes_step (fun _ _ _ => Proc.wp_ret.mpr
    (.here (h.updateFailed _) List.prefix_rfl (fun _ _ => rfl)))

theorem comes_deleteFailed {deviceId : String} (h : Tracks past c m) :
    Comes (deleteFailed deviceId : Core1Prog D Unit) c
      (fun _ c => Tracks past c (m.deleteFailed deviceId)) := by
  refine comes_atomic (fun _ _ hok => ?_)
  by_cases hmem : c.failed.any (fun f => f.id == deviceId) = true
  · simp only [if_pos hmem]
    exact h.deleteFailed deviceId
  · simp only [if_neg hmem] at hok
    cases hok

theorem replays_retryFailedDevice {definition : DeviceDefinition} {info : FailedDevice}
    (h : Tracks past c m) :
    Comes (retryFailedDevice drivers definition info) c
      (Replays past (fun world => m.retryFailedDevice world definition info)) := by
  refine comes_after spares_refreshActivity h (fun _ c h => ?_)
  refine comes_called definition.id .construction h (fun answer c hcreated => ?_)
  cases answer with
  | error err =>
    refine comes_mono (replays_lateRetryFailure hcreated) (fun result t hreplays => ?_)
    refine hreplays.further (List.prefix_append _ _) (fun world hw => ?_)
    rw [DeviceManager.retryFailedDevice, h.call hw]
    rfl
  | ok =>
    have hcreated : Tracks (past ++ [.call ⟨definition.id, .construction, none⟩]) c
      (m.called definition.id .construction [none]) := hcreated
    refine comes_called definition.id .initialization hcreated (fun answer c hstarted => ?_)
    have hpast := (List.prefix_append past [.call ⟨definition.id, .construction, none⟩]).trans
      (List.prefix_append _ [.call ⟨definition.id, .initialization, errorOf answer⟩])
    cases answer with
    | error err =>
      refine comes_mono (replays_lateRetryFailure hstarted) (fun result t hreplays => ?_)
      refine hreplays.further hpast (fun world hw => ?_)
      rw [DeviceManager.retryFailedDevice, h.call (hw.before (List.prefix_append _ _))]
      dsimp only [errorOf]
      rw [hcreated.call hw]
      rfl
    | ok driver =>
      refine comes_step (fun _ _ _ => ?_)
      refine comes_seq (comes_deleteFailed (hstarted.recordSuccess definition driver _))
        (fun _ c hdeleted => Proc.wp_ret.mpr (.here hdeleted hpast (fun world hw => ?_)))
      rw [DeviceManager.retryFailedDevice, h.call (hw.before (List.prefix_append _ _))]
      dsimp only [errorOf]
      rw [hcreated.call hw]
      rfl

theorem replays_retryFailedFrom {definitions : List DeviceDefinition} (h : Tracks past c m) :
    Comes (retryFailedFrom drivers definitions) c
      (Replays past (fun world => m.retryFailedFrom world definitions)) := by
  induction definitions generalizing past c m with
  | nil => exact Proc.wp_ret.mpr (.here h List.prefix_rfl (fun _ _ => rfl))
  | cons definition rest ih =>
    refine comes_step (fun _ found hfound => ?_)
    have hfind : m.failed.find? (fun f => f.id == definition.id) = found := by
      rw [← h.failed]
      exact Except.ok.inj hfound
    cases found with
    | none =>
      refine comes_mono (ih h) (fun results t hreplays => ?_)
      refine hreplays.further List.prefix_rfl (fun world _ => ?_)
      rw [DeviceManager.retryFailedFrom, hfind]
    | some info =>
      refine comes_seq (replays_retryFailedDevice h) (fun result c hretried => ?_)
      obtain ⟨m₁, past₁, h₁, hfront₁, heq₁⟩ := hretried
      refine comes_seq (ih h₁) (fun results c hrest => Proc.wp_ret.mpr ?_)
      obtain ⟨m₂, past₂, h₂, hfront₂, heq₂⟩ := hrest
      refine .here h₂ (hfront₁.trans hfront₂) (fun world hw => ?_)
      have hdevice : m.retryFailedDevice world definition info = (result, m₁) :=
        heq₁ world (hw.before hfront₂)
      have hfrom : m₁.retryFailedFrom world rest = (results, m₂) := heq₂ world hw
      rw [DeviceManager.retryFailedFrom, hfind]
      dsimp only
      rw [hdevice]
      dsimp only
      rw [hfrom]

end Functions

section Runs

variable {D α β : Type} {drivers : DriverSet D} {config : Core1Config} {c c' : Core1 D}
  {results : List DeviceResult}

/-- The records of Core 1 are those of a run of the manager, and so are the results. -/
def Managed (config : Core1Config) (results : List DeviceResult) (c : Core1 D) : Prop :=
  ∃ past calls m, Tracks past c m ∧
    ∀ world : DriverWorld, world.Follows past → ManagerRun.after world config calls = ⟨m, results⟩

theorem Managed.run (h : Managed config results c) :
    ∃ world calls, (ManagerRun.after world config calls).manager.active =
        c.active.map ManagedDevice.forget ∧
      (ManagerRun.after world config calls).manager.failed = c.failed ∧
      (ManagerRun.after world config calls).results = results := by
  obtain ⟨past, calls, m, htracks, hrun⟩ := h
  refine ⟨.replaying past, calls, ?_⟩
  rw [hrun _ (DriverWorld.replaying_follows past)]
  exact ⟨htracks.active.symm, htracks.failed.symm, rfl⟩

theorem Managed.same (h : Managed config results c)
    (hsame : c'.active = c.active ∧ c'.failed = c.failed) : Managed config results c' := by
  obtain ⟨past, calls, m, htracks, hrun⟩ := h
  exact ⟨past, calls, m, htracks.same hsame, hrun⟩

theorem managed_initializeDevices (hactive : c.active = []) (hfailed : c.failed = []) :
    Comes (initializeDevices drivers config) c (fun _ => Managed config []) := by
  have hstart : Tracks [] c {} := ⟨by rw [hactive]; rfl, hfailed, rfl, rfl⟩
  refine comes_mono (replays_initializeDevicesFrom hstart) (fun _ t hreplays => ?_)
  obtain ⟨m, past, htracks, -, heq⟩ := hreplays
  refine ⟨past, [], m, htracks, fun world hw => ?_⟩
  have hbooted : ((), ({} : DeviceManager).initializeDevicesFrom world config config.devices) =
    ((), m) := heq world hw
  exact congrArg (fun m => ManagerRun.mk m []) (Prod.mk.inj hbooted).2

theorem after_snoc (world : DriverWorld) (calls : List ManagerCall) (call : ManagerCall) :
    ManagerRun.after world config (calls ++ [call]) =
      (ManagerRun.after world config calls).step world config call := by
  simp [ManagerRun.after]

theorem managed_processDevice {index : Nat} {device : ManagedDevice D}
    (h : Managed config results c) (hdevice : c.active[index]? = some device) :
    Comes (processDevice drivers config index device) c
      (fun result => Managed config (results ++ [result])) := by
  obtain ⟨past, calls, m, htracks, hrun⟩ := h
  refine comes_mono (replays_processDevice htracks) (fun result t hreplays => ?_)
  obtain ⟨m', past', htracks', hfront, heq⟩ := hreplays
  refine ⟨past', calls ++ [.processDevice index], m', htracks', fun world hw => ?_⟩
  have hindex : m.active[index]? = some device.forget := by
    rw [← htracks.active, List.getElem?_map, hdevice]
    rfl
  have hprocess : m.processDevice world config index device.forget = (.ok result, m') :=
    heq world hw
  rw [after_snoc, hrun world (hw.before hfront), ManagerRun.step]
  dsimp only
  rw [hindex]
  dsimp only
  rw [hprocess]

theorem managed_retryFailedDevices (h : Managed config results c) :
    Comes (retryFailedDevices drivers config) c
      (fun retried => Managed config (results ++ retried)) := by
  obtain ⟨past, calls, m, htracks, hrun⟩ := h
  refine comes_mono (replays_retryFailedFrom htracks) (fun retried t hreplays => ?_)
  obtain ⟨m', past', htracks', hfront, heq⟩ := hreplays
  refine ⟨past', calls ++ [.retryFailedDevices], m', htracks', fun world hw => ?_⟩
  have hretry : m.retryFailedDevices world config = (retried, m') := heq world hw
  rw [after_snoc, hrun world (hw.before hfront), ManagerRun.step]
  dsimp only
  rw [hretry]

abbrev Manages (config : Core1Config) (p : Core1Prog D α) : Prop :=
  ∀ c, (∃ results, Managed config results c) →
    Comes p c (fun _ c' => ∃ results, Managed config results c')

theorem manages_spares {p : Core1Prog D α} (h : Spares p) : Manages config p := by
  rintro c ⟨results, hmanaged⟩
  exact comes_mono (h c) (fun _ _ hsame => ⟨results, hmanaged.same hsame⟩)

theorem manages_seq {p : Core1Prog D α} {f : α → Core1Prog D β} (hp : Manages config p)
    (hf : ∀ a, Manages config (f a)) : Manages config (p >>= f) :=
  fun c hc => comes_seq (hp c hc) hf

theorem manages_pure {a : α} : Manages config (pure a : Core1Prog D α) :=
  manages_spares spares_pure

theorem manages_ite {b : Prop} [Decidable b] {p q : Core1Prog D α} (hp : Manages config p)
    (hq : Manages config q) : Manages config (if b then p else q) := by
  split
  · exact hp
  · exact hq

theorem manages_skipped (next : Option Nat) : Manages config (skipped next : Core1Prog D Nat) := by
  cases next with
  | none => exact fun _ _ => trivial
  | some next => exact manages_pure

theorem spares_elsewhere : Spares (elsewhere : Core1Prog D Unit) :=
  spares_atomic (fun _ _ => ⟨rfl, rfl⟩)

theorem spares_tickReading : Spares (tickReading : Core1Prog D Nat) :=
  spares_atomic (fun _ _ => ⟨rfl, rfl⟩)

theorem manages_readPassFrom (indices : List Nat) :
    Manages config (readPassFrom drivers config indices) := by
  induction indices with
  | nil => exact manages_pure
  | cons index rest ih =>
    rintro c ⟨results, hmanaged⟩
    refine comes_step (fun _ active hactive => ?_)
    obtain rfl : c.active = active := Except.ok.inj hactive
    dsimp only
    cases hdevice : c.active[index]? with
    | none => exact ih c ⟨results, hmanaged⟩
    | some device =>
      refine comes_seq (p := processDevice drivers config index device)
        (managed_processDevice hmanaged hdevice) (fun result c hc => ?_)
      exact comes_seq (manages_spares spares_elsewhere c ⟨_, hc⟩) (fun _ c hc => ih c hc)

theorem manages_runTelemetryReadPass : Manages config (runTelemetryReadPass drivers config) :=
  manages_seq (manages_spares (spares_atomic (fun _ _ => ⟨rfl, rfl⟩)))
    (fun _ => manages_readPassFrom _)

theorem spares_handleResults (results : List DeviceResult) :
    Spares (handleResults results : Core1Prog D Unit) := by
  induction results with
  | nil => exact spares_pure
  | cons _ rest ih => exact spares_seq spares_elsewhere (fun _ => ih)

theorem manages_retryFailedDevices : Manages config (retryFailedDevices drivers config) := by
  rintro c ⟨results, hmanaged⟩
  exact comes_mono (managed_retryFailedDevices hmanaged) (fun _ _ h => ⟨_, h⟩)

theorem manages_readBlock (passes now : Nat) (schedulers : Schedulers) :
    Manages config (readBlock drivers config passes now schedulers) := by
  refine manages_ite ?_ manages_pure
  refine manages_seq manages_runTelemetryReadPass (fun _ => ?_)
  refine manages_seq (manages_spares spares_tickReading) (fun _ => ?_)
  exact manages_seq (manages_skipped _) (fun _ => manages_pure)

theorem manages_retryBlock (passes now : Nat) (schedulers : Schedulers) :
    Manages config (retryBlock drivers config passes now schedulers) := by
  refine manages_seq (manages_spares (spares_atomic (fun _ _ => ⟨rfl, rfl⟩))) (fun _ => ?_)
  refine manages_ite ?_ manages_pure
  refine manages_seq manages_retryFailedDevices (fun results => ?_)
  refine manages_seq (manages_spares (spares_handleResults results)) (fun _ => ?_)
  refine manages_seq (manages_spares spares_tickReading) (fun _ => ?_)
  exact manages_seq (manages_skipped _) (fun _ => manages_pure)

theorem manages_activityBlock (nextActivity : Nat) :
    Manages config (activityBlock nextActivity : Core1Prog D Nat) := by
  refine manages_seq (manages_spares spares_tickReading) (fun _ => manages_ite ?_ manages_pure)
  exact manages_seq (manages_spares (spares_atomic (fun _ _ => ⟨rfl, rfl⟩))) (fun _ => manages_pure)

theorem manages_healthBlock (passes now : Nat) (schedulers : Schedulers) :
    Manages config (healthBlock passes now schedulers : Core1Prog D Schedulers) := by
  refine manages_ite ?_ manages_pure
  refine manages_seq (manages_spares spares_elsewhere) (fun _ => ?_)
  exact manages_seq (manages_skipped _) (fun _ => manages_pure)

theorem manages_loopTurn (passes : Nat) (schedulers : Schedulers) (nextActivity : Nat) :
    Manages config (loopTurn drivers config passes schedulers nextActivity) := by
  refine manages_seq (manages_spares spares_elsewhere) (fun _ => ?_)
  refine manages_seq (manages_spares spares_tickReading) (fun now => ?_)
  refine manages_seq (manages_readBlock passes now schedulers) (fun schedulers => ?_)
  refine manages_seq (manages_retryBlock passes now schedulers) (fun schedulers => ?_)
  refine manages_seq (manages_activityBlock nextActivity) (fun nextActivity => ?_)
  refine manages_seq (manages_healthBlock passes now schedulers) (fun schedulers => ?_)
  exact manages_seq (manages_spares spares_onBus) (fun _ => manages_pure)

def loopTurns (drivers : DriverSet D) (config : Core1Config) (passes : Nat) :
    Nat → Schedulers → Nat → Core1Prog D (Schedulers × Nat)
  | 0, schedulers, nextActivity => pure (schedulers, nextActivity)
  | turns + 1, schedulers, nextActivity => do
    let next ← loopTurn drivers config passes schedulers nextActivity
    loopTurns drivers config passes turns next.1 next.2

/-- `core1Main` behind the initialization of the devices, up to the head of its loop after some
turns. -/
def afterBoot (drivers : DriverSet D) (config : Core1Config) (passes turns : Nat) :
    Core1Prog D (Schedulers × Nat) := do
  let _ ← (core1UptimeMs : Core1Prog D Int)
  elsewhere
  admitStartup
  let anchor ← tickReading
  elsewhere
  refreshActivity
  let now ← tickReading
  runTelemetryReadPass drivers config
  elsewhere
  loopTurns drivers config passes turns (Schedulers.start config anchor now)
    (ticksAdd now ACTIVITY_INTERVAL_MS)

def core1Head (drivers : DriverSet D) (config : Core1Config) (passes turns : Nat) :
    Core1Prog D (Schedulers × Nat) := do
  refreshActivity
  let _ ← initializeDevices drivers config
  afterBoot drivers config passes turns

theorem core1Loop_turns (passes turns rounds : Nat) (schedulers : Schedulers) (nextActivity : Nat) :
    core1Loop drivers config passes (turns + rounds) schedulers nextActivity =
      loopTurns drivers config passes turns schedulers nextActivity >>= fun next =>
        core1Loop drivers config passes rounds next.1 next.2 := by
  induction turns generalizing schedulers nextActivity with
  | zero => rw [Nat.zero_add]; rfl
  | succ turns ih =>
    rw [Nat.succ_add]
    simp only [core1Loop, loopTurns, Proc.bind_eq, Proc.bind_assoc]
    exact congrArg _ (funext fun next => ih next.1 next.2)

/-- Every longer run of the main program goes through the head of its loop. -/
theorem core1Main_head (passes turns rounds : Nat) :
    core1Main drivers config passes (turns + rounds) =
      core1Head drivers config passes turns >>= fun next =>
        core1Loop drivers config passes rounds next.1 next.2 := by
  simp only [core1Main, core1Head, afterBoot, core1Loop_turns, Proc.bind_eq, Proc.bind_assoc]

theorem manages_loopTurns (passes turns : Nat) (schedulers : Schedulers) (nextActivity : Nat) :
    Manages config (loopTurns drivers config passes turns schedulers nextActivity) := by
  induction turns generalizing schedulers nextActivity with
  | zero => exact manages_pure
  | succ turns ih =>
    exact manages_seq (manages_loopTurn passes schedulers nextActivity) (fun next => ih _ _)

theorem spares_tryQueueStartupLog : Spares (tryQueueStartupLog : Core1Prog D StartupAdmission) :=
  spares_atomic (fun _ _ => ⟨rfl, rfl⟩)

theorem spares_admitStartupLog : Spares (admitStartupLog : Core1Prog D StartupAdmission) := by
  refine spares_seq spares_tryQueueStartupLog (fun answer => ?_)
  cases answer with
  | refused => exact spares_seq spares_onBus (fun _ => spares_tryQueueStartupLog)
  | admitted | tooLarge | invalid | memory => exact spares_pure

theorem spares_throw {e : WorkerError} : Spares (.raise e : Core1Prog D α) := fun _ => trivial

theorem spares_admitStartup : Spares (admitStartup : Core1Prog D Unit) := by
  refine spares_seq (spares_seq spares_admitStartupLog (fun answer => ?_)) (fun answer => ?_)
  · cases answer with
    | tooLarge | memory => exact spares_seq spares_elsewhere (fun _ => spares_admitStartupLog)
    | admitted | refused | invalid => exact spares_pure
  · cases answer with
    | admitted => exact spares_pure
    | refused | tooLarge | invalid | memory => exact spares_throw

theorem manages_afterBoot (passes turns : Nat) :
    Manages config (afterBoot drivers config passes turns) := by
  refine manages_seq (manages_spares spares_core1UptimeMs) (fun _ => ?_)
  refine manages_seq (manages_spares spares_elsewhere) (fun _ => ?_)
  refine manages_seq (manages_spares spares_admitStartup) (fun _ => ?_)
  refine manages_seq (manages_spares spares_tickReading) (fun anchor => ?_)
  refine manages_seq (manages_spares spares_elsewhere) (fun _ => ?_)
  refine manages_seq (manages_spares spares_refreshActivity) (fun _ => ?_)
  refine manages_seq (manages_spares spares_tickReading) (fun now => ?_)
  refine manages_seq manages_runTelemetryReadPass (fun _ => ?_)
  refine manages_seq (manages_spares spares_elsewhere) (fun _ => ?_)
  exact manages_loopTurns passes turns _ _

/-- Whatever the drivers, the clock and the rest of the firmware do, Core 1 has at the head of its
loop the records of a run of the manager. -/
theorem core1Head_managed (passes turns bootMs nowMs : Nat) :
    Comes (core1Head drivers config passes turns) (Core1.initial D bootMs nowMs)
      (fun _ c => ∃ results, Managed config results c) := by
  refine comes_seq (spares_refreshActivity _) (fun _ c₁ h₁ => ?_)
  refine comes_seq (managed_initializeDevices h₁.1 h₁.2) (fun _ c₂ h₂ => ?_)
  exact manages_afterBoot passes turns c₂ ⟨[], h₂⟩

/-- So these records are consistent, as those of every run of the manager are. -/
theorem core1Head_consistent (hids : (config.devices.map DeviceDefinition.id).Nodup)
    (hthreshold : 0 < config.deviceReadFailureThreshold) (passes turns bootMs nowMs : Nat) :
    Comes (core1Head drivers config passes turns) (Core1.initial D bootMs nowMs) (fun _ c =>
      ∃ run : ManagerRun, run.Consistent config ∧ run.manager.failed = c.failed ∧
        run.manager.active = c.active.map ManagedDevice.forget) := by
  refine comes_mono (core1Head_managed passes turns bootMs nowMs) (fun _ c hmanaged => ?_)
  obtain ⟨results, hmanaged⟩ := hmanaged
  obtain ⟨world, calls, hactive, hfailed, -⟩ := hmanaged.run
  exact ⟨_, (ManagerRun.after_sound hids hthreshold calls).consistent hids, hfailed, hactive⟩

end Runs

end PicoDualCore
