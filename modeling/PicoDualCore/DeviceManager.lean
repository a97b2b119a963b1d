import PicoDualCore.Core0State
import PicoDualCore.Drivers
set_option autoImplicit false

/-!
The device manager of Core 1: the life of a configured device, whatever the drivers do. A driver
is what its `initialize` left behind, and a step of a driver is a step of Core 1.
-/

namespace PicoDualCore
open AtomicProgram

structure DeviceDefinition where
  id : String
  deviceType : String
  name : PyValue
  config : PyDict

def DeviceDefinition.ofDict (definition : PyDict) : DeviceDefinition where
  id := (definition.getD "id").asStr
  deviceType := (definition.getD "device_type").asStr
  name := definition.getD "name"
  config := (definition.getD "config").asDict

structure Core1Config where
  readLoopSec : Nat
  deviceInitializationAttempts : Nat
  deviceInitializationRetryDelayMs : Nat
  deviceReadFailureThreshold : Nat
  healthIntervalSec : Nat
  devices : List DeviceDefinition

/-- The Core 1 half of `split_config`, for a validated configuration. -/
def splitConfigCore1 (config : PyDict) : Core1Config where
  readLoopSec := (config.getD "read_loop_sec").asNat
  deviceInitializationAttempts := (config.getD "device_initialization_attempts").asNat
  deviceInitializationRetryDelayMs := (config.getD "device_initialization_retry_delay_ms").asNat
  deviceReadFailureThreshold := (config.getD "device_read_failure_threshold").asNat
  healthIntervalSec := (config.getD "health_interval_sec").asNat
  devices := (config.getD "devices").asList.map (fun d => .ofDict d.asDict)

inductive DeviceState where
  | ready
  | reinitializePending
  | initializationFailed
  deriving DecidableEq, Repr

/-- A device whose driver has been initialized. -/
structure ManagedDevice (D : Type) where
  deviceId : String
  deviceType : String
  driver : D
  name : PyValue
  state : DeviceState := .ready
  initializationAttemptsUsed : Nat := 0
  consecutiveReadFailures : Nat := 0
  totalReadFailures : Nat := 0
  readCount : Nat := 0
  successfulReadCount : Nat := 0
  lastReadMs : Option Int := none
  lastSuccessfulReadMs : Option Int := none
  reinitializePending : Bool := false
  reinitFailureLogged : Bool := false

namespace ManagedDevice

variable {D : Type}

def markReinitializePending (d : ManagedDevice D) : ManagedDevice D :=
  { d with reinitializePending := true, state := .reinitializePending }

def clearReinitializePending (d : ManagedDevice D) : ManagedDevice D :=
  { d with
    reinitializePending := false
    state := .ready
    consecutiveReadFailures := 0
    reinitFailureLogged := false }

def recordReadFailure (d : ManagedDevice D) : ManagedDevice D :=
  { d with
    consecutiveReadFailures := d.consecutiveReadFailures + 1
    totalReadFailures := d.totalReadFailures + 1 }

def recordReadSuccess (d : ManagedDevice D) : ManagedDevice D :=
  { d with consecutiveReadFailures := 0 }

/-- Before the driver's `read`. -/
def readStarted (d : ManagedDevice D) (nowMs : Int) : ManagedDevice D :=
  { d with readCount := d.readCount + 1, lastReadMs := some nowMs }

def readSucceeded (d : ManagedDevice D) (nowMs : Int) : ManagedDevice D :=
  { d with
    successfulReadCount := d.successfulReadCount + 1
    lastSuccessfulReadMs := some nowMs }.recordReadSuccess

def readFailed (d : ManagedDevice D) (threshold : Nat) : ManagedDevice D :=
  let d := d.recordReadFailure
  if threshold ≤ d.consecutiveReadFailures then d.markReinitializePending else d

def reinitialized (d : ManagedDevice D) (driver : D) : ManagedDevice D :=
  { d with driver }.clearReinitializePending

def reinitializationFailed (d : ManagedDevice D) : ManagedDevice D :=
  { d with reinitFailureLogged := true }

end ManagedDevice

/-- A device that could not be initialized at boot. -/
structure FailedDevice where
  id : String
  device : String
  state : DeviceState := .initializationFailed
  initializationAttemptsUsed : Nat
  failureReason : Option String
  retryFailureLogged : Bool := false
  deriving DecidableEq, Repr

inductive DeviceResult where
  | telemetry (deviceId device : String) (name : PyValue) (recovered : Bool)
      (previousConsecutiveReadFailures : Nat)
  | readFailed (deviceId device error : String)
      (consecutiveReadFailures totalReadFailures deviceReadFailureThreshold : Nat)
      (reinitializePending : Bool)
  | reinitialized (deviceId device : String) (reinitializationAttemptsUsed : Nat)
  | reinitializationFailed (deviceId device : String) (error : Option String)
      (consecutiveReadFailures totalReadFailures reinitializationAttemptsUsed : Nat)
      (logFailureWarning : Bool)
  | bootRecovered (deviceId device : String) (initializationAttemptsUsed : Nat)
  | bootRecoveryFailed (deviceId device error : String) (initializationAttemptsUsed : Nat)
      (logFailureWarning : Bool)

inductive StartupAdmission where
  | admitted
  | refused
  | tooLarge (message : String)
  | invalid (message : String)
  | memory

/-- What one step of Core 1 reads besides its own state. `elsewhere` is the outcome of work that
neither sleeps nor touches the devices. -/
structure Core1Input extends BusInput where
  networkStackReady : Bool := true
  admission : StartupAdmission := .admitted
  elsewhere : Except Exc Unit := .ok ()

/-- An exception that stops Core 1. -/
inductive WorkerError where
  | raised (e : Exc)
  | runtimeError (message : String)

/-- The stamp in the mailbox, and the true times at which it was refreshed. -/
structure Core1 (D : Type) where
  bus : Bus
  uptime : UptimeState
  active : List (ManagedDevice D) := []
  failed : List FailedDevice := []
  activityMs : Option Nat := none
  refreshedAt : List Nat := []

/-- When the thread starts. `bootMs` is the true time of the boot tick. -/
def Core1.initial (D : Type) (bootMs nowMs : Nat) : Core1 D where
  bus := { clockMs := nowMs }
  uptime := createUptimeState (bootMs % TICKS_PERIOD)

abbrev Core1Prog (D α : Type) := Proc (Core1 D) Core1Input WorkerError α

/-- The driver modules, behind the constructors that pick one by the type of the device. -/
structure DriverSet (D : Type) where
  create : DeviceDefinition → BusProg Unit
  initializeDriver : String → PyDict → BusProg D
  read : D → BusProg Unit

section Steps

variable {D α : Type}

def onBus (p : BusProg α) : Core1Prog D α :=
  p.zoom Core1.bus (fun c bus => { c with bus }) Core1Input.toBusInput .raised

/-- `except OSError as err`, after `except MemoryError: raise`. -/
def operational (p : BusProg α) : BusProg (Except String α) :=
  (p.bind (fun a => .ret (.ok a))).handle (fun e => match e with
    | .osError message => .ret (.error message)
    | e => .raise e)

def Core1.ticksMs (c : Core1 D) : Nat := c.bus.clockMs % TICKS_PERIOD

def tickReading : Core1Prog D Nat := .atomic (fun c _ => (.ok c.ticksMs, c))

def setCore1ActivityMs (activityMs : Nat) : Core1Prog D Unit :=
  .atomic (fun c _ => (.ok (), { c with
    activityMs := some activityMs
    refreshedAt := c.refreshedAt ++ [c.bus.clockMs] }))

def refreshActivity : Core1Prog D Unit := do
  let now ← tickReading
  setCore1ActivityMs now

/-- `current_uptime_ms`. -/
def core1UptimeMs : Core1Prog D Int :=
  .atomic (fun c _ =>
    let uptime := currentUptimeMs c.uptime c.ticksMs
    (.ok uptime.accumulatedMs, { c with uptime }))

/-- Building and admitting messages, and answering commands. -/
def elsewhere : Core1Prog D Unit :=
  .atomic (fun c i => (i.elsewhere.mapError .raised, c))

def activeDevices : Core1Prog D (List (ManagedDevice D)) := .atomic (fun c _ => (.ok c.active, c))

def setDevice (index : Nat) (device : ManagedDevice D) : Core1Prog D Unit :=
  .atomic (fun c _ => (.ok (), { c with active := c.active.set index device }))

def addDevice (device : ManagedDevice D) : Core1Prog D Unit :=
  .atomic (fun c _ => (.ok (), { c with active := c.active ++ [device] }))

def replaceFailed (failed : List FailedDevice) (info : FailedDevice) : List FailedDevice :=
  failed.map (fun f => if f.id = info.id then info else f)

/-- `_failed_devices[id] = info`, which keeps the place of a known id. -/
def recordFailed (failed : List FailedDevice) (info : FailedDevice) : List FailedDevice :=
  if failed.any (fun f => f.id == info.id) then replaceFailed failed info else failed ++ [info]

def setFailed (info : FailedDevice) : Core1Prog D Unit :=
  .atomic (fun c _ => (.ok (), { c with failed := recordFailed c.failed info }))

def updateFailed (info : FailedDevice) : Core1Prog D Unit :=
  .atomic (fun c _ => (.ok (), { c with failed := replaceFailed c.failed info }))

def failedInfo (deviceId : String) : Core1Prog D (Option FailedDevice) :=
  .atomic (fun c _ => (.ok (c.failed.find? (fun f => f.id == deviceId)), c))

/-- `del _failed_devices[id]`. -/
def deleteFailed (deviceId : String) : Core1Prog D Unit :=
  .atomic (fun c _ =>
    if c.failed.any (fun f => f.id == deviceId) then
      (.ok (), { c with failed := c.failed.eraseP (fun f => f.id == deviceId) })
    else (.error (.raised (.python (.keyError deviceId))), c))

end Steps

def ACTIVITY_REFRESH_STEP_MS : Nat := 100

def sleepWithActivityRefresh {D : Type} (delayMs : Nat) : Core1Prog D Unit :=
  if _h : delayMs = 0 then pure ()
  else do
    let stepMs := min delayMs ACTIVITY_REFRESH_STEP_MS
    onBus (sleepMs stepMs)
    refreshActivity
    sleepWithActivityRefresh (delayMs - stepMs)
termination_by delayMs
decreasing_by
  have : 0 < min delayMs ACTIVITY_REFRESH_STEP_MS := by
    unfold ACTIVITY_REFRESH_STEP_MS
    omega
  omega

section Manager

variable {D : Type} (drivers : DriverSet D) (config : Core1Config)

/-- The attempts after the first `used` ones. -/
def attemptsFrom (deviceType : String) (deviceConfig : PyDict) (used : Nat)
    (lastError : Option String) : Nat → Core1Prog D (Nat × Except (Option String) D)
  | 0 => pure (used, .error lastError)
  | left + 1 => do
    refreshActivity
    match ← onBus (operational (drivers.initializeDriver deviceType deviceConfig)) with
    | .ok driver => pure (used + 1, .ok driver)
    | .error err => do
      if left ≠ 0 then sleepWithActivityRefresh config.deviceInitializationRetryDelayMs
      attemptsFrom deviceType deviceConfig (used + 1) (some err) left

/-- The attempts used, and the driver or the last error. The reinitialization of a device runs the
same loop. -/
def initializeDriverWithRetries (deviceType : String) (deviceConfig : PyDict) :
    Core1Prog D (Nat × Except (Option String) D) :=
  attemptsFrom drivers config deviceType deviceConfig 0 none config.deviceInitializationAttempts

def initializeSingleDevice (definition : DeviceDefinition) : Core1Prog D Bool := do
  match ← onBus (operational (drivers.create definition)) with
  | .error err => do
    setFailed { id := definition.id, device := definition.deviceType
                initializationAttemptsUsed := 0, failureReason := some err }
    pure false
  | .ok () => do
    let outcome ← initializeDriverWithRetries drivers config definition.deviceType definition.config
    match outcome.2 with
    | .error err => do
      setFailed { id := definition.id, device := definition.deviceType
                  initializationAttemptsUsed := outcome.1, failureReason := err }
      pure false
    | .ok driver => do
      addDevice { deviceId := definition.id, deviceType := definition.deviceType, driver
                  name := definition.name, initializationAttemptsUsed := outcome.1 }
      pure true

def initializeDevicesFrom (count : Nat) : List DeviceDefinition → Core1Prog D Nat
  | [] => pure count
  | definition :: rest => do
    refreshActivity
    let success ← initializeSingleDevice drivers config definition
    initializeDevicesFrom (if success then count + 1 else count) rest

def initializeDevices : Core1Prog D Nat := initializeDevicesFrom drivers config 0 config.devices

def processNormalRead (index : Nat) (device : ManagedDevice D) : Core1Prog D DeviceResult := do
  let started ← core1UptimeMs
  let device := device.readStarted started
  setDevice index device
  match ← onBus (operational (drivers.read device.driver)) with
  | .ok () => do
    let finished ← core1UptimeMs
    setDevice index (device.readSucceeded finished)
    pure (.telemetry device.deviceId device.deviceType device.name
      (decide (0 < device.consecutiveReadFailures)) device.consecutiveReadFailures)
  | .error err => do
    let device := device.readFailed config.deviceReadFailureThreshold
    setDevice index device
    pure (.readFailed device.deviceId device.deviceType err device.consecutiveReadFailures
      device.totalReadFailures config.deviceReadFailureThreshold device.reinitializePending)

def processReinitialization (index : Nat) (device : ManagedDevice D) :
    Core1Prog D DeviceResult := do
  match config.devices.find? (fun d => d.id == device.deviceId) with
  | none => throw (.runtimeError "Device definition not found for reinitialization")
  | some definition => do
    let outcome ← initializeDriverWithRetries drivers config device.deviceType definition.config
    match outcome.2 with
    | .ok driver => do
      setDevice index (device.reinitialized driver)
      pure (.reinitialized device.deviceId device.deviceType outcome.1)
    | .error err => do
      setDevice index device.reinitializationFailed
      pure (.reinitializationFailed device.deviceId device.deviceType err
        device.consecutiveReadFailures device.totalReadFailures outcome.1
        (!device.reinitFailureLogged))

/-- `process_device` of the active device at `index`. -/
def processDevice (index : Nat) (device : ManagedDevice D) : Core1Prog D DeviceResult := do
  refreshActivity
  if device.reinitializePending then processReinitialization drivers config index device
  else processNormalRead drivers config index device

/-- `_late_retry_failure_result`, with the record it leaves. -/
def lateRetryFailure (info : FailedDevice) (error : String) : Core1Prog D DeviceResult := do
  updateFailed { info with failureReason := some error, retryFailureLogged := true }
  pure (.bootRecoveryFailed info.id info.device error info.initializationAttemptsUsed
    (!info.retryFailureLogged))

def retryFailedDevice (definition : DeviceDefinition) (info : FailedDevice) :
    Core1Prog D DeviceResult := do
  refreshActivity
  match ← onBus (operational (drivers.create definition)) with
  | .error err => lateRetryFailure info err
  | .ok () => do
    let attempts := info.initializationAttemptsUsed + 1
    match ← onBus (operational (drivers.initializeDriver definition.deviceType definition.config)) with
    | .error err => lateRetryFailure { info with initializationAttemptsUsed := attempts } err
    | .ok driver => do
      addDevice { deviceId := definition.id, deviceType := definition.deviceType, driver
                  name := definition.name, initializationAttemptsUsed := attempts }
      deleteFailed definition.id
      pure (.bootRecovered definition.id definition.deviceType attempts)

def retryFailedFrom : List DeviceDefinition → Core1Prog D (List DeviceResult)
  | [] => pure []
  | definition :: rest => do
    match ← failedInfo definition.id with
    | none => retryFailedFrom rest
    | some info => do
      let result ← retryFailedDevice drivers definition info
      let results ← retryFailedFrom rest
      pure (result :: results)

def retryFailedDevices : Core1Prog D (List DeviceResult) := retryFailedFrom drivers config.devices

end Manager

end PicoDualCore
