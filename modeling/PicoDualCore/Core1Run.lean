import PicoDualCore.DeviceManager
import PicoDualCore.DriverReads
set_option autoImplicit false

/-!
The thread of Core 1: boot initialization, the admission of the startup log, and the loop with its
schedulers. `rounds` bounds how many turns of each loop are followed.
-/

namespace PicoDualCore
open AtomicProgram

/-- The bus object of the factory for its kind; a factory that has made it before is asked again. -/
def makeBus (arguments : List PyValue) : BusProg Unit :=
  transfer (fun _ => .busMade arguments) (fun _ => ())

def makeI2c (config : PyDict) (defaultFreqHz : Int) : BusProg Unit := do
  let bus ← python (config.subscript "i2c_bus")
  makeBus [bus, config.getD "i2c_sda_pin", config.getD "i2c_scl_pin",
    (config.get? "i2c_freq_hz").getD (.int defaultFreqHz)]

def createDevice (definition : DeviceDefinition) : BusProg Unit :=
  let config := definition.config
  let deviceType := definition.deviceType
  if deviceType = "bme280" then makeI2c config Bme280.DEFAULT_I2C_FREQ_HZ
  else if deviceType = "ltr390" then makeI2c config Ltr390.DEFAULT_I2C_FREQ_HZ
  else if deviceType = "sht35" then makeI2c config Sht35.DEFAULT_I2C_FREQ_HZ
  else if deviceType = "ds18b20" then do
    let pin ← python (config.subscript "pin")
    makeBus [pin]
  else if deviceType = "yl69_fc28" then do
    let pin ← python (config.subscript "adc_pin")
    makeBus [pin]
  else throw (.valueError s!"Unsupported device type: {deviceType}")

def boardDrivers : DriverSet Driver where
  create := createDevice
  initializeDriver := Driver.initialized
  read := Driver.read

def regridNextBoundary (anchor now intervalMs : Nat) : Nat :=
  let elapsed := ticksDiff now anchor
  if elapsed < 0 then anchor
  else ticksAdd anchor ((elapsed / intervalMs + 1) * intervalMs)

/-- `while ticks_diff(now, next) >= 0: next = ticks_add(next, interval)`, for so many passes. -/
def skipElapsed (now intervalMs : Nat) : Nat → Nat → Option Nat
  | 0, _ => none
  | passes + 1, next =>
    if 0 ≤ ticksDiff now next then skipElapsed now intervalMs passes (ticksAdd next intervalMs)
    else some next

structure Schedulers where
  readLoopMs : Nat
  healthIntervalMs : Nat
  failedReinitIntervalMs : Nat
  nextReadMs : Nat
  nextHealthMs : Nat
  nextFailedReinitMs : Nat
  deriving DecidableEq, Repr

/-- The boundaries on the grid of the anchor that have not passed yet. -/
def Schedulers.start (config : Core1Config) (anchor now : Nat) : Schedulers :=
  let readLoopMs := config.readLoopSec * 1000
  let healthIntervalMs := config.healthIntervalSec * 1000
  let failedReinitIntervalMs := max config.deviceInitializationRetryDelayMs 1000
  { readLoopMs, healthIntervalMs, failedReinitIntervalMs
    nextReadMs := regridNextBoundary anchor now readLoopMs
    nextHealthMs := regridNextBoundary anchor now healthIntervalMs
    nextFailedReinitMs := regridNextBoundary anchor now failedReinitIntervalMs }

def ACTIVITY_INTERVAL_MS : Nat := 5000

section Run

variable {D : Type}

/-- The loop runs out of its passes only where the source's own does not end. -/
def skipped (next : Option Nat) : Core1Prog D Nat :=
  match next with
  | some next => pure next
  | none => .stop

/-- One `_try_queue_startup_log`. -/
def tryQueueStartupLog : Core1Prog D StartupAdmission := .atomic (fun c i => (.ok i.admission, c))

/-- `_admit_startup_log`: one retry of a refusal. -/
def admitStartupLog : Core1Prog D StartupAdmission := do
  match ← tryQueueStartupLog with
  | .refused => do
    onBus (sleepMs 100)
    tryQueueStartupLog
  | answer => pure answer

/-- A log that is too large, or for which there is no memory, is answered by the bounded one. -/
def admitStartupLogWithFallback : Core1Prog D StartupAdmission := do
  match ← admitStartupLog with
  | .tooLarge _ | .memory => do
    elsewhere
    admitStartupLog
  | answer => pure answer

def admitStartup : Core1Prog D Unit := do
  match ← admitStartupLogWithFallback with
  | .admitted => pure ()
  | .memory => throw (.raised .memoryError)
  | .refused | .tooLarge _ | .invalid _ => throw (.runtimeError "Startup log queue admission failed")

variable (drivers : DriverSet D) (config : Core1Config)

/-- One telemetry pass over the active devices; what becomes of a result is work elsewhere. -/
def readPassFrom : List Nat → Core1Prog D Unit
  | [] => pure ()
  | index :: rest => do
    let active ← activeDevices
    match active[index]? with
    | none => pure ()
    | some device => do
      let _ ← processDevice drivers config index device
      elsewhere
    readPassFrom rest

def runTelemetryReadPass : Core1Prog D Unit := do
  let active ← activeDevices
  readPassFrom drivers config (List.range active.length)

def handleResults : List DeviceResult → Core1Prog D Unit
  | [] => pure ()
  | _ :: rest => do
    elsewhere
    handleResults rest

def readBlock (passes now : Nat) (schedulers : Schedulers) : Core1Prog D Schedulers := do
  if 0 ≤ ticksDiff now schedulers.nextReadMs then
    runTelemetryReadPass drivers config
    let skipNow ← tickReading
    let next ← skipped (skipElapsed skipNow schedulers.readLoopMs passes schedulers.nextReadMs)
    pure { schedulers with nextReadMs := next }
  else pure schedulers

def retryBlock (passes now : Nat) (schedulers : Schedulers) : Core1Prog D Schedulers := do
  let hasFailed ← (.atomic (fun c _ => (.ok (!c.failed.isEmpty), c)) : Core1Prog D Bool)
  if hasFailed ∧ 0 ≤ ticksDiff now schedulers.nextFailedReinitMs then
    let results ← retryFailedDevices drivers config
    handleResults results
    let retryNow ← tickReading
    let next ← skipped (skipElapsed retryNow schedulers.failedReinitIntervalMs passes
      schedulers.nextFailedReinitMs)
    pure { schedulers with nextFailedReinitMs := next }
  else pure schedulers

def activityBlock (nextActivity : Nat) : Core1Prog D Nat := do
  let activityNow ← tickReading
  if 0 ≤ ticksDiff activityNow nextActivity then
    setCore1ActivityMs activityNow
    pure (ticksAdd activityNow ACTIVITY_INTERVAL_MS)
  else pure nextActivity

/-- Here the boundaries are skipped up to the reading from before the passes. -/
def healthBlock (passes now : Nat) (schedulers : Schedulers) : Core1Prog D Schedulers := do
  if 0 ≤ ticksDiff now schedulers.nextHealthMs then
    elsewhere
    let next ← skipped (skipElapsed now schedulers.healthIntervalMs passes schedulers.nextHealthMs)
    pure { schedulers with nextHealthMs := next }
  else pure schedulers

def loopTurn (passes : Nat) (schedulers : Schedulers) (nextActivity : Nat) :
    Core1Prog D (Schedulers × Nat) := do
  elsewhere
  let now ← tickReading
  let schedulers ← readBlock drivers config passes now schedulers
  let schedulers ← retryBlock drivers config passes now schedulers
  let nextActivity ← activityBlock nextActivity
  let schedulers ← healthBlock passes now schedulers
  onBus (sleepMs 20)
  pure (schedulers, nextActivity)

def core1Loop (passes : Nat) : Nat → Schedulers → Nat → Core1Prog D Unit
  | 0, _, _ => .stop
  | rounds + 1, schedulers, nextActivity => do
    let next ← loopTurn drivers config passes schedulers nextActivity
    core1Loop passes rounds next.1 next.2

/-- The loop never returns: what stops it is an exception. -/
def core1Main (passes rounds : Nat) : Core1Prog D Unit := do
  refreshActivity
  let _ ← initializeDevices drivers config
  let _ ← core1UptimeMs
  elsewhere
  admitStartup
  let anchor ← tickReading
  elsewhere
  refreshActivity
  let now ← tickReading
  let schedulers := Schedulers.start config anchor now
  let nextActivity := ticksAdd now ACTIVITY_INTERVAL_MS
  runTelemetryReadPass drivers config
  elsewhere
  core1Loop drivers config passes rounds schedulers nextActivity

def waitForNetworkStack : Nat → Core1Prog D Unit
  | 0 => .stop
  | rounds + 1 => do
    let ready ← (.atomic (fun c i => (.ok i.networkStackReady, c)) : Core1Prog D Bool)
    if ready then pure ()
    else do
      onBus (sleepMs 100)
      refreshActivity
      waitForNetworkStack rounds

def core1ThreadEntry (passes rounds : Nat) : Core1Prog D Unit := do
  refreshActivity
  waitForNetworkStack rounds
  core1Main drivers config passes rounds

end Run

end PicoDualCore
