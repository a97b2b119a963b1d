import PicoDualCore.DeviceManager
set_option autoImplicit false

/-!
The device manager as the outcomes of its drivers drive it: every construction, initialization and
read either succeeds or ends in an `OSError`, and the clock shows any time.
-/

namespace PicoDualCore

inductive DriverOperation where
  | construction
  | initialization
  | read
  deriving DecidableEq, Repr

/-- A call of a driver, with the `OSError` it ended in. -/
structure DriverCall where
  deviceId : String
  operation : DriverOperation
  error : Option String
  deriving DecidableEq, Repr

/-- How the next such call of a device ends, after so many of them, and what the clock shows. -/
structure DriverWorld where
  error : String → DriverOperation → Nat → Option String
  nowMs : Nat → Int

/-- The manager, with the calls it has made and the readings of the clock it has taken. -/
structure DeviceManager where
  active : List (ManagedDevice Unit) := []
  failed : List FailedDevice := []
  calls : List DriverCall := []
  readings : Nat := 0

def callErrors (calls : List DriverCall) (deviceId : String) (operation : DriverOperation) :
    List (Option String) :=
  (calls.filter (fun c => c.deviceId = deviceId ∧ c.operation = operation)).map DriverCall.error

namespace DeviceManager

def called (m : DeviceManager) (deviceId : String) (operation : DriverOperation)
    (errors : List (Option String)) : DeviceManager :=
  { m with calls := m.calls ++ errors.map (fun error => ⟨deviceId, operation, error⟩) }

section Manager

variable (world : DriverWorld) (config : Core1Config)

def call (m : DeviceManager) (deviceId : String) (operation : DriverOperation) :
    Option String × DeviceManager :=
  let error := world.error deviceId operation (callErrors m.calls deviceId operation).length
  (error, m.called deviceId operation [error])

def nowMs (m : DeviceManager) : Int × DeviceManager :=
  (world.nowMs m.readings, { m with readings := m.readings + 1 })

/-- The attempts after the first `used` ones. -/
def attemptsFrom (deviceId : String) (m : DeviceManager) (used : Nat) (lastError : Option String) :
    Nat → (Nat × Except (Option String) Unit) × DeviceManager
  | 0 => ((used, .error lastError), m)
  | left + 1 =>
    match m.call world deviceId .initialization with
    | (none, m) => ((used + 1, .ok ()), m)
    | (some err, m) => attemptsFrom deviceId m (used + 1) (some err) left

def initializeDriverWithRetries (m : DeviceManager) (deviceId : String) :
    (Nat × Except (Option String) Unit) × DeviceManager :=
  attemptsFrom world deviceId m 0 none config.deviceInitializationAttempts

def recordFailure (m : DeviceManager) (info : FailedDevice) : DeviceManager :=
  { m with failed := recordFailed m.failed info }

def recordDriverFailure (m : DeviceManager) (definition : DeviceDefinition) (error : String) :
    DeviceManager :=
  m.recordFailure { id := definition.id, device := definition.deviceType
                    initializationAttemptsUsed := 0, failureReason := some error }

def recordInitializationFailure (m : DeviceManager) (definition : DeviceDefinition)
    (attemptsUsed : Nat) (lastError : Option String) : DeviceManager :=
  m.recordFailure { id := definition.id, device := definition.deviceType
                    initializationAttemptsUsed := attemptsUsed, failureReason := lastError }

def recordSuccess (m : DeviceManager) (definition : DeviceDefinition) (attemptsUsed : Nat) :
    DeviceManager :=
  { m with active := m.active ++
      [{ deviceId := definition.id, deviceType := definition.deviceType, driver := ()
         name := definition.name, initializationAttemptsUsed := attemptsUsed }] }

def initializeSingleDevice (m : DeviceManager) (definition : DeviceDefinition) :
    Bool × DeviceManager :=
  match m.call world definition.id .construction with
  | (some err, m) => (false, m.recordDriverFailure definition err)
  | (none, m) =>
    match m.initializeDriverWithRetries world config definition.id with
    | ((used, .error err), m) => (false, m.recordInitializationFailure definition used err)
    | ((used, .ok ()), m) => (true, m.recordSuccess definition used)

def initializeDevicesFrom (m : DeviceManager) : List DeviceDefinition → DeviceManager
  | [] => m
  | definition :: rest =>
    initializeDevicesFrom (m.initializeSingleDevice world config definition).2 rest

def initializeDevices (m : DeviceManager) : DeviceManager :=
  m.initializeDevicesFrom world config config.devices

def setDevice (m : DeviceManager) (index : Nat) (device : ManagedDevice Unit) : DeviceManager :=
  { m with active := m.active.set index device }

def processNormalRead (m : DeviceManager) (index : Nat) (device : ManagedDevice Unit) :
    DeviceResult × DeviceManager :=
  let (started, m) := m.nowMs world
  let device := device.readStarted started
  match m.call world device.deviceId .read with
  | (none, m) =>
    let (finished, m) := m.nowMs world
    (.telemetry device.deviceId device.deviceType device.name
      (decide (0 < device.consecutiveReadFailures)) device.consecutiveReadFailures,
      m.setDevice index (device.readSucceeded finished))
  | (some err, m) =>
    let device := device.readFailed config.deviceReadFailureThreshold
    (.readFailed device.deviceId device.deviceType err device.consecutiveReadFailures
      device.totalReadFailures config.deviceReadFailureThreshold device.reinitializePending,
      m.setDevice index device)

def processReinitialization (m : DeviceManager) (index : Nat) (device : ManagedDevice Unit) :
    Except String DeviceResult × DeviceManager :=
  match config.devices.find? (fun d => d.id == device.deviceId) with
  | none => (.error "Device definition not found for reinitialization", m)
  | some _ =>
    match m.initializeDriverWithRetries world config device.deviceId with
    | ((used, .ok ()), m) =>
      (.ok (.reinitialized device.deviceId device.deviceType used),
        m.setDevice index (device.reinitialized ()))
    | ((used, .error err), m) =>
      (.ok (.reinitializationFailed device.deviceId device.deviceType err
        device.consecutiveReadFailures device.totalReadFailures used
        (!device.reinitFailureLogged)),
        m.setDevice index device.reinitializationFailed)

def processDevice (m : DeviceManager) (index : Nat) (device : ManagedDevice Unit) :
    Except String DeviceResult × DeviceManager :=
  if device.reinitializePending then m.processReinitialization world config index device
  else
    let (result, m) := m.processNormalRead world config index device
    (.ok result, m)

/-- `_late_retry_failure_result`, with the record it leaves. -/
def lateRetryFailure (m : DeviceManager) (info : FailedDevice) (error : String) :
    DeviceResult × DeviceManager :=
  let recorded := { info with failureReason := some error, retryFailureLogged := true }
  (.bootRecoveryFailed info.id info.device error info.initializationAttemptsUsed
    (!info.retryFailureLogged), { m with failed := replaceFailed m.failed recorded })

/-- `del _failed_devices[id]`. -/
def deleteFailed (m : DeviceManager) (deviceId : String) : DeviceManager :=
  { m with failed := m.failed.eraseP (fun f => f.id == deviceId) }

def retryFailedDevice (m : DeviceManager) (definition : DeviceDefinition) (info : FailedDevice) :
    DeviceResult × DeviceManager :=
  match m.call world definition.id .construction with
  | (some err, m) => m.lateRetryFailure info err
  | (none, m) =>
    let attempts := info.initializationAttemptsUsed + 1
    match m.call world definition.id .initialization with
    | (some err, m) => m.lateRetryFailure { info with initializationAttemptsUsed := attempts } err
    | (none, m) =>
      (.bootRecovered definition.id definition.deviceType attempts,
        (m.recordSuccess definition attempts).deleteFailed definition.id)

def retryFailedFrom (m : DeviceManager) : List DeviceDefinition → List DeviceResult × DeviceManager
  | [] => ([], m)
  | definition :: rest =>
    match m.failed.find? (fun f => f.id == definition.id) with
    | none => m.retryFailedFrom rest
    | some info =>
      let (result, m) := m.retryFailedDevice world definition info
      let (results, m) := m.retryFailedFrom rest
      (result :: results, m)

def retryFailedDevices (m : DeviceManager) : List DeviceResult × DeviceManager :=
  m.retryFailedFrom world config.devices

end Manager

def getActiveDevices (m : DeviceManager) : List (ManagedDevice Unit) := m.active

end DeviceManager

def DeviceState.text : DeviceState → String
  | .ready => "ready"
  | .reinitializePending => "reinitialize_pending"
  | .initializationFailed => "initialization_failed"

def ageValue (now : Int) (readMs : Option Int) : PyValue :=
  match readMs with
  | some readMs => .int (now - readMs)
  | none => .none

def ageFields (now : Option Int) (lastReadMs lastSuccessfulReadMs : Option Int) : PyDict :=
  match now with
  | none => []
  | some now => [(.str "last_read_age_ms", ageValue now lastReadMs),
      (.str "last_successful_read_age_ms", ageValue now lastSuccessfulReadMs)]

def statusFields (id device : String) (state : DeviceState) (initializationAttemptsUsed
    consecutiveReadFailures totalReadFailures readCount successfulReadCount : Nat) : PyDict :=
  [(.str "id", .str id), (.str "device", .str device), (.str "state", .str state.text),
    (.str "initialization_attempts_used", .int initializationAttemptsUsed),
    (.str "consecutive_read_failures", .int consecutiveReadFailures),
    (.str "total_read_failures", .int totalReadFailures), (.str "read_count", .int readCount),
    (.str "successful_read_count", .int successfulReadCount)]

def ManagedDevice.getStatusSnapshot {D : Type} (d : ManagedDevice D) (now : Option Int) : PyDict :=
  statusFields d.deviceId d.deviceType d.state d.initializationAttemptsUsed
      d.consecutiveReadFailures d.totalReadFailures d.readCount d.successfulReadCount ++
    ((match d.name with
      | .none => []
      | name => [(.str "name", name)]) ++ ageFields now d.lastReadMs d.lastSuccessfulReadMs)

def FailedDevice.statusSnapshot (f : FailedDevice) : PyDict :=
  statusFields f.id f.device f.state f.initializationAttemptsUsed 0 0 0 0 ++
    [(.str "failure_reason", match f.failureReason with
      | some reason => .str reason
      | none => .none),
      (.str "last_read_age_ms", .none), (.str "last_successful_read_age_ms", .none)]

namespace DeviceManager

def getDeviceCounts (config : Core1Config) (m : DeviceManager) : PyDict :=
  [(.str "configured", .int config.devices.length),
    (.str "active", .int (m.active.countP (fun d => d.state = .ready))),
    (.str "initialization_failed", .int (m.failed.countP (fun f => f.state = .initializationFailed)))]

/-- `device_snapshots`: one entry for each id. -/
def deviceSnapshots (m : DeviceManager) (now : Option Int) : PyDict :=
  let active := m.active.foldl
    (fun snapshots d => Json.store snapshots d.deviceId (.dict (d.getStatusSnapshot now))) []
  m.failed.foldl (fun snapshots f => Json.store snapshots f.id (.dict f.statusSnapshot)) active

def deviceStatus (config : Core1Config) (m : DeviceManager) (now : Option Int) : List PyValue :=
  config.devices.filterMap (fun definition => (m.deviceSnapshots now).get? definition.id)

def getStatusSnapshot (config : Core1Config) (m : DeviceManager) (now : Option Int) : PyDict :=
  [(.str "devices", .dict (m.getDeviceCounts config)),
    (.str "device_status", .list (m.deviceStatus config now))]

end DeviceManager

inductive ManagerCall where
  | processDevice (index : Nat)
  | retryFailedDevices
  deriving DecidableEq, Repr

/-- The manager after some calls, with all their results. -/
structure ManagerRun where
  manager : DeviceManager
  results : List DeviceResult

namespace ManagerRun

def step (world : DriverWorld) (config : Core1Config) (run : ManagerRun) :
    ManagerCall → ManagerRun
  | .processDevice index =>
    match run.manager.active[index]? with
    | none => run
    | some device =>
      match run.manager.processDevice world config index device with
      | (.ok result, manager) => ⟨manager, run.results ++ [result]⟩
      | (.error _, manager) => ⟨manager, run.results⟩
  | .retryFailedDevices =>
    let (results, manager) := run.manager.retryFailedDevices world config
    ⟨manager, run.results ++ results⟩

/-- After `initialize_devices`. -/
def booted (world : DriverWorld) (config : Core1Config) : ManagerRun :=
  ⟨({} : DeviceManager).initializeDevices world config, []⟩

def after (world : DriverWorld) (config : Core1Config) (calls : List ManagerCall) : ManagerRun :=
  calls.foldl (step world config) (booted world config)

end ManagerRun

end PicoDualCore
