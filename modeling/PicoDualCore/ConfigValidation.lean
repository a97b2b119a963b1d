import PicoDualCore.DeviceValidation
set_option autoImplicit false

/-!
The validation of a complete configuration. It is pure, and startup and the write-config command
run candidates through the same path.
-/

namespace PicoDualCore

structure ConfigError where
  message : String
  code : Option String := none
  unknownFields : Option (List String) := none
  details : Option PyDict := none
  deriving Repr

inductive ConfigFailure where
  | config (e : ConfigError)
  | python (e : PyError)
  deriving Repr

abbrev ConfigCheck (α : Type) := Except ConfigFailure α

def ConfigCheck.ofPython {α : Type} (r : Except PyError α) : ConfigCheck α := r.mapError .python

/-- `raise ConfigError(message, code="invalid_value")` when the condition holds. -/
def refuseIf (condition : Bool) (message : String) : ConfigCheck Unit :=
  if condition then .error (.config { message := message, code := "invalid_value" }) else .ok ()

def refuseOwned {α : Type} (owner : Option α) (message : α → String) : ConfigCheck Unit :=
  match owner with
  | some owner => .error (.config { message := message owner, code := "invalid_value" })
  | none => .ok ()

def MAX_MQTT_KEEPALIVE_SEC : Int := 65535
def MIN_MQTT_KEEPALIVE_SEC : Int := 5
def MAX_MQTT_TOPIC_BYTES : Nat := 122
def MAX_TICKS_SAFE_INTERVAL_MS : Int := 2 ^ 29 - 1
def MAX_DEVICE_INITIALIZATION_ATTEMPTS : Int := 10
def MAX_RECONNECT_DELAY_SEC : Int := 600
def MAX_RECONNECT_ATTEMPTS : Nat := 32
def MAX_MQTT_BROKER_RESPONSE_TIMEOUT_SEC : Int := 5
def MAX_NETWORK_PROBE_TIMEOUT_SEC : Int := 30
def MAX_MQTT_OUTBOUND_PUBLISH_DELAY_MS : Int := 60 * 1000
def MAX_MQTT_COMMAND_POLL_MS : Int := 10 * 1000
def MAX_DEVICE_INITIALIZATION_RETRY_DELAY_MS : Int := 60 * 1000
def MAX_DEVICE_READ_FAILURE_THRESHOLD : Int := 1000
def MAX_DEVICES : Nat := 16
def MAX_OUTBOUND_QUEUE_MAX_MESSAGES : Int := 256
def MAX_SOURCE_LENGTH : Nat := 64
def CONFIG_SCHEMA_VERSION : Int := 10

def REQUIRED_KEYS : List String :=
  ["config_schema_version", "source", "read_loop_sec", "device_initialization_attempts",
    "device_initialization_retry_delay_ms", "device_read_failure_threshold", "devices",
    "mqtt_broker_ip_address", "mqtt_keepalive_sec", "mqtt_command_poll_ms",
    "mqtt_outbound_publish_delay_ms", "mqtt_broker_response_timeout_sec",
    "datetime_sync_interval_min", "network_snapshot_interval_sec", "network_probe_timeout_sec",
    "mqtt_topic_telemetry", "mqtt_topic_log", "mqtt_topic_command",
    "mqtt_topic_command_response", "mqtt_topic_info_request", "mqtt_topic_info_response",
    "mqtt_topic_network_probe", "mqtt_topic_health", "health_interval_sec",
    "wifi_reconnect_delays_sec", "mqtt_reconnect_delays_sec", "outbound_queue_max_messages"]

def MQTT_TOPIC_KEYS : List String :=
  ["mqtt_topic_telemetry", "mqtt_topic_log", "mqtt_topic_command", "mqtt_topic_command_response",
    "mqtt_topic_info_request", "mqtt_topic_info_response", "mqtt_topic_network_probe",
    "mqtt_topic_health"]

def POSITIVE_KEYS : List String :=
  ["read_loop_sec", "device_initialization_attempts", "device_read_failure_threshold",
    "mqtt_keepalive_sec", "mqtt_command_poll_ms", "mqtt_broker_response_timeout_sec",
    "datetime_sync_interval_min", "network_snapshot_interval_sec", "network_probe_timeout_sec",
    "health_interval_sec", "outbound_queue_max_messages"]

def qualifier (index : Nat) (device : PyDict) : String :=
  (nonEmptyStr? (device.getD "id")).getD (toString index)

def unknownDevicePaths (index : Nat) (device : PyValue) : Except PyError (List String) :=
  match device with
  | .dict device => do
    let here := (PyDict.keys device).filter (fun key => !DEVICE_DEFINITION_KEYS.contains key)
    let own := here.map (fun key => s!"devices[{qualifier index device}].{key}")
    match PyDict.getD device "config" with
    | .dict config =>
      match ← allowedConfigKeys (PyDict.getD device "device_type") with
      | some allowed =>
        let there := (PyDict.keys config).filter (fun key => !allowed.contains key)
        pure (own ++ there.map (fun key => s!"devices[{qualifier index device}].config.{key}"))
      | none => pure own
    | _ => pure own
  | _ => .ok []

def unknownConfigPaths (config : PyDict) : Except PyError (List String) := do
  let top := config.keys.filter (fun key => !REQUIRED_KEYS.contains key)
  match config.getD "devices" with
  | .list devices =>
    let nested ← devices.zipIdx.mapM (fun entry => unknownDevicePaths entry.2 entry.1)
    pure (sortedSet (top ++ nested.flatten))
  | _ => pure (sortedSet top)

def requireNonEmptyString (config : PyDict) (key : String) : ConfigCheck String :=
  match nonEmptyStr? (config.getD key) with
  | some s => .ok s
  | none => .error (.config
      { message := s!"{key} must be a non-empty string", code := "invalid_value" })

def topicChar (c : Char) : Bool := 1 ≤ c.toNat && c.toNat ≤ 127 && c != '+' && c != '#'

def requireMqttTopic (config : PyDict) (key : String) : ConfigCheck String := do
  let value ← requireNonEmptyString config key
  refuseIf (decide (MAX_MQTT_TOPIC_BYTES < value.toList.length) || !value.toList.all topicChar)
    s!"{key} must be 1-{MAX_MQTT_TOPIC_BYTES} ASCII bytes with no NUL or wildcard (+/#)"
  pure value

/-- `seen` maps the topics so far to the keys that own them. -/
def requireDistinctTopics : List (String × String) → List (String × String) → ConfigCheck Unit
  | _, [] => .ok ()
  | seen, (key, value) :: rest => do
    refuseOwned (seen.lookup value)
      (fun owner => s!"Duplicate MQTT topic '{value}' used by {owner} and {key}")
    requireDistinctTopics ((value, key) :: seen) rest

def ipv4Part (part : List Char) : Bool :=
  1 ≤ part.length && part.length ≤ 3 && part.all (fun c => '0' ≤ c && c ≤ '9') &&
    !(1 < part.length && part.head? == some '0') &&
    part.foldl (fun n c => 10 * n + (c.toNat - '0'.toNat)) 0 ≤ 255

def requireIpv4Address (key value : String) : ConfigCheck Unit :=
  let parts := value.toList.splitOn '.'
  refuseIf (parts.length != 4 || !parts.all ipv4Part)
    s!"{key} must be a numeric IPv4 address (dotted quad)"

def requireInteger (kind : String) (good : Int → Bool) (config : PyDict) (key : String) :
    ConfigCheck Int :=
  match config.getD key with
  | .int n => if good n then .ok n else .error (.config
      { message := s!"{key} must be a {kind} integer", code := "invalid_value" })
  | _ => .error (.config
      { message := s!"{key} must be a {kind} integer", code := "invalid_value" })

def requirePositiveInteger (config : PyDict) (key : String) : ConfigCheck Int :=
  requireInteger "positive" (fun n => 0 < n) config key

def requireNonnegativeInteger (config : PyDict) (key : String) : ConfigCheck Int :=
  requireInteger "non-negative" (fun n => 0 ≤ n) config key

/-- A field that has already been checked to be an integer. -/
def PyDict.intD (config : PyDict) (key : String) : Int :=
  match config.getD key with
  | .int n => n
  | _ => 0

def requireAtLeast (config : PyDict) (key : String) (low : Int) : ConfigCheck Unit :=
  refuseIf (decide (config.intD key < low)) s!"{key} must be at least {low}"

def requireAtMost (config : PyDict) (key : String) (high : Int) : ConfigCheck Unit :=
  refuseIf (decide (high < config.intD key)) s!"{key} must be at most {high}"

def requireTicksSafeInterval (config : PyDict) (key : String) (msPerUnit : Int) :
    ConfigCheck Unit :=
  refuseIf (decide (MAX_TICKS_SAFE_INTERVAL_MS < config.intD key * msPerUnit))
    (s!"{key} must be at most {MAX_TICKS_SAFE_INTERVAL_MS / msPerUnit} (MicroPython ticks "
      ++ s!"intervals are limited to {MAX_TICKS_SAFE_INTERVAL_MS} ms)")

def validateDelay (key : String) (entry : PyValue × Nat) : ConfigCheck Unit :=
  match entry.1 with
  | .int delay => do
    refuseIf (decide (delay < 0)) s!"{key}[{entry.2}] must be a non-negative integer"
    refuseIf (decide (MAX_RECONNECT_DELAY_SEC < delay))
      s!"{key}[{entry.2}] must be at most {MAX_RECONNECT_DELAY_SEC} seconds"
  | _ => refuseIf true s!"{key}[{entry.2}] must be a non-negative integer"

def validateDelays (config : PyDict) (key : String) : ConfigCheck Unit :=
  match config.getD key with
  | .list (delay :: rest) => do
    refuseIf (decide (MAX_RECONNECT_ATTEMPTS < (delay :: rest).length))
      s!"{key} must contain at most {MAX_RECONNECT_ATTEMPTS} entries"
    (delay :: rest).zipIdx.forM (validateDelay key)
  | _ => refuseIf true s!"{key} must be a non-empty list"

def PyValue.show : PyValue → String
  | .int n => toString n
  | .str s => s
  | v => v.typeName

/-- A dict lookup by a validated key. -/
def ownerOf {α : Type} (owners : List (PyValue × α)) (key : PyValue) : Option α :=
  (owners.find? (fun owner => owner.1.pyEq key)).map Prod.snd

def deviceConfig (device : PyDict) : PyDict :=
  match device.getD "config" with
  | .dict config => config
  | _ => []

def DeviceFailure.asConfig : DeviceFailure → ConfigFailure
  | .invalid message code => .config { message := message, code := code }
  | .python e => .python e

def validateEachDevice : List String → List (PyValue × Nat) → ConfigCheck (List (PyDict × Nat))
  | _, [] => .ok []
  | seen, (.dict device, index) :: rest => do
    let deviceId := nonEmptyStr? (PyDict.getD device "id")
    match deviceId with
    | some deviceId => refuseIf (seen.contains deviceId) s!"Duplicate device id: {deviceId}"
    | none => pure ()
    (validateDeviceDefinition device).mapError DeviceFailure.asConfig
    let others ← validateEachDevice (deviceId.toList ++ seen) rest
    pure ((device, index) :: others)
  | _, (_, index) :: _ => do
    refuseIf true s!"devices[{index}] must be an object"
    pure []

/-- One I2C controller has one pin and clock setting. -/
def checkBusSettings :
    List (PyValue × String × PyValue × PyValue × PyValue) → List (PyDict × Nat) → ConfigCheck Unit
  | _, [] => .ok ()
  | owners, (device, index) :: rest => do
    match ← ConfigCheck.ofPython (i2cBusIdentity device) with
    | none => checkBusSettings owners rest
    | some (bus, sda, scl, freq) =>
      match ownerOf owners bus with
      | none => checkBusSettings ((bus, qualifier index device, sda, scl, freq) :: owners) rest
      | some (owner, sda', scl', freq') => do
        refuseIf (!(sda'.pyEq sda && scl'.pyEq scl && freq'.pyEq freq))
          (s!"Conflicting I2C configuration on i2c_bus {bus.show}: devices '{owner}' and "
            ++ s!"'{qualifier index device}' must use identical i2c_sda_pin / i2c_scl_pin / "
            ++ "i2c_freq_hz (one bus is one physical controller, and a second construction "
            ++ "reconfigures it under the first device)")
        checkBusSettings owners rest

def isType (device : PyDict) (name : String) : Bool := (device.getD "device_type").pyEq (.str name)

def onewireOwners (devices : List (PyDict × Nat)) : List (PyValue × String) :=
  (devices.filter (fun entry => isType entry.1 "ds18b20")).map
    (fun entry => ((deviceConfig entry.1).getD "pin", qualifier entry.2 entry.1))

/-- The three pins of a soil sensor against those already taken. -/
def claimSoilPins (onewire : List (PyValue × String)) (name : String) (config : PyDict) :
    List (PyValue × String × String) → List String → ConfigCheck (List (PyValue × String × String))
  | owners, [] => .ok owners
  | owners, key :: rest =>
    match config.get? key with
    | none => claimSoilPins onewire name config owners rest
    | some pin => do
      refuseOwned (ownerOf owners pin) (fun owner =>
        s!"Conflicting GPIO pin {pin.show}: device '{owner.1}' (yl69_fc28 {owner.2}) and device "
          ++ s!"'{name}' (yl69_fc28 {key}) share one pin; one GPIO cannot carry two signals")
      refuseOwned (ownerOf onewire pin) (fun owner =>
        s!"Conflicting GPIO pin {pin.show}: device '{name}' (yl69_fc28 {key}) and device "
          ++ s!"'{owner}' (1-Wire DQ) share one pin; one GPIO cannot carry two signals")
      claimSoilPins onewire name config (owners ++ [(pin, name, key)]) rest

def soilPinOwners (onewire : List (PyValue × String)) :
    List (PyValue × String × String) → List (PyDict × Nat) →
      ConfigCheck (List (PyValue × String × String))
  | owners, [] => .ok owners
  | owners, (device, index) :: rest =>
    if isType device "yl69_fc28" then do
      let owners ← claimSoilPins onewire (qualifier index device) (deviceConfig device) owners
        ["adc_pin", "digital_pin", "power_pin"]
      soilPinOwners onewire owners rest
    else soilPinOwners onewire owners rest

def checkI2cPin (onewire : List (PyValue × String)) (soil : List (PyValue × String × String))
    (name key : String) (pin : Int) : ConfigCheck Unit := do
  refuseOwned (ownerOf onewire (.int pin)) (fun owner =>
    s!"Conflicting GPIO pin {pin}: device '{name}' (I2C {key}) and device '{owner}' (1-Wire DQ) "
      ++ "share one pin; a GPIO cannot carry two bus protocols")
  refuseOwned (ownerOf soil (.int pin)) (fun owner =>
    s!"Conflicting GPIO pin {pin}: device '{name}' (I2C {key}) and device '{owner.1}' "
      ++ s!"(yl69_fc28 {owner.2}) share one pin; one GPIO cannot carry two signals")

def PyDict.pin? (config : PyDict) (key : String) : Option Int :=
  match config.getD key with
  | .int n => some n
  | _ => none

def checkI2cPins (onewire : List (PyValue × String)) (soil : List (PyValue × String × String))
    (entry : PyDict × Nat) : ConfigCheck Unit :=
  let config := deviceConfig entry.1
  if config.has "i2c_bus" then do
    let pins := effectiveRp2I2cPins (config.intD "i2c_bus") (config.pin? "i2c_sda_pin")
      (config.pin? "i2c_scl_pin")
    checkI2cPin onewire soil (qualifier entry.2 entry.1) "i2c_sda_pin" pins.1
    checkI2cPin onewire soil (qualifier entry.2 entry.1) "i2c_scl_pin" pins.2
  else .ok ()

structure CandidateSensor where
  deviceType : String
  bus : PyValue
  qualifier : String
  candidates : PyValue

def candidateSensors :
    List (PyValue × String) → List (PyDict × Nat) → ConfigCheck (List CandidateSensor)
  | _, [] => .ok []
  | ltr390Owners, (device, index) :: rest =>
    let config := deviceConfig device
    match config.get? "i2c_bus" with
    | none => candidateSensors ltr390Owners rest
    | some bus =>
      let name := qualifier index device
      let sensor (deviceType : String) : CandidateSensor :=
        ⟨deviceType, bus, name, config.getD "i2c_address_candidates"⟩
      if isType device "ltr390" then do
        refuseOwned (ownerOf ltr390Owners bus) (fun owner =>
          s!"Multiple LTR390 devices cannot share i2c_bus {bus.show} because the sensor address "
            ++ s!"is fixed: '{owner}' and '{name}' would both target the same chip")
        candidateSensors ((bus, name) :: ltr390Owners) rest
      else if isType device "bme280" then do
        let others ← candidateSensors ltr390Owners rest
        pure (sensor "bme280" :: others)
      else if isType device "sht35" then do
        let others ← candidateSensors ltr390Owners rest
        pure (sensor "sht35" :: others)
      else candidateSensors ltr390Owners rest

def CandidateSensor.effective (sensor : CandidateSensor) (defaults : List Int) : List PyValue :=
  match sensor.candidates with
  | .list items => items
  | _ => defaults.map .int

/-- Whether the sensors of one type on one bus fail to name one distinct address each. -/
def addressConflict (defaults : List Int) : List PyValue → List CandidateSensor → Bool
  | _, [] => false
  | addresses, sensor :: rest =>
    match sensor.effective defaults with
    | [address] => addresses.any (fun a => a.pyEq address) ||
        addressConflict defaults (address :: addresses) rest
    | _ => true

def candidateLabel (deviceType : String) : String :=
  if deviceType = "bme280" then "BME280" else "SHT35"

def checkCandidateGroup (group : List CandidateSensor) : ConfigCheck Unit :=
  match group with
  | first :: _ :: _ =>
    let defaults := (deviceRegistry.lookup first.deviceType).elim [] ValidationModule.defaultCandidates
    let names := ", ".intercalate (group.map CandidateSensor.qualifier)
    refuseIf (addressConflict defaults [] group)
      (s!"Multiple {candidateLabel first.deviceType} devices on i2c_bus {first.bus.show} "
        ++ s!"({names}) must each specify one "
        ++ "distinct i2c_address_candidates address")
  | _ => .ok ()

def byBus : Nat → List CandidateSensor → List (List CandidateSensor)
  | 0, _ => []
  | _, [] => []
  | fuel + 1, sensor :: rest =>
    (sensor :: rest.filter (fun other => other.bus.pyEq sensor.bus)) ::
      byBus fuel (rest.filter (fun other => !other.bus.pyEq sensor.bus))

def typeOrder (sensors : List CandidateSensor) : List String :=
  match sensors with
  | [] => []
  | first :: _ => if first.deviceType = "bme280" then ["bme280", "sht35"] else ["sht35", "bme280"]

def checkCandidateSensors (sensors : List CandidateSensor) : ConfigCheck Unit :=
  (typeOrder sensors).forM (fun deviceType =>
    (byBus sensors.length (sensors.filter (fun sensor => sensor.deviceType = deviceType))).forM
      checkCandidateGroup)

def validateDevices (devices : PyValue) : ConfigCheck Unit :=
  match devices with
  | .list (device :: rest) => do
    refuseIf (decide (MAX_DEVICES < (device :: rest).length))
      s!"devices must contain at most {MAX_DEVICES} entries"
    let devices ← validateEachDevice [] (device :: rest).zipIdx
    checkBusSettings [] devices
    let onewire := onewireOwners devices
    let soil ← soilPinOwners onewire [] devices
    devices.forM (checkI2cPins onewire soil)
    let sensors ← candidateSensors [] devices
    checkCandidateSensors sensors
  | _ => refuseIf true "devices must be a non-empty list"

def requireKey (config : PyDict) (key : String) : ConfigCheck Unit :=
  if config.has key then .ok ()
  else .error (.config { message := s!"Missing required config key: {key}", code := "missing_key" })

def requireSchemaVersion (config : PyDict) : ConfigCheck Unit :=
  match config.getD "config_schema_version" with
  | .int version =>
    if version = CONFIG_SCHEMA_VERSION then .ok ()
    else .error (.config
      { message := "Unsupported config_schema_version"
        code := "invalid_config_schema_version"
        details := some [(.str "expected", .int CONFIG_SCHEMA_VERSION),
          (.str "received", .int version)] })
  | _ => refuseIf true "config_schema_version must be an integer"

def validateStrings (config : PyDict) : ConfigCheck Unit := do
  let source ← requireNonEmptyString config "source"
  let broker ← requireNonEmptyString config "mqtt_broker_ip_address"
  let topics ← MQTT_TOPIC_KEYS.mapM (requireMqttTopic config)
  requireDistinctTopics [] (MQTT_TOPIC_KEYS.zip topics)
  refuseIf (decide (MAX_SOURCE_LENGTH < source.utf8ByteSize))
    s!"source must be at most {MAX_SOURCE_LENGTH} bytes"
  requireIpv4Address "mqtt_broker_ip_address" broker

def validateIntegers (config : PyDict) : ConfigCheck Unit := do
  POSITIVE_KEYS.forM (fun key => do let _ ← requirePositiveInteger config key)
  requireAtLeast config "mqtt_keepalive_sec" MIN_MQTT_KEEPALIVE_SEC
  requireAtMost config "mqtt_keepalive_sec" MAX_MQTT_KEEPALIVE_SEC
  requireAtMost config "device_initialization_attempts" MAX_DEVICE_INITIALIZATION_ATTEMPTS
  let _ ← requireNonnegativeInteger config "device_initialization_retry_delay_ms"
  let _ ← requireNonnegativeInteger config "mqtt_outbound_publish_delay_ms"
  requireAtMost config "mqtt_broker_response_timeout_sec" MAX_MQTT_BROKER_RESPONSE_TIMEOUT_SEC
  requireAtMost config "network_probe_timeout_sec" MAX_NETWORK_PROBE_TIMEOUT_SEC
  requireAtMost config "mqtt_outbound_publish_delay_ms" MAX_MQTT_OUTBOUND_PUBLISH_DELAY_MS
  requireAtMost config "mqtt_command_poll_ms" MAX_MQTT_COMMAND_POLL_MS
  requireAtMost config "device_initialization_retry_delay_ms"
    MAX_DEVICE_INITIALIZATION_RETRY_DELAY_MS
  requireAtMost config "device_read_failure_threshold" MAX_DEVICE_READ_FAILURE_THRESHOLD
  requireAtMost config "outbound_queue_max_messages" MAX_OUTBOUND_QUEUE_MAX_MESSAGES

def validateIntervals (config : PyDict) : ConfigCheck Unit := do
  requireTicksSafeInterval config "read_loop_sec" 1000
  requireTicksSafeInterval config "health_interval_sec" 1000
  requireTicksSafeInterval config "network_snapshot_interval_sec" 1000
  requireTicksSafeInterval config "mqtt_broker_response_timeout_sec" 1000
  requireTicksSafeInterval config "datetime_sync_interval_min" (60 * 1000)
  requireTicksSafeInterval config "mqtt_command_poll_ms" 1
  requireTicksSafeInterval config "mqtt_outbound_publish_delay_ms" 1

def checkConfig (config : PyDict) : ConfigCheck Unit := do
  let unknown ← ConfigCheck.ofPython (unknownConfigPaths config)
  if unknown.isEmpty then pure ()
  else throw (.config { message := "Configuration contains unknown fields"
                        code := "unknown_config_fields", unknownFields := some unknown })
  REQUIRED_KEYS.forM (requireKey config)
  requireSchemaVersion config
  validateStrings config
  validateIntegers config
  validateIntervals config
  validateDelays config "wifi_reconnect_delays_sec"
  validateDelays config "mqtt_reconnect_delays_sec"
  validateDevices (config.getD "devices")

def validateConfig (config : PyValue) : ConfigCheck PyValue :=
  match config with
  | .dict items => do
    checkConfig items
    pure config
  | _ => do
    refuseIf true "Config must be a JSON object"
    pure config

theorem validateConfig_ok {config value : PyValue} (h : validateConfig config = .ok value) :
    value = config ∧ config.isDict = true := by
  unfold validateConfig at h
  cases config <;> simp only [refuseIf, if_true, bind, Except.bind] at h <;> try cases h
  rename_i items
  cases hc : checkConfig items with
  | error e => rw [hc] at h; cases h
  | ok u => rw [hc] at h; cases h; exact ⟨rfl, rfl⟩

/-- The configuration that the repository ships, for a given source. -/
def shippedConfig (source : String) : PyValue :=
  .dict [(.str "source", .str source), (.str "config_schema_version", .int 10),
    (.str "outbound_queue_max_messages", .int 32), (.str "read_loop_sec", .int 20),
    (.str "health_interval_sec", .int 60), (.str "datetime_sync_interval_min", .int 60),
    (.str "device_initialization_attempts", .int 3),
    (.str "device_initialization_retry_delay_ms", .int 250),
    (.str "device_read_failure_threshold", .int 3), (.str "network_snapshot_interval_sec", .int 5),
    (.str "network_probe_timeout_sec", .int 5), (.str "mqtt_broker_ip_address", .str "10.10.10.64"),
    (.str "mqtt_keepalive_sec", .int 30), (.str "mqtt_command_poll_ms", .int 100),
    (.str "mqtt_outbound_publish_delay_ms", .int 100),
    (.str "mqtt_broker_response_timeout_sec", .int 4),
    (.str "mqtt_topic_telemetry", .str "iot/v3/telemetry"),
    (.str "mqtt_topic_log", .str "iot/v3/log"), (.str "mqtt_topic_command", .str "iot/v3/command"),
    (.str "mqtt_topic_command_response", .str "iot/v3/command-response"),
    (.str "mqtt_topic_info_request", .str "iot/v3/info-request"),
    (.str "mqtt_topic_info_response", .str "iot/v3/info-response"),
    (.str "mqtt_topic_network_probe", .str "iot/v3/network_probe"),
    (.str "mqtt_topic_health", .str "iot/v3/health"),
    (.str "wifi_reconnect_delays_sec",
      .list ([2, 2, 3, 3, 3, 3, 5, 5, 5, 5, 5, 10, 10, 20, 20, 40, 40].map .int)),
    (.str "mqtt_reconnect_delays_sec",
      .list ([2, 2, 2, 2, 2, 3, 3, 3, 5, 5, 5, 10, 10, 10, 20, 20, 20].map .int)),
    (.str "devices", .list [.dict [(.str "id", .str "7c7b334a85bc5a8b4d7137365306f2a0"),
      (.str "device_type", .str "yl69_fc28"), (.str "name", .str "YL-69/FC-28 Soil Moisture Sensor"),
      (.str "config", .dict [(.str "adc_pin", .int 26), (.str "dry_raw", .int 52000),
        (.str "wet_raw", .int 22000)])]])]

end PicoDualCore
