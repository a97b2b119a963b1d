import PicoDualCore.PyValue
set_option autoImplicit false

/-!
The pure validation of device definitions: the board's pins, the I2C routing, the five device
types and the registry that dispatches to them.
-/

namespace PicoDualCore

inductive DeviceFailure where
  | invalid (message : String) (code : String)
  | python (e : PyError)
  deriving DecidableEq, Repr

abbrev DeviceCheck (α : Type) := Except DeviceFailure α

/-- `raise DeviceValidationError(message, code)` when the condition holds. -/
def rejectIf (condition : Bool) (message : String) (code : String := "invalid_value") :
    DeviceCheck Unit :=
  if condition then .error (.invalid message code) else .ok ()

def USER_GPIO_PINS : List Int :=
  [0, 1, 2, 3, 4, 5, 6, 7, 8, 9, 10, 11, 12, 13, 14, 15, 16, 17, 18, 19, 20, 21, 22, 26, 27, 28]

def WIRELESS_RESERVED_PINS : List Int := [23, 24, 25, 29]

def pinList (pins : List Int) : String := ", ".intercalate (pins.map toString)

def validateUserGpioPin (key : String) (pin : PyValue) : DeviceCheck Int :=
  match pin with
  | .int pin => do
    rejectIf (WIRELESS_RESERVED_PINS.contains pin)
      (s!"{key} {pin} is reserved by the board's wireless subsystem (GP23 wireless power-on, "
        ++ "GP24 wireless SPI data/IRQ, GP25 wireless SPI chip-select, GP29 wireless SPI clock "
        ++ s!"/ VSYS ADC); externally exposed GPIOs are {pinList USER_GPIO_PINS}")
    rejectIf (!USER_GPIO_PINS.contains pin)
      s!"{key} must be an externally exposed GPIO: {pinList USER_GPIO_PINS}"
    pure pin
  | _ => .error (.invalid s!"{key} must be an integer GPIO" "invalid_value")

def sdaPins (bus : Int) : List Int :=
  (if bus = 0 then [0, 4, 8, 12, 16, 20, 24, 28] else [2, 6, 10, 14, 18, 22, 26]).filter
    USER_GPIO_PINS.contains

def sclPins (bus : Int) : List Int :=
  (if bus = 0 then [1, 5, 9, 13, 17, 21, 25, 29] else [3, 7, 11, 15, 19, 23, 27]).filter
    USER_GPIO_PINS.contains

def defaultPins (bus : Int) : Int × Int := if bus = 0 then (4, 5) else (6, 7)

def effectiveRp2I2cPins (bus : Int) (sda scl : Option Int) : Int × Int :=
  (sda.getD (defaultPins bus).1, scl.getD (defaultPins bus).2)

/-- An optional pin: an absent key and an explicit `None` read alike. -/
def optionalPin (key : String) (value : PyValue) : DeviceCheck (Option Int) :=
  match value with
  | .none => .ok none
  | value => do
    let pin ← validateUserGpioPin key value
    pure (some pin)

def routed (key line : String) (bus : Int) (pins : List Int) : Option Int → DeviceCheck Unit
  | none => .ok ()
  | some pin => rejectIf (!pins.contains pin)
    s!"{key} {pin} is not a valid {line} pin for i2c_bus {bus} (valid {line} pins: {pinList pins})"

def validateRp2I2cPins (bus : Int) (sda scl : PyValue) : DeviceCheck Unit := do
  let sda ← optionalPin "i2c_sda_pin" sda
  let scl ← optionalPin "i2c_scl_pin" scl
  rejectIf (sda.isSome && sda == scl) "i2c_sda_pin and i2c_scl_pin must be different pins"
  routed "i2c_sda_pin" "SDA" bus (sdaPins bus) sda
  routed "i2c_scl_pin" "SCL" bus (sclPins bus) scl

def onlyAllowed (label : String) (allowed : List String) (config : PyDict) : DeviceCheck Unit :=
  let unknown := sortedSet (config.keys.filter (fun key => !allowed.contains key))
  let names := ", ".intercalate unknown
  rejectIf (!unknown.isEmpty)
    s!"{label} contains unknown field(s): {names}" "unknown_config_fields"

def required (label key : String) (config : PyDict) : DeviceCheck PyValue :=
  match config.get? key with
  | some value => .ok value
  | none => .error (.invalid s!"{label} missing required key: {key}" "missing_key")

/-- A real `int` (a `bool` is none) with a property, or the message. -/
def intThat (good : Int → Bool) (message : String) (value : PyValue) : DeviceCheck Int :=
  match value with
  | .int n => if good n then .ok n else .error (.invalid message "invalid_value")
  | _ => .error (.invalid message "invalid_value")

def intBetween (key : String) (low high : Int) (value : PyValue) : DeviceCheck Int :=
  intThat (fun n => low ≤ n && n ≤ high) s!"{key} must be an integer {low}-{high}" value

/-- `_is_finite_number`, with the number. -/
def finiteNumber? : PyValue → Option Decimal
  | .int n => some (.ofInt n)
  | .float (.finite d) => some d
  | _ => none

structure Offset where
  key : String
  bound : Decimal
  boundText : String

def validateOffset (offsets : List Offset) (item : PyKey × PyValue) : DeviceCheck Unit :=
  match finiteNumber? item.2 with
  | none => .error (.invalid s!"offsets.{item.1.text} must be a finite number" "invalid_value")
  | some value => match offsets.find? (fun o => o.key == item.1.text) with
    | none => .error (.python (.keyError item.1.text))
    | some offset =>
      rejectIf (!value.abs.le offset.bound)
        s!"offsets.{offset.key} must be within +/-{offset.boundText}"

def validateOffsets (known : List Offset) (value : PyValue) : DeviceCheck Unit :=
  match value with
  | .none => .ok ()
  | .dict offsets => do
    onlyAllowed "offsets" (known.map Offset.key) offsets
    offsets.forM (validateOffset known)
  | _ => .error (.invalid "offsets must be an object" "invalid_value")

/-- `i2c_bus`, the two pins and the clock, as the three I2C validators check them. -/
def validateI2cKeys (label : String) (defaultFreq minFreq maxFreq : Int) (config : PyDict) :
    DeviceCheck Unit := do
  let bus ← required label "i2c_bus" config
  let bus ← intBetween "i2c_bus" 0 1 bus
  validateRp2I2cPins bus (config.getD "i2c_sda_pin") (config.getD "i2c_scl_pin")
  let _ ← intBetween "i2c_freq_hz" minFreq maxFreq
    ((config.get? "i2c_freq_hz").getD (.int defaultFreq))

def validateCandidates (valid : List Int) (validText : String) :
    List Int → List PyValue → DeviceCheck Unit
  | _, [] => .ok ()
  | seen, entry :: rest => do
    let address ← intThat valid.contains
      s!"i2c_address_candidates entries must be one of {validText}" entry
    rejectIf (seen.contains address)
      s!"i2c_address_candidates contains duplicate address: {address}"
    validateCandidates valid validText (address :: seen) rest

def validateAddressCandidates (valid : List Int) (validText : String) (value : PyValue) :
    DeviceCheck Unit :=
  match value with
  | .none => .ok ()
  | .list (entry :: rest) => validateCandidates valid validText [] (entry :: rest)
  | _ => .error (.invalid "i2c_address_candidates must be a non-empty list" "invalid_value")

namespace Bme280

def ALLOWED_CONFIG_KEYS : List String :=
  ["i2c_bus", "i2c_sda_pin", "i2c_scl_pin", "i2c_freq_hz", "i2c_address_candidates",
    "temperature_oversampling", "pressure_oversampling", "humidity_oversampling", "iir_filter",
    "sea_level_pressure_pa", "offsets"]

def OFFSETS : List Offset :=
  [⟨"temperature_c", .ofInt 100, "100.0"⟩, ⟨"humidity_percent", .ofInt 100, "100.0"⟩,
    ⟨"pressure_pascal", .ofInt 200000, "200000.0"⟩]

def DEFAULT_I2C_ADDRESS_CANDIDATES : List Int := [118, 119]
def DEFAULT_I2C_FREQ_HZ : Int := 400000
def MIN_SEA_LEVEL_PA : Int := 30000
def MAX_SEA_LEVEL_PA : Int := 115000

def validateSeaLevel (config : PyDict) : DeviceCheck Unit := do
  let value ← required "bme280 device config" "sea_level_pressure_pa" config
  let inRange := match finiteNumber? value with
    | some d => (Decimal.ofInt MIN_SEA_LEVEL_PA).le d && d.le (.ofInt MAX_SEA_LEVEL_PA)
    | none => false
  rejectIf (!inRange) "sea_level_pressure_pa must be a finite number 30000.0-115000.0"

def oversampling (config : PyDict) (key : String) : DeviceCheck Int :=
  intBetween key 0 5 ((config.get? key).getD (.int 1))

def validateConfig (config : PyDict) : DeviceCheck Unit := do
  onlyAllowed "bme280 device config" ALLOWED_CONFIG_KEYS config
  validateI2cKeys "bme280 device config" DEFAULT_I2C_FREQ_HZ 100000 1000000 config
  validateAddressCandidates DEFAULT_I2C_ADDRESS_CANDIDATES "(118, 119)"
    (config.getD "i2c_address_candidates")
  let temperature ← oversampling config "temperature_oversampling"
  let pressure ← oversampling config "pressure_oversampling"
  let humidity ← oversampling config "humidity_oversampling"
  let _ ← intBetween "iir_filter" 0 4 ((config.get? "iir_filter").getD (.int 0))
  rejectIf (temperature == 0 && (pressure != 0 || humidity != 0))
    "temperature_oversampling is required when pressure or humidity oversampling is enabled"
  rejectIf (temperature == 0 && pressure == 0 && humidity == 0)
    "at least one channel must be enabled (oversampling 0 skips it)"
  validateSeaLevel config
  validateOffsets OFFSETS (config.getD "offsets")

end Bme280

namespace Sht35

def ALLOWED_CONFIG_KEYS : List String :=
  ["i2c_bus", "i2c_sda_pin", "i2c_scl_pin", "i2c_freq_hz", "i2c_address_candidates",
    "repeatability", "offsets"]

def OFFSETS : List Offset :=
  [⟨"temperature_c", .ofInt 100, "100.0"⟩, ⟨"humidity_percent", .ofInt 100, "100.0"⟩]

def DEFAULT_I2C_ADDRESS_CANDIDATES : List Int := [68, 69]
def DEFAULT_I2C_FREQ_HZ : Int := 400000
def VALID_REPEATABILITIES : List String := ["high", "medium", "low"]

def validateRepeatability (value : PyValue) : DeviceCheck Unit :=
  let good := match value with
    | .str level => VALID_REPEATABILITIES.contains level
    | _ => false
  rejectIf (!good) "repeatability must be one of ('high', 'medium', 'low')"

def validateConfig (config : PyDict) : DeviceCheck Unit := do
  onlyAllowed "sht35 device config" ALLOWED_CONFIG_KEYS config
  validateI2cKeys "sht35 device config" DEFAULT_I2C_FREQ_HZ 100000 1000000 config
  validateAddressCandidates DEFAULT_I2C_ADDRESS_CANDIDATES "(68, 69)"
    (config.getD "i2c_address_candidates")
  validateRepeatability ((config.get? "repeatability").getD (.str "high"))
  validateOffsets OFFSETS (config.getD "offsets")

end Sht35

namespace Ltr390

def ALLOWED_CONFIG_KEYS : List String :=
  ["i2c_bus", "i2c_sda_pin", "i2c_scl_pin", "i2c_freq_hz", "gain", "resolution_bits",
    "measurement_rate_ms", "window_factor", "offsets"]

def OFFSETS : List Offset :=
  [⟨"lux", .ofInt 50000, "50000.0"⟩, ⟨"uv_index", .ofInt 12, "12.0"⟩]

def VALID_GAINS : List Int := [1, 3, 6, 9, 18]
def VALID_RESOLUTIONS : List Int := [13, 16, 17, 18, 19, 20]
def VALID_MEASUREMENT_RATES : List Int := [25, 50, 100, 200, 500, 1000, 2000]
def DEFAULT_I2C_FREQ_HZ : Int := 400000

def conversionTime (resolution : Int) : Decimal × String :=
  if resolution = 20 then (.ofInt 400, "400")
  else if resolution = 19 then (.ofInt 200, "200")
  else if resolution = 18 then (.ofInt 100, "100")
  else if resolution = 17 then (.ofInt 50, "50")
  else if resolution = 16 then (.ofInt 25, "25")
  else (⟨125, -1⟩, "12.5")

def validateWindowFactor (value : PyValue) : DeviceCheck Unit :=
  let inRange := match finiteNumber? value with
    | some d => (Decimal.ofInt 1).le d && d.le (.ofInt 100)
    | none => false
  rejectIf (!inRange) "window_factor must be a finite number 1.0-100.0"

def validateConfig (config : PyDict) : DeviceCheck Unit := do
  onlyAllowed "ltr390 device config" ALLOWED_CONFIG_KEYS config
  validateI2cKeys "ltr390 device config" DEFAULT_I2C_FREQ_HZ 100000 400000 config
  let _ ← intThat VALID_GAINS.contains "gain must be one of (1, 3, 6, 9, 18)"
    ((config.get? "gain").getD (.int 3))
  let resolution ← intThat VALID_RESOLUTIONS.contains
    "resolution_bits must be one of (13, 16, 17, 18, 19, 20)"
    ((config.get? "resolution_bits").getD (.int 18))
  let rate ← intThat VALID_MEASUREMENT_RATES.contains
    "measurement_rate_ms must be one of (25, 50, 100, 200, 500, 1000, 2000)"
    ((config.get? "measurement_rate_ms").getD (.int 200))
  rejectIf (!(conversionTime resolution).1.le (.ofInt rate))
    (s!"measurement_rate_ms must be at least {(conversionTime resolution).2} "
      ++ s!"(the {resolution}-bit ADC conversion time)")
  validateWindowFactor ((config.get? "window_factor").getD (.float (.finite (.ofInt 1))))
  validateOffsets OFFSETS (config.getD "offsets")

end Ltr390

namespace Ds18b20

def ALLOWED_CONFIG_KEYS : List String := ["pin", "rom", "conversion_ms", "offsets"]
def OFFSETS : List Offset := [⟨"temperature_c", .ofInt 100, "100.0"⟩]
def ROM_LENGTH : Nat := 16
def HEX_CHARS : List Char := "0123456789abcdefABCDEF".toList

/-- The first two characters are digits, so `lower()` leaves them as they are. -/
def validateRom (value : PyValue) : DeviceCheck Unit :=
  let shape := "rom must be a 16-character hexadecimal string (the 64-bit ROM)"
  match value with
  | .str rom => do
    rejectIf (rom.toList.length != ROM_LENGTH) shape
    rejectIf (rom.toList.any (fun c => !HEX_CHARS.contains c)) shape
    rejectIf (rom.toList.take 2 != ['2', '8'])
      s!"rom must start with the DS18B20 family code 28 (got {String.ofList (rom.toList.take 2)}...)"
  | _ => .error (.invalid shape "invalid_value")

def validateConfig (config : PyDict) : DeviceCheck Unit := do
  onlyAllowed "ds18b20 device config" ALLOWED_CONFIG_KEYS config
  let pin ← required "ds18b20 device config" "pin" config
  let _ ← validateUserGpioPin "pin" pin
  let rom ← required "ds18b20 device config" "rom" config
  validateRom rom
  let _ ← intThat (fun n => 750 ≤ n && n ≤ 1000)
    ("conversion_ms must be an integer 750-1000 (750 is the 12-bit maximum conversion time; "
      ++ "the driver does not configure a lower resolution)")
    ((config.get? "conversion_ms").getD (.int 750))
  validateOffsets OFFSETS (config.getD "offsets")

end Ds18b20

namespace Yl69Fc28

def ALLOWED_CONFIG_KEYS : List String :=
  ["adc_pin", "digital_pin", "power_pin", "power_active_low", "settle_ms", "sample_count",
    "sample_delay_ms", "dry_raw", "wet_raw"]

def ADC_CAPABLE_PINS : List Int := [26, 27, 28]

def presentPin (config : PyDict) (key : String) : DeviceCheck (Option Int) :=
  match config.get? key with
  | none => .ok none
  | some value => do
    let pin ← validateUserGpioPin key value
    pure (some pin)

def rejectPinOverlap (firstKey secondKey : String) (first second : Option Int) :
    DeviceCheck Unit :=
  match first, second with
  | some a, some b => rejectIf (a == b)
      (s!"{firstKey} ({a}) and {secondKey} ({b}) must be distinct GPIOs: one GPIO cannot "
        ++ "carry two signals")
  | _, _ => .ok ()

def rawCalibration (key : String) (config : PyDict) : DeviceCheck Int := do
  let value ← required "yl69_fc28 device config" key config
  intThat (fun n => 0 ≤ n && n ≤ 65535)
    s!"{key} must be an integer 0-65535 (the ADC read_u16() range; capture the point with the same API)"
    value

def validateConfig (config : PyDict) : DeviceCheck Unit := do
  onlyAllowed "yl69_fc28 device config" ALLOWED_CONFIG_KEYS config
  let adc ← required "yl69_fc28 device config" "adc_pin" config
  let adc ← intThat ADC_CAPABLE_PINS.contains
    ("adc_pin must be one of 26, 27, 28 (the Pico W / Pico 2 W's ADC-capable GPIOs; every other "
      ++ "GPIO has no ADC input)") adc
  let digital ← presentPin config "digital_pin"
  let power ← presentPin config "power_pin"
  rejectPinOverlap "adc_pin" "digital_pin" (some adc) digital
  rejectPinOverlap "adc_pin" "power_pin" (some adc) power
  rejectPinOverlap "digital_pin" "power_pin" digital power
  match (config.get? "power_active_low").getD (.bool true) with
  | .bool _ => pure ()
  | _ => throw (.invalid "power_active_low must be a boolean" "invalid_value")
  let _ ← intBetween "settle_ms" 0 2000 ((config.get? "settle_ms").getD (.int 200))
  let _ ← intThat (fun n => 1 ≤ n && n ≤ 101 && n % 2 != 0)
    "sample_count must be an odd integer 1-101 (the median is the middle sample)"
    ((config.get? "sample_count").getD (.int 9))
  let _ ← intBetween "sample_delay_ms" 0 50 ((config.get? "sample_delay_ms").getD (.int 2))
  let dry ← rawCalibration "dry_raw" config
  let wet ← rawCalibration "wet_raw" config
  rejectIf (dry == wet)
    ("dry_raw and wet_raw must differ (a zero calibration span cannot map readings to a moisture "
      ++ "scale; recapture the points in more different conditions)")

end Yl69Fc28

structure ValidationModule where
  allowedConfigKeys : List String
  validateConfig : PyDict → DeviceCheck Unit
  defaultFreq : Option Int
  defaultCandidates : List Int

def deviceRegistry : List (String × ValidationModule) :=
  [("bme280", ⟨Bme280.ALLOWED_CONFIG_KEYS, Bme280.validateConfig,
      some Bme280.DEFAULT_I2C_FREQ_HZ, Bme280.DEFAULT_I2C_ADDRESS_CANDIDATES⟩),
    ("ltr390", ⟨Ltr390.ALLOWED_CONFIG_KEYS, Ltr390.validateConfig,
      some Ltr390.DEFAULT_I2C_FREQ_HZ, []⟩),
    ("ds18b20", ⟨Ds18b20.ALLOWED_CONFIG_KEYS, Ds18b20.validateConfig, none, []⟩),
    ("sht35", ⟨Sht35.ALLOWED_CONFIG_KEYS, Sht35.validateConfig,
      some Sht35.DEFAULT_I2C_FREQ_HZ, Sht35.DEFAULT_I2C_ADDRESS_CANDIDATES⟩),
    ("yl69_fc28", ⟨Yl69Fc28.ALLOWED_CONFIG_KEYS, Yl69Fc28.validateConfig, none, []⟩)]

/-- `_DEVICE_REGISTRY.get(device_type)`: only a hashable key can be looked up. -/
def registryEntry (deviceType : PyValue) : Except PyError (Option ValidationModule) :=
  if deviceType.hashable then
    match deviceType with
    | .str name => .ok (deviceRegistry.lookup name)
    | _ => .ok none
  else .error (.typeError s!"unsupported type for __hash__: '{deviceType.typeName}'")

def allowedConfigKeys (deviceType : PyValue) : Except PyError (Option (List String)) := do
  let entry ← registryEntry deviceType
  pure (entry.map ValidationModule.allowedConfigKeys)

def DEVICE_DEFINITION_KEYS : List String := ["id", "device_type", "config", "name"]
def MAX_DEVICE_ID_LENGTH : Nat := 64
def MAX_DEVICE_NAME_LENGTH : Nat := 64

def requiredField (definition : PyDict) (key : String) : DeviceCheck Unit :=
  rejectIf (!definition.has key) s!"device definition missing required key: {key}" "missing_key"

/-- The name is optional: absent or `None`, else a bounded string. -/
def validateName (value : PyValue) : DeviceCheck Unit :=
  match value with
  | .none => .ok ()
  | .str name => rejectIf (decide (MAX_DEVICE_NAME_LENGTH < name.utf8ByteSize))
      s!"device name must be at most {MAX_DEVICE_NAME_LENGTH} bytes"
  | _ => .error (.invalid "device name must be a string" "invalid_value")

def validateDeviceConfig (deviceType : String) (config : PyDict) : DeviceCheck Unit :=
  match deviceRegistry.lookup deviceType with
  | some entry => entry.validateConfig config
  | none => .error (.invalid s!"Unsupported device type: {deviceType}" "unsupported_device_type")

def nonEmptyStr? : PyValue → Option String
  | .str s => if s.toList.isEmpty then none else some s
  | _ => none

def validateDeviceDefinition (definition : PyDict) : DeviceCheck Unit := do
  ["id", "device_type", "config"].forM (requiredField definition)
  let unknown := sortedSet (definition.keys.filter (fun key => !DEVICE_DEFINITION_KEYS.contains key))
  let names := ", ".intercalate unknown
  rejectIf (!unknown.isEmpty)
    s!"device definition contains unknown field(s): {names}"
    "unknown_config_fields"
  match nonEmptyStr? (definition.getD "id") with
  | none => throw (.invalid "device id must be a non-empty string" "invalid_value")
  | some deviceId =>
    rejectIf (decide (MAX_DEVICE_ID_LENGTH < deviceId.utf8ByteSize))
      s!"device id must be at most {MAX_DEVICE_ID_LENGTH} bytes"
  match nonEmptyStr? (definition.getD "device_type") with
  | none => throw (.invalid "device_type must be a non-empty string" "invalid_value")
  | some deviceType => match definition.getD "config" with
    | .dict config => do
      validateName (definition.getD "name")
      validateDeviceConfig deviceType config
    | _ => throw (.invalid "device config must be an object" "invalid_value")

/-- The effective (bus, sda, scl, freq) a device hands to the bus factory, for a validated
definition; an omitted pin stays `None`. -/
def i2cBusIdentity (definition : PyDict) :
    Except PyError (Option (PyValue × PyValue × PyValue × PyValue)) :=
  match definition.getD "config" with
  | .dict config => match PyDict.get? config "i2c_bus" with
    | none => .ok none
    | some bus => do
      match ← registryEntry (definition.getD "device_type") with
      | some ⟨_, _, some freq, _⟩ =>
        pure (some (bus, PyDict.getD config "i2c_sda_pin", PyDict.getD config "i2c_scl_pin",
          (PyDict.get? config "i2c_freq_hz").getD (.int freq)))
      | _ => throw (PyError.attributeError "DEFAULT_I2C_FREQ_HZ")
  | _ => .ok none

end PicoDualCore
