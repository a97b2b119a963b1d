import PicoDualCore.Drivers
set_option autoImplicit false

/-!
The `read` of the five device drivers: the bus operations and the sleeps of one sample, up to the
raw counts of its channels. What becomes of the counts in floating point is one step.
-/

namespace PicoDualCore
open AtomicProgram

/-- Conversions, offsets and the check of the telemetry, in floating point: no bus operation and
no sleep, and what it raises is no `OSError`. -/
def computed : BusProg Unit :=
  Proc.atomic (fun bus i => match i.outcome with
    | .done => (.ok (), bus)
    | .fail message => (.error (.python (.typeError message)), bus)
    | .memory => (.error .memoryError, bus))

namespace Bme280

def REG_DATA : Nat := 0xF7
def MODE_FORCED : Nat := 1
def OVERSAMPLING_MULTIPLIER : List Nat := [0, 1, 2, 4, 8, 16]

-- in microseconds
def MEASURE_BASE_US : Nat := 1250
def MEASURE_PER_SAMPLE_US : Nat := 2300
def MEASURE_PH_OVERHEAD_US : Nat := 575

def channelUs (code overheadUs : Nat) : Nat :=
  if code = 0 then 0
  else MEASURE_PER_SAMPLE_US * OVERSAMPLING_MULTIPLIER.getD code 0 + overheadUs

def measurementTimeMs (osrsT osrsP osrsH : Nat) : Nat :=
  (MEASURE_BASE_US + channelUs osrsT 0 + channelUs osrsP MEASURE_PH_OVERHEAD_US +
    channelUs osrsH MEASURE_PH_OVERHEAD_US + 999) / 1000 + 1

def settingsOf (config : PyDict) : Settings where
  osrsT := (config.get? "temperature_oversampling").getD (.int 1)
  osrsP := (config.get? "pressure_oversampling").getD (.int 1)
  osrsH := (config.get? "humidity_oversampling").getD (.int 1)
  filterCode := (config.get? "iir_filter").getD (.int 0)

/-- Temperature, pressure and humidity as converted. -/
def rawChannels (d : Bytes) : List Nat :=
  let byte (i : Nat) : Nat := (d.getD i 0).toNat
  [byte 3 <<< 12 ||| byte 4 <<< 4 ||| byte 5 >>> 4,
    byte 0 <<< 12 ||| byte 1 <<< 4 ||| byte 2 >>> 4, byte 6 <<< 8 ||| byte 7]

def read (address : Int) (settings : Settings) : BusProg (List Nat) := do
  let osrsT ← python settings.osrsT.asInt
  let osrsP ← python settings.osrsP.asInt
  writeU8 address REG_CTRL_MEAS
    (maskedByte (osrsT.toNat <<< 5 ||| osrsP.toNat <<< 2 ||| MODE_FORCED) 0xFF)
  let osrsH ← python settings.osrsH.asInt
  sleepMs (measurementTimeMs osrsT.toNat osrsP.toNat osrsH.toNat)
  let d ← describing (fun err => s!"BME280 data read failed: {err}")
    (readfromMemInto address REG_DATA 8)
  pure (rawChannels d)

end Bme280

namespace Sht35

def word (d : Bytes) (offset : Nat) : Nat :=
  (d.getD offset 0).toNat <<< 8 ||| (d.getD (offset + 1) 0).toNat

def read (sensor : Sensor) : BusProg (List Nat) := do
  writeCommand sensor.address sensor.command
  sleepMs sensor.waitMs
  let measurement ← readInto sensor.address 6
  verifyWordCrc measurement 0
  verifyWordCrc measurement 3
  pure [word measurement 0, word measurement 3]

end Sht35

namespace Ltr390

def REG_MAIN_STATUS : Nat := 0x07
def CTRL_ALS_ACTIVE : UInt8 := 0x02
def CTRL_UVS_ACTIVE : UInt8 := 0x0A
def STATUS_DATA_READY : UInt8 := 0x08
def WAKE_ALLOWANCE_MS : Nat := 10
def READY_GUARD_MS : Nat := 50
def READY_POLL_MS : Nat := 5

def CONVERSION_TIME : List Nat := [4000, 2000, 1000, 500, 250, 125]

def dataReadyTimeoutMs (resolutionCode : Nat) : Nat :=
  (10 * WAKE_ALLOWANCE_MS + CONVERSION_TIME.getD resolutionCode 0 + 10 * READY_GUARD_MS) / 10

/-- Every pass that goes on sleeps five milliseconds, so the passes within the timeout are
bounded. -/
def waitForDataReadyFrom (timeoutMs start : Nat) : Nat → BusProg Unit
  | 0 => .stop
  | passes + 1 => do
    let status ← readU8 REG_MAIN_STATUS
    if status &&& STATUS_DATA_READY ≠ 0 then pure ()
    else do
      let now ← ticksMs
      if timeoutMs ≤ now - start then throw (.osError "LTR390 data-ready timeout")
      else do
        sleepMs READY_POLL_MS
        waitForDataReadyFrom timeoutMs start passes

def waitForDataReady (timeoutMs : Nat) : BusProg Unit := do
  let start ← ticksMs
  waitForDataReadyFrom timeoutMs start (timeoutMs / READY_POLL_MS + 2)

def readChannel (timeoutMs : Nat) (mainCtrl : UInt8) (dataRegister : Nat) : BusProg Nat := do
  writeU8 REG_MAIN_CTRL mainCtrl
  waitForDataReady timeoutMs
  readRaw20 dataRegister

def read (sensor : Sensor) : BusProg (List Nat) := do
  let timeoutMs := dataReadyTimeoutMs sensor.resolutionCode
  let alsRaw ← readChannel timeoutMs CTRL_ALS_ACTIVE REG_ALS_DATA
  let uvRaw ← readChannel timeoutMs CTRL_UVS_ACTIVE REG_UVS_DATA
  writeU8 REG_MAIN_CTRL CTRL_STANDBY_ALS
  pure [alsRaw, uvRaw]

end Ltr390

namespace Ds18b20

-- in sixteenths of a degree
def MIN_TEMPERATURE : Int := -55 * 16
def MAX_TEMPERATURE : Int := 125 * 16

/-- What `read_temp` answers: `None`, or a signed number of sixteenths of a degree. -/
def answeredTemperature (i : BusInput) : Option Int :=
  if i.byte 0 = 0 then none
  else
    let raw := (i.byte 1).toNat + 256 * (i.byte 2).toNat
    some (if raw < 0x8000 then (raw : Int) else (raw : Int) - 0x10000)

def convertTemp : BusProg Unit :=
  normalizing (fun err => s!"DS18B20 convert failed: {err}")
    (transfer (fun _ => .convertTemp) (fun _ => ()))

def readTemp (sensor : Sensor) : BusProg (Option Int) :=
  let label := sensor.romLabel
  normalizing (fun err => s!"DS18B20 ROM {label} read failed: {err}")
    (transfer (fun i => .readTemp sensor.matchedRom (answeredTemperature i)) answeredTemperature)

def waitConversion (sensor : Sensor) : BusProg Unit := do
  let ms ← python sensor.conversionMs.asInt
  sleepMs ms.toNat

def read (sensor : Sensor) : BusProg Int := do
  convertTemp
  waitConversion sensor
  let label := sensor.romLabel
  match ← readTemp sensor with
  | none => throw (.osError s!"DS18B20 ROM {label} returned no temperature")
  | some value =>
    if MIN_TEMPERATURE ≤ value ∧ value ≤ MAX_TEMPERATURE then pure value
    else throw (.osError s!"DS18B20 ROM {label} returned out-of-range temperature {value}/16")

end Ds18b20

namespace Yl69Fc28

/-- `read_u16` of the analog input. -/
def rawCount (i : BusInput) : Nat := (i.byte 0).toNat + 256 * (i.byte 1).toNat

def readSample : BusProg Nat :=
  normalizing (fun err => s!"YL-69/FC-28 ADC read failed: {err}")
    (transfer (fun i => .adcRead (rawCount i)) rawCount)

def readSamples (sampleDelayMs : Nat) : Nat → BusProg (List Nat)
  | 0 => pure []
  | left + 1 => do
    let sample ← readSample
    if sampleDelayMs ≠ 0 then sleepMs sampleDelayMs
    let rest ← readSamples sampleDelayMs left
    pure (sample :: rest)

/-- The first conversion is discarded; the median of the samples after it. -/
def readFilteredRaw (device : Device) : BusProg Nat := do
  let _ ← readSample
  let sampleDelayMs ← python device.sampleDelayMs.asInt
  let samples ← readSamples sampleDelayMs.toNat device.samples.length
  let ordered := samples.mergeSort
  pure (ordered.getD (ordered.length / 2) 0)

def readDigital (digital : Option Int) : BusProg (Option Nat) :=
  match digital with
  | none => pure none
  | some pin => normalizing (fun err => s!"YL-69/FC-28 DO read failed: {err}")
      (transfer (fun i => .pinRead pin ((i.byte 0).toNat % 2))
        (fun i => some ((i.byte 0).toNat % 2)))

def settle (device : Device) : BusProg Unit := do
  let settleMs ← python device.settleMs.asInt
  if device.power.isSome ∧ settleMs ≠ 0 then sleepMs settleMs.toNat

def read (device : Device) : BusProg (Nat × Option Nat) := do
  setPower device.power device.activeLow true
  (do
    settle device
    let raw ← readFilteredRaw device
    let digital ← readDigital device.digital
    pure (raw, digital)).finish (setPower device.power device.activeLow false)

end Yl69Fc28

/-- A driver whose `initialize` has gone through. -/
inductive Driver where
  | bme280 (settings : Bme280.Settings) (device : Bme280.Device)
  | sht35 (device : Sht35.Device)
  | ltr390 (device : Ltr390.Device)
  | ds18b20 (device : Ds18b20.Device)
  | yl69_fc28 (device : Yl69Fc28.Device)

/-- `driver.initialize(config)`, with what the driver then holds. -/
def Driver.initialized (deviceType : String) (config : PyDict) : BusProg Driver :=
  if deviceType = "bme280" then do
    let device ← Bme280.initializeDevice config
    pure (.bme280 (Bme280.settingsOf config) device)
  else if deviceType = "ltr390" then do
    let device ← Ltr390.initializeDevice config
    pure (.ltr390 device)
  else if deviceType = "ds18b20" then do
    let device ← Ds18b20.initializeDevice config
    pure (.ds18b20 device)
  else if deviceType = "sht35" then do
    let device ← Sht35.initializeDevice config
    pure (.sht35 device)
  else if deviceType = "yl69_fc28" then do
    let device ← Yl69Fc28.initializeDevice config
    pure (.yl69_fc28 device)
  else throw (.valueError s!"Unsupported device type: {deviceType}")

/-- `driver.read()`, with the checks of the manager on the telemetry. -/
def Driver.read (driver : Driver) : BusProg Unit := do
  match driver with
  | .bme280 settings device => do
    let _ ← Bme280.read device.sensor.address settings
    computed
  | .sht35 device => do
    let _ ← Sht35.read device.sensor
    computed
  | .ltr390 device => do
    let _ ← Ltr390.read device.sensor
    computed
  | .ds18b20 device => do
    let _ ← Ds18b20.read device.sensor
    computed
  | .yl69_fc28 device => do
    let _ ← Yl69Fc28.read device
    computed

end PicoDualCore
