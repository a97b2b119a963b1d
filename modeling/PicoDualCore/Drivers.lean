import PicoDualCore.Network
set_option autoImplicit false

/-!
The `initialize` of the five device drivers and what their `read` shares with it, over a bus that
answers as it likes: a transfer goes through with any bytes of the requested length, or raises
`OSError`, or there is no memory for it.
-/

namespace PicoDualCore
open AtomicProgram

inductive Transfer where
  | done
  | fail (message : String)
  | memory
  deriving DecidableEq, Repr

/-- What the bus does on one step: the outcome of a transfer, the bytes it brings, the 1-Wire
ROMs that answer a scan, and the time that passes. -/
structure BusInput where
  outcome : Transfer
  byte : Nat → UInt8
  roms : List Bytes
  lateMs : Nat

inductive Transaction where
  | readMem (address : Int) (register : Nat) (bytes : Bytes)
  | writeMem (address : Int) (register : Nat) (bytes : Bytes)
  | read (address : Int) (bytes : Bytes)
  | write (address : Int) (bytes : Bytes)
  | scan (roms : List Bytes)
  | pinMade (pin : Int) (value : Option Nat)
  | pinSet (pin : Int) (value : Nat)
  | pinRead (pin : Int) (value : Nat)
  | adcRead (raw : Nat)
  | convertTemp
  | readTemp (rom : Bytes) (sixteenths : Option Int)
  | busMade (arguments : List PyValue)
  deriving Repr

/-- The millisecond clock and what has gone over the bus. -/
structure Bus where
  clockMs : Nat := 0
  log : List Transaction := []
  deriving Repr

abbrev BusProg (α : Type) := Proc Bus BusInput Exc α

def Exc.operational : Exc → Bool
  | .osError _ | .memoryError => true
  | _ => false

def transfer {α : Type} (transaction : BusInput → Transaction) (answer : BusInput → α) :
    BusProg α :=
  Proc.atomic (fun bus i =>
    let bus := { bus with clockMs := bus.clockMs + i.lateMs }
    match i.outcome with
    | .done => (.ok (answer i), { bus with log := bus.log ++ [transaction i] })
    | .fail message => (.error (.osError message), bus)
    | .memory => (.error .memoryError, bus))

def BusInput.bytes (size : Nat) (i : BusInput) : Bytes := (List.range size).map i.byte

def readfromMemInto (address : Int) (register size : Nat) : BusProg Bytes :=
  transfer (fun i => .readMem address register (i.bytes size)) (BusInput.bytes size)

def writetoMem (address : Int) (register : Nat) (bytes : Bytes) : BusProg Unit :=
  transfer (fun _ => .writeMem address register bytes) (fun _ => ())

def readfromInto (address : Int) (size : Nat) : BusProg Bytes :=
  transfer (fun i => .read address (i.bytes size)) (BusInput.bytes size)

def writeto (address : Int) (bytes : Bytes) : BusProg Unit :=
  transfer (fun _ => .write address bytes) (fun _ => ())

def ticksMs : BusProg Nat :=
  Proc.atomic (fun bus i =>
    (.ok (bus.clockMs + i.lateMs), { bus with clockMs := bus.clockMs + i.lateMs }))

def sleepMs (ms : Nat) : BusProg Unit :=
  Proc.atomic (fun bus i => (.ok (), { bus with clockMs := bus.clockMs + ms + i.lateMs }))

/-- `except OSError as err: raise OSError(...)`, after `except MemoryError: raise`. -/
def describing {α : Type} (describe : String → String) (p : BusProg α) : BusProg α :=
  p.handle (fun e => match e with
    | .osError message => .raise (.osError (describe message))
    | e => .raise e)

/-- `str(err)`. -/
def PyError.text : PyError → String
  | .typeError message | .valueError message | .attributeError message | .overflowError message =>
    message
  | .keyError key => key

def Exc.text : Exc → String
  | .memoryError => ""
  | .osError message | .mqttException message | .messageTooLarge message | .valueError message =>
    message
  | .config e => e.message
  | .python e => e.text

/-- The same for `except Exception`. -/
def normalizing {α : Type} (describe : String → String) (p : BusProg α) : BusProg α :=
  p.handle (fun e => match e with
    | .memoryError => .raise .memoryError
    | e => .raise (.osError (describe e.text)))

/-- `"{:0nX}"`. -/
def hexText (width n : Nat) : String :=
  let digits := (Nat.toDigits 16 n).map Char.toUpper
  String.ofList (List.replicate (width - digits.length) '0' ++ digits)

def python {α : Type} (r : Except PyError α) : BusProg α := Proc.ofExcept (r.mapError .python)

/-- `tuple(value)`. -/
def PyValue.iterate (v : PyValue) : Except PyError (List PyValue) :=
  match v with
  | .list items | .tuple items => .ok items
  | .str s => .ok (s.toList.map (fun c => .str (String.singleton c)))
  | .dict items => .ok (items.map (fun item => .str item.1.text))
  | v =>
    let name := v.typeName
    .error (.typeError s!"'{name}' object is not iterable")

/-- `value.get(key, default)`. -/
def PyValue.getAttribute (v : PyValue) (key : String) (default : PyValue) :
    Except PyError PyValue :=
  match v with
  | .dict items => .ok ((PyDict.get? items key).getD default)
  | v =>
    let name := v.typeName
    .error (.attributeError s!"'{name}' object has no attribute 'get'")

/-- `config[key]`. -/
def PyDict.subscript (config : PyDict) (key : String) : Except PyError PyValue :=
  match config.get? key with
  | some v => .ok v
  | none => .error (.keyError key)

def PyValue.asInt (v : PyValue) : Except PyError Int :=
  match v with
  | .int n => .ok n
  | .bool b => .ok (if b then 1 else 0)
  | v =>
    let name := v.typeName
    .error (.typeError s!"can't convert {name} to int")

/-- `table[value]` of a constant dict. -/
def PyValue.tableItem {α : Type} (v : PyValue) (table : List (PyValue × α)) : Except PyError α :=
  if !v.hashable then
    let name := v.typeName
    .error (.typeError s!"unsupported type for __hash__: '{name}'")
  else match table.find? (fun entry => entry.1.pyEq v) with
    | .some entry => .ok entry.2
    | .none =>
      let shown := v.repr
      .error (.keyError shown)

def PyValue.truthy : PyValue → Bool
  | .none => false
  | .bool b => b
  | .int n => n != 0
  | .float (.finite d) => d.mantissa != 0
  | .float _ => true
  | .str s => !s.toList.isEmpty
  | .list items | .tuple items => !items.isEmpty
  | .dict items => !items.isEmpty
  | .other _ => true

/-- `validate_config(config)`, whose refusal is a `ValueError`. -/
def checked (r : DeviceCheck Unit) : BusProg Unit :=
  Proc.ofExcept (r.mapError (fun e => match e with
    | .invalid message _ => .valueError message
    | .python e => .python e))

def maskedByte (value mask : Nat) : UInt8 := UInt8.ofNat (value &&& mask)

namespace Bme280

def REG_CALIB_0 : Nat := 0x88
def REG_CHIP_ID : Nat := 0xD0
def REG_RESET : Nat := 0xE0
def REG_CALIB_26 : Nat := 0xE1
def REG_CTRL_HUM : Nat := 0xF2
def REG_STATUS : Nat := 0xF3
def REG_CTRL_MEAS : Nat := 0xF4
def REG_CONFIG : Nat := 0xF5
def CHIP_ID : UInt8 := 0x60
def RESET_COMMAND : UInt8 := 0xB6
def STATUS_IM_UPDATE : UInt8 := 0x01
def MODE_SLEEP : Nat := 0
def NVM_WAIT_TIMEOUT_MS : Nat := 100

def readU8 (address : Int) (register : Nat) : BusProg UInt8 := do
  let shown := hexText 2 register
  let bytes ← describing (fun err => s!"BME280 read failed at register 0x{shown}: {err}")
    (readfromMemInto address register 1)
  pure (bytes.getD 0 0)

def writeU8 (address : Int) (register : Nat) (value : UInt8) : BusProg Unit :=
  let shown := hexText 2 register
  describing (fun err => s!"BME280 write failed at register 0x{shown}: {err}")
    (writetoMem address register [value])

def detectFrom (candidates : List PyValue) (lastError : String) : List PyValue → BusProg Int
  | [] =>
    let shown := (PyValue.list candidates).repr
    throw (.osError s!"BME280 not found at candidates {shown}: {lastError}")
  | candidate :: rest => do
    let address ← python candidate.asInt
    let answer ← (do
      let chipId ← readU8 address REG_CHIP_ID
      pure (Except.ok chipId)).handle (fun e => match e with
        | .osError message => pure (Except.error message)
        | e => .raise e)
    match answer with
    | .error message => detectFrom candidates message rest
    | .ok chipId =>
      if chipId = CHIP_ID then pure address
      else
        let shown := hexText 2 chipId.toNat
        detectFrom candidates s!"unexpected chip ID 0x{shown} at address {address}" rest

def detect (candidates : List PyValue) : BusProg Int := detectFrom candidates "None" candidates

def reset (address : Int) : BusProg Unit := do
  writeU8 address REG_RESET RESET_COMMAND
  sleepMs 2

/-- Every pass that goes on sleeps two milliseconds, so the passes within the timeout are
bounded. -/
def waitForNvmFrom (address : Int) (start : Nat) : Nat → BusProg Unit
  | 0 => .stop
  | passes + 1 => do
    let status ← readU8 address REG_STATUS
    if status &&& STATUS_IM_UPDATE = 0 then pure ()
    else do
      let now ← ticksMs
      if NVM_WAIT_TIMEOUT_MS ≤ now - start then throw (.osError "BME280 NVM copy timeout")
      else do
        sleepMs 2
        waitForNvmFrom address start passes

def waitForNvm (address : Int) : BusProg Unit := do
  let start ← ticksMs
  waitForNvmFrom address start (NVM_WAIT_TIMEOUT_MS / 2 + 1)

def u16Le (data : Bytes) (offset : Nat) : Int :=
  ((data.getD offset 0).toNat ||| (data.getD (offset + 1) 0).toNat <<< 8 : Nat)

def s16Le (data : Bytes) (offset : Nat) : Int :=
  if u16Le data offset < 0x8000 then u16Le data offset else u16Le data offset - 0x10000

def s8 (value : Nat) : Int := if value < 0x80 then value else value - 0x100

def s12 (value : Nat) : Int := if value < 0x800 then value else value - 0x1000

structure Calibration where
  t : List Int
  p : List Int
  h : List Int
  deriving DecidableEq, Repr

def Calibration.digP1 (c : Calibration) : Int := c.p.getD 0 0

/-- The coefficients from the two calibration blocks. -/
def decodeCalibration (b1 b2 : Bytes) : Calibration :=
  let e4 := (b2.getD 3 0).toNat
  let e5 := (b2.getD 4 0).toNat
  let e6 := (b2.getD 5 0).toNat
  { t := [u16Le b1 0, s16Le b1 2, s16Le b1 4]
    p := [u16Le b1 6, s16Le b1 8, s16Le b1 10, s16Le b1 12, s16Le b1 14, s16Le b1 16, s16Le b1 18,
      s16Le b1 20, s16Le b1 22]
    h := [(b1.getD 25 0).toNat, s16Le b2 0, (b2.getD 2 0).toNat, s12 (e4 <<< 4 ||| e5 &&& 0x0F),
      s12 (e6 <<< 4 ||| e5 >>> 4), s8 (b2.getD 6 0).toNat] }

def readCalibration (address : Int) : BusProg Calibration :=
  describing (fun err => s!"BME280 calibration read failed: {err}") (do
    let b1 ← readfromMemInto address REG_CALIB_0 26
    let b2 ← readfromMemInto address REG_CALIB_26 7
    pure (decodeCalibration b1 b2))

def validateCalibration (calibration : Calibration) : BusProg Unit :=
  if calibration.digP1 = 0 then throw (.osError "Invalid BME280 calibration: dig_P1 is zero")
  else pure ()

structure Settings where
  osrsT : PyValue
  osrsP : PyValue
  osrsH : PyValue
  filterCode : PyValue

def configure (address : Int) (settings : Settings) (mode : Nat) : BusProg Unit := do
  let osrsH ← python settings.osrsH.asInt
  writeU8 address REG_CTRL_HUM (maskedByte osrsH.toNat 0x07)
  let filterCode ← python settings.filterCode.asInt
  writeU8 address REG_CONFIG (maskedByte (filterCode.toNat <<< 2) 0x3C)
  let osrsT ← python settings.osrsT.asInt
  let osrsP ← python settings.osrsP.asInt
  writeU8 address REG_CTRL_MEAS (maskedByte (osrsT.toNat <<< 5 ||| osrsP.toNat <<< 2 ||| mode) 0xFF)

structure Sensor where
  address : Int
  calibration : Calibration

def init (candidates : List PyValue) (settings : Settings) : BusProg Sensor := do
  let address ← detect candidates
  reset address
  waitForNvm address
  let calibration ← readCalibration address
  validateCalibration calibration
  configure address settings MODE_SLEEP
  pure ⟨address, calibration⟩

structure Device where
  offsetT : PyValue
  offsetP : PyValue
  offsetH : PyValue
  seaLevelPa : PyValue
  sensor : Sensor

def initializeDevice (config : PyDict) : BusProg Device := do
  checked (validateConfig config)
  let candidates ← python ((config.get? "i2c_address_candidates").getD
    (.tuple (DEFAULT_I2C_ADDRESS_CANDIDATES.map .int))).iterate
  let offsets := (config.get? "offsets").getD (.dict [])
  let offsetT ← python (offsets.getAttribute "temperature_c" (.int 0))
  let offsetP ← python (offsets.getAttribute "pressure_pascal" (.int 0))
  let offsetH ← python (offsets.getAttribute "humidity_percent" (.int 0))
  let seaLevelPa ← python (config.subscript "sea_level_pressure_pa")
  let sensor ← init candidates {
    osrsT := (config.get? "temperature_oversampling").getD (.int 1)
    osrsP := (config.get? "pressure_oversampling").getD (.int 1)
    osrsH := (config.get? "humidity_oversampling").getD (.int 1)
    filterCode := (config.get? "iir_filter").getD (.int 0) }
  pure ⟨offsetT, offsetP, offsetH, seaLevelPa, sensor⟩

end Bme280

namespace Sht35

def CMD_MEASURE_HIGH : Nat := 0x2400
def CMD_MEASURE_MEDIUM : Nat := 0x240B
def CMD_MEASURE_LOW : Nat := 0x2416
def CMD_BREAK : Nat := 0x3093
def CMD_HEATER_OFF : Nat := 0x3066
def CMD_SERIAL_NUMBER : Nat := 0x3682
def SERIAL_WAIT_MS : Nat := 1
def BREAK_WAIT_MS : Nat := 1
def CRC_POLYNOMIAL : Nat := 0x31
def CRC_INITIAL : Nat := 0xFF

def SINGLE_SHOT : List (PyValue × (Nat × Nat)) :=
  [(.str "high", (CMD_MEASURE_HIGH, 16)), (.str "medium", (CMD_MEASURE_MEDIUM, 7)),
    (.str "low", (CMD_MEASURE_LOW, 5))]

def crcBits : Nat → Nat → Nat
  | 0, crc => crc
  | bits + 1, crc => crcBits bits
      (if crc &&& 0x80 != 0 then (crc <<< 1 ^^^ CRC_POLYNOMIAL) &&& 0xFF else crc <<< 1 &&& 0xFF)

def crc8 (data : Bytes) : Nat :=
  data.foldl (fun crc byte => crcBits 8 (crc ^^^ byte.toNat)) CRC_INITIAL

-- the published validation vector
example : crc8 [0xBE, 0xEF] = 0x92 := by decide

def verifyWordCrc (data : Bytes) (offset : Nat) : BusProg Unit :=
  let expected := (data.getD (offset + 2) 0).toNat
  let calculated := crc8 ((data.drop offset).take 2)
  let position := offset + 2
  let expectedText := hexText 2 expected
  let calculatedText := hexText 2 calculated
  if calculated = expected then pure ()
  else throw (.osError (s!"SHT35 CRC mismatch at byte {position}: expected 0x{expectedText}, "
    ++ s!"calculated 0x{calculatedText}"))

def writeCommand (address : Int) (command : Nat) : BusProg Unit :=
  let shown := hexText 4 command
  describing (fun err => s!"SHT35 command 0x{shown} failed: {err}")
    (writeto address [maskedByte (command >>> 8) 0xFF, maskedByte command 0xFF])

def readInto (address : Int) (size : Nat) : BusProg Bytes :=
  describing (fun err => s!"SHT35 read failed: {err}") (readfromInto address size)

def serialNumber (address : Int) : BusProg Nat := do
  writeCommand address CMD_SERIAL_NUMBER
  sleepMs SERIAL_WAIT_MS
  let measurement ← readInto address 6
  verifyWordCrc measurement 0
  verifyWordCrc measurement 3
  pure ((measurement.getD 0 0).toNat <<< 24 ||| (measurement.getD 1 0).toNat <<< 16 |||
    (measurement.getD 3 0).toNat <<< 8 ||| (measurement.getD 4 0).toNat)

def probe (address : Int) : BusProg Nat := do
  writeCommand address CMD_BREAK
  sleepMs BREAK_WAIT_MS
  serialNumber address

def detectFrom (candidates : List PyValue) (lastError : String) :
    List PyValue → BusProg (Int × Nat)
  | [] =>
    let shown := (PyValue.list candidates).repr
    throw (.osError s!"SHT35 not found at candidates {shown}: {lastError}")
  | candidate :: rest => do
    let address ← python candidate.asInt
    let answer ← (do
      let serial ← probe address
      pure (Except.ok serial)).handle (fun e => match e with
        | .osError message => pure (Except.error message)
        | e => .raise e)
    match answer with
    | .error message => detectFrom candidates message rest
    | .ok serial => pure (address, serial)

def detect (candidates : List PyValue) : BusProg (Int × Nat) :=
  detectFrom candidates "None" candidates

structure Sensor where
  command : Nat
  waitMs : Nat
  address : Int
  serial : Nat

def init (candidates : List PyValue) (singleShot : Nat × Nat) : BusProg Sensor := do
  let found ← detect candidates
  writeCommand found.1 CMD_HEATER_OFF
  pure ⟨singleShot.1, singleShot.2, found.1, found.2⟩

structure Device where
  offsetT : PyValue
  offsetH : PyValue
  sensor : Sensor

def initializeDevice (config : PyDict) : BusProg Device := do
  checked (validateConfig config)
  let candidates ← python ((config.get? "i2c_address_candidates").getD
    (.tuple (DEFAULT_I2C_ADDRESS_CANDIDATES.map .int))).iterate
  let offsets := (config.get? "offsets").getD (.dict [])
  let offsetT ← python (offsets.getAttribute "temperature_c" (.int 0))
  let offsetH ← python (offsets.getAttribute "humidity_percent" (.int 0))
  let singleShot ← python (((config.get? "repeatability").getD (.str "high")).tableItem SINGLE_SHOT)
  let sensor ← init candidates singleShot
  pure ⟨offsetT, offsetH, sensor⟩

end Sht35

namespace Ltr390

def ADDRESS : Int := 0x53
def REG_MAIN_CTRL : Nat := 0x00
def REG_MEAS_RATE : Nat := 0x04
def REG_GAIN : Nat := 0x05
def REG_PART_ID : Nat := 0x06
def REG_ALS_DATA : Nat := 0x0D
def REG_UVS_DATA : Nat := 0x10
def REG_INT_CFG : Nat := 0x19
def PART_ID_NIBBLE : Nat := 0x0B
def CTRL_STANDBY_ALS : UInt8 := 0x00
def CTRL_STANDBY_UVS : UInt8 := 0x08

def GAIN_CODES : List (PyValue × Nat) :=
  [(.int 1, 0), (.int 3, 1), (.int 6, 2), (.int 9, 3), (.int 18, 4)]

def RESOLUTION_CODES : List (PyValue × Nat) :=
  [(.int 20, 0), (.int 19, 1), (.int 18, 2), (.int 17, 3), (.int 16, 4), (.int 13, 5)]

def RATE_CODES : List (PyValue × Nat) :=
  [(.int 25, 0), (.int 50, 1), (.int 100, 2), (.int 200, 3), (.int 500, 4), (.int 1000, 5),
    (.int 2000, 6)]

def readU8 (register : Nat) : BusProg UInt8 := do
  let shown := hexText 2 register
  let bytes ← describing (fun err => s!"LTR390 read failed at register 0x{shown}: {err}")
    (readfromMemInto ADDRESS register 1)
  pure (bytes.getD 0 0)

def writeU8 (register : Nat) (value : UInt8) : BusProg Unit :=
  let shown := hexText 2 register
  describing (fun err => s!"LTR390 write failed at register 0x{shown}: {err}")
    (writetoMem ADDRESS register [value])

def decodeRaw20 (data : Bytes) : Nat :=
  (data.getD 0 0).toNat ||| (data.getD 1 0).toNat <<< 8 ||| ((data.getD 2 0).toNat &&& 0x0F) <<< 16

def readRaw20 (register : Nat) : BusProg Nat := do
  let shown := hexText 2 register
  let data ← describing (fun err => s!"LTR390 data read failed at register 0x{shown}: {err}")
    (readfromMemInto ADDRESS register 3)
  pure (decodeRaw20 data)

def detect : BusProg UInt8 := do
  let partId ← readU8 REG_PART_ID
  if partId.toNat >>> 4 = PART_ID_NIBBLE then pure partId
  else
    let shown := hexText 2 partId.toNat
    throw (.osError s!"Unexpected LTR390 part ID: 0x{shown}")

def clearDataReady : BusProg Unit := do
  writeU8 REG_MAIN_CTRL CTRL_STANDBY_ALS
  let _ ← readRaw20 REG_ALS_DATA
  writeU8 REG_MAIN_CTRL CTRL_STANDBY_UVS
  let _ ← readRaw20 REG_UVS_DATA
  pure ()

/-- `value < 1.0`. -/
def belowOne (v : PyValue) : Except PyError Bool :=
  match v with
  | .float .negInf => .ok true
  | .float .posInf | .float .nan => .ok false
  | v => match v.number? with
    | some d => .ok (!(Decimal.ofInt 1).le d)
    | none =>
      let name := v.typeName
      .error (.typeError s!"unsupported types for __lt__: '{name}', 'float'")

structure Sensor where
  gainCode : Nat
  resolutionCode : Nat
  rateCode : Nat
  windowFactor : PyValue
  partId : UInt8

def init (gainCode resolutionCode rateCode : Nat) (windowFactor : PyValue) : BusProg Sensor := do
  let partId ← detect
  clearDataReady
  writeU8 REG_MAIN_CTRL CTRL_STANDBY_ALS
  writeU8 REG_MEAS_RATE (UInt8.ofNat (resolutionCode <<< 4 ||| rateCode))
  writeU8 REG_GAIN (UInt8.ofNat gainCode)
  writeU8 REG_INT_CFG 0x00
  pure ⟨gainCode, resolutionCode, rateCode, windowFactor, partId⟩

structure Device where
  offsetLux : PyValue
  offsetUvIndex : PyValue
  sensor : Sensor

def initializeDevice (config : PyDict) : BusProg Device := do
  checked (validateConfig config)
  let offsets := (config.get? "offsets").getD (.dict [])
  let offsetLux ← python (offsets.getAttribute "lux" (.int 0))
  let offsetUvIndex ← python (offsets.getAttribute "uv_index" (.int 0))
  let windowFactor := (config.get? "window_factor").getD (.float (.finite (.ofInt 1)))
  let below ← python (belowOne windowFactor)
  if below then throw (.valueError "window_factor must be >= 1.0")
  let gainCode ← python (((config.get? "gain").getD (.int 3)).tableItem GAIN_CODES)
  let resolutionCode ←
    python (((config.get? "resolution_bits").getD (.int 18)).tableItem RESOLUTION_CODES)
  let rateCode ← python (((config.get? "measurement_rate_ms").getD (.int 200)).tableItem RATE_CODES)
  let sensor ← init gainCode resolutionCode rateCode windowFactor
  pure ⟨offsetLux, offsetUvIndex, sensor⟩

end Ltr390

namespace Ds18b20

/-- `bytes.fromhex(text)`. -/
def fromHex : List Char → Except PyError Bytes
  | [] => .ok []
  | [_] => .error (.valueError "odd-length string")
  | high :: low :: rest =>
    match Json.hexValue high, Json.hexValue low with
    | some h, some l => do
      let bytes ← fromHex rest
      pure (UInt8.ofNat (16 * h + l) :: bytes)
    | _, _ => .error (.valueError "non-hex digit found")

/-- `value.lower()`. -/
def lowered (v : PyValue) : Except PyError String :=
  match v with
  | .str s => .ok (String.ofList (s.toList.map Char.toLower))
  | v =>
    let name := v.typeName
    .error (.attributeError s!"'{name}' object has no attribute 'lower'")

def scan : BusProg (List Bytes) :=
  describing (fun err => s!"DS18B20 bus scan failed: {err}")
    (transfer (fun i => .scan i.roms) BusInput.roms)

structure Sensor where
  rom : Bytes
  romLabel : String
  conversionMs : PyValue
  matchedRom : Bytes

def init (rom : Bytes) (romLabel : String) (conversionMs : PyValue) : BusProg Sensor := do
  let roms ← scan
  match roms.find? (fun found => found == rom) with
  | some found => pure ⟨rom, romLabel, conversionMs, found⟩
  | none =>
    let count := roms.length
    throw (.osError s!"DS18B20 ROM {romLabel} not found on bus ({count} device(s) present)")

structure Device where
  offsetTemperatureC : PyValue
  sensor : Sensor

def initializeDevice (config : PyDict) : BusProg Device := do
  checked (validateConfig config)
  let offsets := (config.get? "offsets").getD (.dict [])
  let offset ← python (offsets.getAttribute "temperature_c" (.int 0))
  let rom ← python (config.subscript "rom")
  let romHex ← python (lowered rom)
  let bytes ← python (fromHex romHex.toList)
  let sensor ← init bytes romHex ((config.get? "conversion_ms").getD (.int 750))
  pure ⟨offset, sensor⟩

end Ds18b20

namespace Yl69Fc28

/-- `machine.Pin` takes a GPIO number; the value is that of an output. -/
def makePin (v : PyValue) (value : Option Nat) : BusProg Int :=
  match v with
  | .int pin => transfer (fun _ => .pinMade pin value) (fun _ => pin)
  | _ => throw (.valueError "invalid pin")

def optionalPin (config : PyDict) (key : String) (value : Option Nat) : BusProg (Option Int) :=
  match config.get? key with
  | none => pure none
  | some v => do
    let pin ← makePin v value
    pure (some pin)

def setPower (power : Option Int) (activeLow enabled : Bool) : BusProg Unit :=
  match power with
  | none => pure ()
  | some pin => normalizing (fun err => s!"YL-69/FC-28 power switch failed: {err}")
      (transfer (fun _ => .pinSet pin (if enabled = activeLow then 0 else 1)) (fun _ => ()))

structure Device where
  dryRaw : PyValue
  wetRaw : PyValue
  settleMs : PyValue
  sampleDelayMs : PyValue
  samples : List Nat
  digital : Option Int
  power : Option Int
  activeLow : Bool

def initializeDevice (config : PyDict) : BusProg Device := do
  checked (validateConfig config)
  let activeLow := ((config.get? "power_active_low").getD (.bool true)).truthy
  let digital ← optionalPin config "digital_pin" none
  let power ← optionalPin config "power_pin" (some (if activeLow then 1 else 0))
  let dryRaw ← python (config.subscript "dry_raw")
  let wetRaw ← python (config.subscript "wet_raw")
  let count ← python ((config.get? "sample_count").getD (.int 9)).asInt
  let samples := List.replicate count.toNat 0
  setPower power activeLow false
  pure ⟨dryRaw, wetRaw, (config.get? "settle_ms").getD (.int 200),
    (config.get? "sample_delay_ms").getD (.int 2), samples, digital, power, activeLow⟩

end Yl69Fc28

/-- `driver.initialize(config)` of the driver that the registry has for the type. -/
def initializeDriver (deviceType : String) (config : PyDict) : BusProg Unit :=
  if deviceType = "bme280" then do
    let _ ← Bme280.initializeDevice config
    pure ()
  else if deviceType = "ltr390" then do
    let _ ← Ltr390.initializeDevice config
    pure ()
  else if deviceType = "ds18b20" then do
    let _ ← Ds18b20.initializeDevice config
    pure ()
  else if deviceType = "sht35" then do
    let _ ← Sht35.initializeDevice config
    pure ()
  else if deviceType = "yl69_fc28" then do
    let _ ← Yl69Fc28.initializeDevice config
    pure ()
  else throw (.valueError s!"Unsupported device type: {deviceType}")

end PicoDualCore
