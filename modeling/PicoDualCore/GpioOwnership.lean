import PicoDualCore.ConfigSpec
set_option autoImplicit false

namespace PicoDualCore
open ExceptPost

structure I2cSetting where
  bus : Int
  pins : Int × Int
  freq : Int
  deriving DecidableEq, Repr

inductive Line where
  | sda (setting : I2cSetting)
  | scl (setting : I2cSetting)
  | oneWire
  | soil (key : String)
  deriving DecidableEq, Repr

structure Signal where
  line : Line
  gpio : Int
  deriving DecidableEq, Repr

def i2cSetting (config : PyDict) (defaultFreq : Int) : I2cSetting :=
  let bus := config.intD "i2c_bus"
  { bus
    pins := effectiveRp2I2cPins bus (config.pin? "i2c_sda_pin") (config.pin? "i2c_scl_pin")
    freq := match (config.get? "i2c_freq_hz").getD (.int defaultFreq) with
      | .int freq => freq
      | _ => 0 }

def i2cSignals (setting : I2cSetting) : List Signal :=
  [⟨.sda setting, setting.pins.1⟩, ⟨.scl setting, setting.pins.2⟩]

def SOIL_PIN_KEYS : List String := ["adc_pin", "digital_pin", "power_pin"]

def soilSignals (config : PyDict) : List Signal :=
  SOIL_PIN_KEYS.filterMap (fun key => (config.pin? key).map (fun pin => ⟨.soil key, pin⟩))

/-- `DEFAULT_I2C_FREQ_HZ` of the device's type, if it has an I2C peripheral. -/
def defaultFreq? (device : PyDict) : Option Int :=
  match device.getD "device_type" with
  | .str deviceType => (deviceRegistry.lookup deviceType).bind ValidationModule.defaultFreq
  | _ => none

def deviceSignals (device : PyDict) : List Signal :=
  if isType device "ds18b20" then [⟨.oneWire, (deviceConfig device).intD "pin"⟩]
  else if isType device "yl69_fc28" then soilSignals (deviceConfig device)
  else match defaultFreq? device with
    | some freq => i2cSignals (i2cSetting (deviceConfig device) freq)
    | none => []

def configSignals (config : PyValue) : List Signal :=
  match config with
  | .dict items => match PyDict.getD items "devices" with
    | .list devices => devices.flatMap (fun device => match device with
      | .dict device => deviceSignals device
      | _ => [])
    | _ => []
  | _ => []

/-- One line of one I2C bus, or one 1-Wire bus. -/
def MayShare (a b : Signal) : Prop :=
  (∃ setting, a.line = .sda setting ∧ b.line = .sda setting) ∨
    (∃ setting, a.line = .scl setting ∧ b.line = .scl setting) ∨
      a.line = .oneWire ∧ b.line = .oneWire

@[simp] theorem pyEq_int (a b : Int) : (PyValue.int a).pyEq (.int b) = decide (a = b) := by
  rw [Bool.eq_iff_iff]
  simp [PyValue.pyEq, PyValue.number?, Decimal.beq, Decimal.scaled, Decimal.ofInt]

def Holds {α : Type} (owners : List (PyValue × α)) (pins : List Int) : Prop :=
  owners.map Prod.fst = pins.map PyValue.int

theorem ownerOf_none {α : Type} {owners : List (PyValue × α)} {pins : List Int}
    (h : Holds owners pins) {pin : Int} (hnone : ownerOf owners (.int pin) = none) :
    pin ∉ pins := by
  intro hmem
  have hkey : PyValue.int pin ∈ owners.map Prod.fst := by
    rw [h]
    exact List.mem_map_of_mem hmem
  obtain ⟨owner, howner, hfst⟩ := List.mem_map.mp hkey
  simp only [ownerOf, Option.map_eq_none_iff, List.find?_eq_none] at hnone
  have hno := hnone owner howner
  simp [hfst] at hno

theorem refuseOwned_ok {α : Type} {owner : Option α} {message : α → String}
    (h : refuseOwned owner message = .ok ()) : owner = none := by
  cases owner with
  | some owner => cases h
  | none => rfl

theorem refuseIf_ok {condition : Bool} {message : String}
    (h : refuseIf condition message = .ok ()) : condition = false := by
  cases condition with
  | true => cases h
  | false => rfl

def optionalInt : Option Int → PyValue
  | none => .none
  | some n => .int n

structure I2cWired (device : PyDict) (bus : Int) (sda scl : Option Int) (freq : Int) : Prop where
  identity : i2cBusIdentity device =
    .ok (some (.int bus, optionalInt sda, optionalInt scl, .int freq))
  signals : deviceSignals device = i2cSignals ⟨bus, effectiveRp2I2cPins bus sda scl, freq⟩
  notOneWire : isType device "ds18b20" = false
  notSoil : isType device "yl69_fc28" = false
  range : bus = 0 ∨ bus = 1
  sdaRouted : ∀ pin, sda = some pin → pin ∈ sdaPins bus
  sclRouted : ∀ pin, scl = some pin → pin ∈ sclPins bus
  hasBus : (deviceConfig device).has "i2c_bus" = true
  busIs : (deviceConfig device).intD "i2c_bus" = bus
  sdaIs : (deviceConfig device).pin? "i2c_sda_pin" = sda
  sclIs : (deviceConfig device).pin? "i2c_scl_pin" = scl

structure OneWireWired (device : PyDict) (pin : Int) : Prop where
  identity : i2cBusIdentity device = .ok none
  signals : deviceSignals device = [⟨.oneWire, pin⟩]
  type : isType device "ds18b20" = true
  other : isType device "yl69_fc28" = false
  pinIs : (deviceConfig device).getD "pin" = .int pin
  exposed : pin ∈ USER_GPIO_PINS

structure SoilWired (device : PyDict) : Prop where
  identity : i2cBusIdentity device = .ok none
  signals : deviceSignals device = soilSignals (deviceConfig device)
  type : isType device "yl69_fc28" = true
  other : isType device "ds18b20" = false
  pins : ∀ key ∈ SOIL_PIN_KEYS, (deviceConfig device).get? key = none ∨
    ∃ pin ∈ USER_GPIO_PINS, (deviceConfig device).get? key = some (.int pin)

theorem optionalPin_ok {key : String} {v : PyValue} {pin : Option Int}
    (h : optionalPin key v = .ok pin) : v = optionalInt pin := by
  have hpin : (validateUserGpioPin key v >>= fun pin => pure (some pin)) = .ok pin →
      v = optionalInt pin := by
    intro h
    obtain ⟨n, hn, hsome⟩ := seq_ok h
    cases hsome
    exact ((validateUserGpioPin_post key v).of_ok hn).1
  cases v with
  | none =>
    cases h
    rfl
  | _ => exact hpin h

theorem routed_ok {key line : String} {bus : Int} {pins : List Int} {pin : Option Int}
    (h : routed key line bus pins pin = .ok ()) : ∀ n, pin = some n → n ∈ pins := by
  rintro n rfl
  simpa using (rejectIf_post invalid_value_stable).of_ok h

theorem validateI2cKeys_ok {label : String} {defaultFreq minFreq maxFreq : Int} {config : PyDict}
    (h : validateI2cKeys label defaultFreq minFreq maxFreq config = .ok ()) :
    ∃ bus sda scl, config.get? "i2c_bus" = some (.int bus) ∧ (bus = 0 ∨ bus = 1) ∧
      config.getD "i2c_sda_pin" = optionalInt sda ∧ config.getD "i2c_scl_pin" = optionalInt scl ∧
      (∀ pin, sda = some pin → pin ∈ sdaPins bus) ∧ ∀ pin, scl = some pin → pin ∈ sclPins bus := by
  obtain ⟨v, hv, h⟩ := seq_ok h
  obtain ⟨bus, hbus, h⟩ := seq_ok h
  obtain ⟨⟨⟩, hpins, -⟩ := seq_ok h
  obtain ⟨sda, hsda, hpins⟩ := seq_ok hpins
  obtain ⟨scl, hscl, hpins⟩ := seq_ok hpins
  obtain ⟨⟨⟩, -, hpins⟩ := seq_ok hpins
  obtain ⟨⟨⟩, hsdaPins, hsclPins⟩ := seq_ok hpins
  have hv' := (required_post _ _ _).of_ok hv
  obtain ⟨rfl, hlow, hhigh⟩ := (intBetween_post _ _ _ _).of_ok hbus
  exact ⟨bus, sda, scl, hv', by omega, optionalPin_ok hsda, optionalPin_ok hscl,
    routed_ok hsdaPins, routed_ok hsclPins⟩

theorem pin?_of_optionalInt {config : PyDict} {key : String} {pin : Option Int}
    (h : config.getD key = optionalInt pin) : config.pin? key = pin := by
  rw [PyDict.pin?, h]
  cases pin <;> rfl

theorem isType_eq {device : PyDict} {deviceType : String}
    (h : device.getD "device_type" = .str deviceType) (name : String) :
    isType device name = (deviceType == name) := by
  rw [isType, h]
  rfl

theorem deviceConfig_eq {device config : PyDict} (h : device.getD "config" = .dict config) :
    deviceConfig device = config := by
  rw [deviceConfig, h]

theorem i2cWired {device config : PyDict} {deviceType label : String} {entry : ValidationModule}
    {defaultFreq minFreq maxFreq : Int} (htype : device.getD "device_type" = .str deviceType)
    (hbody : device.getD "config" = .dict config)
    (hentry : deviceRegistry.lookup deviceType = some entry)
    (hfreq : entry.defaultFreq = some defaultFreq) (hds : (deviceType == "ds18b20") = false)
    (hyl : (deviceType == "yl69_fc28") = false)
    (hkeys : validateI2cKeys label defaultFreq minFreq maxFreq config = .ok ())
    (hconfig : IsI2cConfig defaultFreq minFreq maxFreq config) :
    ∃ bus sda scl freq, I2cWired device bus sda scl freq := by
  obtain ⟨bus, sda, scl, hbus, hrange, hsda, hscl, hsdaPins, hsclPins⟩ := validateI2cKeys_ok hkeys
  obtain ⟨freq, hclock, -⟩ := hconfig.freq
  have hint : config.intD "i2c_bus" = bus := by
    rw [PyDict.intD, PyDict.getD, hbus]
    rfl
  have hd := deviceConfig_eq hbody
  have hdefault : defaultFreq? device = some defaultFreq := by
    rw [defaultFreq?, htype]
    simp only [hentry, Option.bind_some, hfreq]
  refine ⟨bus, sda, scl, freq, ?_, ?_, (isType_eq htype _).trans hds,
    (isType_eq htype _).trans hyl, hrange, hsdaPins, hsclPins, ?_, ?_, ?_, ?_⟩
  · obtain ⟨keys, validate, clock, candidates⟩ := entry
    cases hfreq
    simp only [i2cBusIdentity, hbody, hbus, htype, registryEntry, PyValue.hashable, if_true, hentry,
      hsda, hscl, hclock, bind, Except.bind, pure, Except.pure]
  · simp only [deviceSignals, isType_eq htype, hds, hyl, Bool.false_eq_true, if_false, hdefault, hd,
      i2cSetting, hint, pin?_of_optionalInt hsda, pin?_of_optionalInt hscl, hclock]
  · rw [hd, PyDict.has, hbus]
    rfl
  · rw [hd, hint]
  · rw [hd, pin?_of_optionalInt hsda]
  · rw [hd, pin?_of_optionalInt hscl]

theorem identity_none {device config : PyDict} {allowed : List String}
    (hbody : device.getD "config" = .dict config) (hkeys : ∀ key ∈ config.keys, key ∈ allowed)
    (hno : "i2c_bus" ∉ allowed) : i2cBusIdentity device = .ok none := by
  unfold i2cBusIdentity
  rw [hbody]
  dsimp only
  cases hbus : PyDict.get? config "i2c_bus" with
  | none => rfl
  | some v => exact (hno (hkeys _ (PyDict.mem_keys_of_get? hbus))).elim

theorem wired {device : PyDict} (h : IsDefinition device) :
    (∃ bus sda scl freq, I2cWired device bus sda scl freq) ∨
      (∃ pin, OneWireWired device pin) ∨ SoilWired device := by
  obtain ⟨deviceType, config, h⟩ := h
  have hd := deviceConfig_eq h.body
  have hvalid := h.valid
  cases h.accepted with
  | bme280 hc =>
    obtain ⟨⟨⟩, -, hvalid⟩ := seq_ok (show Bme280.validateConfig config = .ok () from hvalid)
    obtain ⟨⟨⟩, hkeys, -⟩ := seq_ok hvalid
    exact .inl (i2cWired h.type h.body rfl rfl rfl rfl hkeys hc.i2c)
  | ltr390 hc =>
    obtain ⟨⟨⟩, -, hvalid⟩ := seq_ok (show Ltr390.validateConfig config = .ok () from hvalid)
    obtain ⟨⟨⟩, hkeys, -⟩ := seq_ok hvalid
    exact .inl (i2cWired h.type h.body rfl rfl rfl rfl hkeys hc.i2c)
  | sht35 hc =>
    obtain ⟨⟨⟩, -, hvalid⟩ := seq_ok (show Sht35.validateConfig config = .ok () from hvalid)
    obtain ⟨⟨⟩, hkeys, -⟩ := seq_ok hvalid
    exact .inl (i2cWired h.type h.body rfl rfl rfl rfl hkeys hc.i2c)
  | ds18b20 hc =>
    obtain ⟨v, pin, hv, rfl, hexposed⟩ := hc.pin
    have hpin : config.getD "pin" = .int pin := by
      rw [PyDict.getD, hv]
      rfl
    refine .inr (.inl ⟨pin, identity_none h.body hc.keys (by decide), ?_, isType_eq h.type _,
      isType_eq h.type _, by rw [hd, hpin], hexposed⟩)
    rw [deviceSignals, isType_eq h.type, hd, PyDict.intD, hpin]
    rfl
  | yl69_fc28 hc =>
    refine .inr (.inr ⟨identity_none h.body hc.keys (by decide), ?_, isType_eq h.type _,
      isType_eq h.type _, ?_⟩)
    · rw [deviceSignals, isType_eq h.type, isType_eq h.type]
      rfl
    · have hpresent : ∀ key, Yl69Fc28.IsPresentPin (config.get? key) → config.get? key = none ∨
          ∃ pin ∈ USER_GPIO_PINS, config.get? key = some (.int pin) := by
        rintro key (hnone | ⟨w, pin, hw, rfl, hexposed⟩)
        · exact .inl hnone
        · exact .inr ⟨pin, hexposed, hw⟩
      rw [hd]
      intro key hkey
      simp only [SOIL_PIN_KEYS, List.mem_cons, List.not_mem_nil, or_false] at hkey
      rcases hkey with rfl | rfl | rfl
      · obtain ⟨pin, hpin, hget⟩ := hc.adcPin
        have hexposed : ∀ n ∈ Yl69Fc28.ADC_CAPABLE_PINS, n ∈ USER_GPIO_PINS := by decide
        exact .inr ⟨pin, hexposed pin hpin, hget⟩
      · exact hpresent _ hc.digitalPin
      · exact hpresent _ hc.powerPin

section Passes

variable {devices : List (PyDict × Nat)} {wires pins : List Int}
  {onewire : List (PyValue × String)} {soil : List (PyValue × String × String)}

def givenSettings (given : Option Int × Option Int × Int) : PyValue × PyValue × PyValue :=
  (optionalInt given.1, optionalInt given.2.1, .int given.2.2)

theorem pyEq_optionalInt (a b : Option Int) :
    (optionalInt a).pyEq (optionalInt b) = decide (a = b) := by
  cases a <;> cases b <;> simp [optionalInt] <;> simp [PyValue.pyEq, PyValue.number?]

theorem givenSettings_inj {given given' : Option Int × Option Int × Int}
    (h : givenSettings given = givenSettings given') : given = given' := by
  have hself : ∀ a b : Option Int, optionalInt a = optionalInt b → a = b := by
    intro a b hab
    cases a <;> cases b <;> simp_all [optionalInt]
  obtain ⟨sda, scl, freq⟩ := given
  obtain ⟨sda', scl', freq'⟩ := given'
  simp only [givenSettings, Prod.mk.injEq, PyValue.int.injEq] at h
  rw [hself _ _ h.1, hself _ _ h.2.1, h.2.2]

def Declares (device : PyDict) (bus : Int) (given : Option Int × Option Int × Int) : Prop :=
  i2cBusIdentity device = .ok (some (.int bus, givenSettings given))

theorem I2cWired.declares {device : PyDict} {bus freq : Int} {sda scl : Option Int}
    (h : I2cWired device bus sda scl freq) : Declares device bus (sda, scl, freq) := h.identity

theorem Declares.unique {device : PyDict} {bus bus' : Int}
    {given given' : Option Int × Option Int × Int} (h : Declares device bus given)
    (h' : Declares device bus' given') : bus = bus' ∧ given = given' := by
  have heq := h.symm.trans h'
  simp only [Except.ok.injEq, Option.some.injEq, Prod.mk.injEq, PyValue.int.injEq] at heq
  exact ⟨heq.1, givenSettings_inj heq.2⟩

abbrev BusOwners := List (PyValue × String × PyValue × PyValue × PyValue)

structure Agreeing (owners : BusOwners) (devices : List (PyDict × Nat)) : Prop where
  known : ∀ entry ∈ devices, ∀ bus given, Declares entry.1 bus given → ∀ owner given',
    ownerOf owners (.int bus) = some (owner, givenSettings given') → given' = given
  each : ∀ entry ∈ devices, ∀ other ∈ devices, ∀ bus given given',
    Declares entry.1 bus given → Declares other.1 bus given' → given = given'

theorem Agreeing.cons {owners : BusOwners} {entry : PyDict × Nat}
    (h : Agreeing owners devices)
    (hknown : ∀ bus given, Declares entry.1 bus given → ∀ owner given',
      ownerOf owners (.int bus) = some (owner, givenSettings given') → given' = given)
    (heach : ∀ other ∈ devices, ∀ bus given given', Declares entry.1 bus given →
      Declares other.1 bus given' → given = given') : Agreeing owners (entry :: devices) := by
  constructor
  · intro e he
    rcases List.mem_cons.mp he with rfl | he
    · exact hknown
    · exact h.known e he
  · intro e he o ho bus given given' hg hg'
    rcases List.mem_cons.mp he with rfl | hin
    · rcases List.mem_cons.mp ho with rfl | hin'
      · exact (hg.unique hg').2
      · exact heach o hin' bus given given' hg hg'
    · rcases List.mem_cons.mp ho with rfl | hin'
      · exact (heach e hin bus given' given hg' hg).symm
      · exact h.each e hin o hin' bus given given' hg hg'

theorem ownerOf_cons {α : Type} (bus bus' : Int) (owner : α) (owners : List (PyValue × α)) :
    ownerOf ((.int bus, owner) :: owners) (.int bus') =
      if bus = bus' then some owner else ownerOf owners (.int bus') := by
  by_cases hbus : bus = bus' <;> simp [ownerOf, hbus]

theorem checkBusSettings_ok {owners : BusOwners}
    (hdefinitions : ∀ entry ∈ devices, IsDefinition entry.1)
    (howners : ∀ bus owner setting, ownerOf owners (.int bus) = some (owner, setting) →
      ∃ given, setting = givenSettings given)
    (h : checkBusSettings owners devices = .ok ()) : Agreeing owners devices := by
  induction devices generalizing owners with
  | nil => exact ⟨by simp, by simp⟩
  | cons entry rest ih =>
    obtain ⟨device, index⟩ := entry
    have hrest : ∀ entry ∈ rest, IsDefinition entry.1 :=
      fun entry hentry => hdefinitions entry (List.mem_cons_of_mem _ hentry)
    have hnone : i2cBusIdentity device = .ok none → Agreeing owners ((device, index) :: rest) := by
      intro hnone
      have hno : ∀ bus given, ¬ Declares device bus given := by
        intro bus given hd
        cases hd.symm.trans hnone
      simp only [checkBusSettings, hnone, ConfigCheck.ofPython, Except.mapError, bind,
        Except.bind] at h
      exact (ih hrest howners h).cons (fun _ _ hd => (hno _ _ hd).elim)
        (fun _ _ _ _ _ hd => (hno _ _ hd).elim)
    rcases wired (hdefinitions _ List.mem_cons_self) with
      ⟨bus, sda, scl, freq, hw⟩ | ⟨pin, hw⟩ | hw
    · have hd := hw.declares
      generalize (sda, scl, freq) = given at hd
      rw [Declares] at hd
      simp only [checkBusSettings, hd, ConfigCheck.ofPython, Except.mapError, bind, Except.bind,
        givenSettings] at h
      cases howner : ownerOf owners (.int bus) with
      | none =>
        rw [howner] at h
        have hag := ih hrest (fun bus' owner setting hget => by
          rw [ownerOf_cons] at hget
          split at hget
          · exact ⟨given, by cases hget; rfl⟩
          · exact howners bus' owner setting hget) h
        refine Agreeing.cons ⟨fun e he bus' given' hg owner given'' hget => ?_, hag.each⟩ ?_ ?_
        · refine hag.known e he bus' given' hg owner given'' ?_
          rw [ownerOf_cons]
          split
          · rename_i hbus
            rw [← hbus, howner] at hget
            cases hget
          · exact hget
        · intro bus' given' hg owner given'' hget
          obtain ⟨rfl, rfl⟩ := hg.unique hd
          rw [howner] at hget
          cases hget
        · intro other hother bus' given' given'' hg hg'
          obtain ⟨rfl, rfl⟩ := hg.unique hd
          refine hag.known other hother bus' given'' hg' (qualifier index device) given' ?_
          rw [ownerOf_cons, if_pos rfl]
          rfl
      | some owner =>
        obtain ⟨name, setting⟩ := owner
        obtain ⟨⟨sda', scl', freq'⟩, rfl⟩ := howners bus name setting howner
        rw [howner] at h
        obtain ⟨⟨⟩, hsame, hchecked⟩ := seq_ok h
        have heq : (sda', scl', freq') = given := by
          have hsame' := refuseIf_ok hsame
          simp only [Bool.not_eq_false', Bool.and_eq_true, pyEq_optionalInt, pyEq_int,
            decide_eq_true_eq] at hsame'
          obtain ⟨⟨rfl, rfl⟩, rfl⟩ := hsame'
          rfl
        have hag := ih hrest howners hchecked
        refine hag.cons ?_ ?_
        · intro bus' given' hg owner given'' hget
          obtain ⟨rfl, rfl⟩ := hg.unique hd
          rw [howner] at hget
          simp only [Option.some.injEq, Prod.mk.injEq] at hget
          exact (givenSettings_inj hget.2).symm.trans heq
        · intro other hother bus' given' given'' hg hg'
          obtain ⟨rfl, rfl⟩ := hg.unique hd
          exact heq.symm.trans (hag.known other hother bus' given'' hg' name _ howner)
    · exact hnone hw.identity
    · exact hnone hw.identity

def Signal.oneWireGpio? (signal : Signal) : Option Int :=
  if signal.line = .oneWire then some signal.gpio else none

def Signal.soilGpio? (signal : Signal) : Option Int :=
  match signal.line with
  | .soil _ => some signal.gpio
  | _ => none

def signalsOf (devices : List (PyDict × Nat)) : List Signal :=
  devices.flatMap (fun entry => deviceSignals entry.1)

def oneWirePins (devices : List (PyDict × Nat)) : List Int :=
  (signalsOf devices).filterMap Signal.oneWireGpio?

def soilPins (devices : List (PyDict × Nat)) : List Int :=
  (signalsOf devices).filterMap Signal.soilGpio?

theorem soilPins_cons (entry : PyDict × Nat) :
    soilPins (entry :: devices) =
      (deviceSignals entry.1).filterMap Signal.soilGpio? ++ soilPins devices := by
  simp [soilPins, signalsOf, List.filterMap_append]

theorem oneWirePins_cons (entry : PyDict × Nat) :
    oneWirePins (entry :: devices) =
      (deviceSignals entry.1).filterMap Signal.oneWireGpio? ++ oneWirePins devices := by
  simp [oneWirePins, signalsOf, List.filterMap_append]

theorem soilSignals_soil (config : PyDict) :
    (soilSignals config).filterMap Signal.soilGpio? = SOIL_PIN_KEYS.filterMap config.pin? := by
  rw [soilSignals, List.filterMap_filterMap]
  congr 1
  funext key
  cases config.pin? key <;> rfl

theorem soilSignals_oneWire (config : PyDict) :
    (soilSignals config).filterMap Signal.oneWireGpio? = [] := by
  rw [soilSignals, List.filterMap_filterMap]
  refine List.filterMap_eq_nil_iff.mpr (fun key _ => ?_)
  cases config.pin? key <;> rfl

theorem holds_onewireOwners (h : ∀ entry ∈ devices, IsDefinition entry.1) :
    Holds (onewireOwners devices) (oneWirePins devices) := by
  induction devices with
  | nil => rfl
  | cons entry rest ih =>
    have hrest := ih (fun entry hentry => h entry (List.mem_cons_of_mem _ hentry))
    rw [Holds, oneWirePins_cons, onewireOwners, List.filter_cons]
    rcases wired (h _ List.mem_cons_self) with ⟨bus, sda, scl, freq, hw⟩ | ⟨pin, hw⟩ | hw
    · rw [hw.notOneWire, hw.signals]
      exact hrest
    · rw [hw.type, hw.signals]
      simp only [if_true, List.map_cons, hw.pinIs]
      exact congrArg (PyValue.int pin :: ·) hrest
    · rw [hw.other, hw.signals, soilSignals_oneWire]
      exact hrest

structure PinsClaimed (wires pins new : List Int) (owners : List (PyValue × String × String)) :
    Prop where
  holds : Holds owners (pins ++ new)
  distinct : pins.Nodup → (pins ++ new).Nodup
  free : ∀ pin ∈ new, pin ∉ wires

theorem claimSoilPins_ok {name : String} {config : PyDict} {keys : List String}
    {owners owners' : List (PyValue × String × String)} (hwires : Holds onewire wires)
    (hkeys : ∀ key ∈ keys, config.get? key = none ∨ ∃ pin : Int, config.get? key = some (.int pin))
    (howners : Holds owners pins)
    (h : claimSoilPins onewire name config owners keys = .ok owners') :
    PinsClaimed wires pins (keys.filterMap config.pin?) owners' := by
  induction keys generalizing owners pins with
  | nil =>
    cases h
    exact ⟨by simpa using howners, by simp, by simp⟩
  | cons key rest ih =>
    have hrest : ∀ key ∈ rest, config.get? key = none ∨
        ∃ pin : Int, config.get? key = some (.int pin) :=
      fun key hkey => hkeys key (List.mem_cons_of_mem _ hkey)
    rcases hkeys key List.mem_cons_self with hnone | ⟨pin, hpin⟩
    · have hno : config.pin? key = none := by
        rw [PyDict.pin?, PyDict.getD, hnone]
        rfl
      simp only [claimSoilPins, hnone] at h
      rw [List.filterMap_cons_none hno]
      exact ih hrest howners h
    · have hsome : config.pin? key = some pin := by
        rw [PyDict.pin?, PyDict.getD, hpin]
        rfl
      simp only [claimSoilPins, hpin] at h
      obtain ⟨⟨⟩, hsoil, h⟩ := seq_ok h
      obtain ⟨⟨⟩, hwire, h⟩ := seq_ok h
      have hnew := ownerOf_none howners (refuseOwned_ok hsoil)
      have hheld : Holds (owners ++ [(PyValue.int pin, name, key)]) (pins ++ [pin]) := by
        rw [Holds, List.map_append, List.map_append, howners]
        rfl
      obtain ⟨hholds, hdistinct, hfree⟩ := ih hrest hheld h
      rw [List.filterMap_cons_some hsome]
      refine ⟨by simpa using hholds, fun hn => ?_, fun p hp => ?_⟩
      · have hn' : (pins ++ [pin]).Nodup := by
          refine List.nodup_append.mpr ⟨hn, by simp, ?_⟩
          rintro a ha b hb rfl
          rw [List.mem_singleton.mp hb] at ha
          exact hnew ha
        simpa using hdistinct hn'
      · rcases List.mem_cons.mp hp with rfl | hp
        · exact ownerOf_none hwires (refuseOwned_ok hwire)
        · exact hfree p hp

theorem soilPinOwners_ok {owners owners' : List (PyValue × String × String)}
    (hdefinitions : ∀ entry ∈ devices, IsDefinition entry.1) (hwires : Holds onewire wires)
    (howners : Holds owners pins) (h : soilPinOwners onewire owners devices = .ok owners') :
    PinsClaimed wires pins (soilPins devices) owners' := by
  induction devices generalizing owners pins with
  | nil =>
    cases h
    exact ⟨by simpa [soilPins, signalsOf] using howners, by simp [soilPins, signalsOf],
      by simp [soilPins, signalsOf]⟩
  | cons entry rest ih =>
    obtain ⟨device, index⟩ := entry
    have hrest : ∀ entry ∈ rest, IsDefinition entry.1 :=
      fun entry hentry => hdefinitions entry (List.mem_cons_of_mem _ hentry)
    rw [soilPins_cons]
    rcases wired (hdefinitions _ List.mem_cons_self) with
      ⟨bus, sda, scl, freq, hw⟩ | ⟨pin, hw⟩ | hw
    · simp only [soilPinOwners, hw.notSoil] at h
      rw [hw.signals]
      exact ih hrest howners h
    · simp only [soilPinOwners, hw.other] at h
      rw [hw.signals]
      exact ih hrest howners h
    · simp only [soilPinOwners, hw.type, if_true] at h
      obtain ⟨claimed, hclaim, h⟩ := seq_ok h
      have hkeys : ∀ key ∈ SOIL_PIN_KEYS, (deviceConfig device).get? key = none ∨
          ∃ pin : Int, (deviceConfig device).get? key = some (.int pin) :=
        fun key hkey => (hw.pins key hkey).imp_right (fun ⟨pin, _, hpin⟩ => ⟨pin, hpin⟩)
      obtain ⟨hholds, hdistinct, hfree⟩ := claimSoilPins_ok hwires hkeys howners hclaim
      obtain ⟨hholds', hdistinct', hfree'⟩ := ih hrest hholds h
      rw [hw.signals, soilSignals_soil]
      refine ⟨by simpa using hholds', fun hn => by simpa using hdistinct' (hdistinct hn), ?_⟩
      intro pin hpin
      rcases List.mem_append.mp hpin with hpin | hpin
      · exact hfree pin hpin
      · exact hfree' pin hpin

/-- The lines of an I2C device are nobody else's. -/
theorem checkI2cPins_ok {entry : PyDict × Nat} {bus freq : Int} {sda scl : Option Int}
    (hw : I2cWired entry.1 bus sda scl freq) (hwires : Holds onewire wires)
    (hsoil : Holds soil pins) (h : checkI2cPins onewire soil entry = .ok ()) :
    ∀ signal ∈ deviceSignals entry.1, signal.gpio ∉ wires ∧ signal.gpio ∉ pins := by
  simp only [checkI2cPins, hw.hasBus, if_true, hw.busIs, hw.sdaIs, hw.sclIs] at h
  obtain ⟨⟨⟩, hsda, hscl⟩ := seq_ok h
  obtain ⟨⟨⟩, hsdaWire, hsdaSoil⟩ := seq_ok hsda
  obtain ⟨⟨⟩, hsclWire, hsclSoil⟩ := seq_ok hscl
  rw [hw.signals]
  intro signal hsignal
  simp only [i2cSignals, List.mem_cons, List.not_mem_nil, or_false] at hsignal
  rcases hsignal with rfl | rfl
  · exact ⟨ownerOf_none hwires (refuseOwned_ok hsdaWire),
      ownerOf_none hsoil (refuseOwned_ok hsdaSoil)⟩
  · exact ⟨ownerOf_none hwires (refuseOwned_ok hsclWire),
      ownerOf_none hsoil (refuseOwned_ok hsclSoil)⟩

structure OwnedDevices (devices : List (PyDict × Nat)) : Prop where
  definitions : ∀ entry ∈ devices, IsDefinition entry.1
  agreeing : Agreeing [] devices
  soilDistinct : (soilPins devices).Nodup
  soilFree : ∀ pin ∈ soilPins devices, pin ∉ oneWirePins devices
  i2cFree : ∀ entry ∈ devices, ∀ bus sda scl freq, I2cWired entry.1 bus sda scl freq →
    ∀ signal ∈ deviceSignals entry.1,
      signal.gpio ∉ oneWirePins devices ∧ signal.gpio ∉ soilPins devices

theorem validateDevices_owned {v : PyValue} (h : validateDevices v = .ok ()) :
    ∃ devices : List (PyDict × Nat), v = .list (devices.map (fun entry => .dict entry.1)) ∧
      OwnedDevices devices := by
  unfold validateDevices at h
  split at h
  · rename_i device rest
    obtain ⟨⟨⟩, -, h⟩ := seq_ok h
    obtain ⟨devices, heach, h⟩ := seq_ok h
    obtain ⟨⟨⟩, hbus, h⟩ := seq_ok h
    obtain ⟨soil, hsoil, h⟩ := seq_ok h
    obtain ⟨⟨⟩, hi2c, -⟩ := seq_ok h
    obtain ⟨hsame, hdefinitions⟩ := (validateEachDevice_post _ _).of_ok heach
    have hwires := holds_onewireOwners hdefinitions
    have hclaimed : PinsClaimed _ [] _ soil := soilPinOwners_ok hdefinitions hwires
      (show Holds ([] : List (PyValue × String × String)) [] from rfl) hsoil
    refine ⟨devices, ?_, hdefinitions, checkBusSettings_ok hdefinitions ?_ hbus,
      hclaimed.distinct List.nodup_nil, hclaimed.free, ?_⟩
    · simpa using hsame
    · intro bus owner setting hget
      cases hget
    · intro entry hentry bus sda scl freq hw
      exact checkI2cPins_ok hw hwires hclaimed.holds (forM_ok hi2c entry hentry)
  · cases h

theorem effective_sda {bus : Int} (hbus : bus = 0 ∨ bus = 1) {sda : Option Int} (scl : Option Int)
    (h : ∀ pin, sda = some pin → pin ∈ sdaPins bus) :
    (effectiveRp2I2cPins bus sda scl).1 ∈ sdaPins bus := by
  cases sda with
  | some pin => exact h pin rfl
  | none =>
    show (defaultPins bus).1 ∈ sdaPins bus
    rcases hbus with rfl | rfl <;> decide

theorem effective_scl {bus : Int} (hbus : bus = 0 ∨ bus = 1) (sda : Option Int) {scl : Option Int}
    (h : ∀ pin, scl = some pin → pin ∈ sclPins bus) :
    (effectiveRp2I2cPins bus sda scl).2 ∈ sclPins bus := by
  cases scl with
  | some pin => exact h pin rfl
  | none =>
    show (defaultPins bus).2 ∈ sclPins bus
    rcases hbus with rfl | rfl <;> decide

theorem mux_exposed {bus : Int} (hbus : bus = 0 ∨ bus = 1) :
    (∀ pin ∈ sdaPins bus, pin ∈ USER_GPIO_PINS) ∧ ∀ pin ∈ sclPins bus, pin ∈ USER_GPIO_PINS := by
  rcases hbus with rfl | rfl <;> decide

/-- No pin is routed to two lines of the controllers. -/
theorem mux_separate {bus bus' : Int} (hbus : bus = 0 ∨ bus = 1) (hbus' : bus' = 0 ∨ bus' = 1) :
    (∀ pin ∈ sdaPins bus, pin ∉ sclPins bus') ∧
      (∀ pin ∈ sdaPins bus, pin ∈ sdaPins bus' → bus = bus') ∧
        ∀ pin ∈ sclPins bus, pin ∈ sclPins bus' → bus = bus' := by
  rcases hbus with rfl | rfl <;> rcases hbus' with rfl | rfl <;> decide

structure I2cSignal (devices : List (PyDict × Nat)) (signal : Signal) (bus : Int)
    (given : Option Int × Option Int × Int) : Prop where
  range : bus = 0 ∨ bus = 1
  declared : ∃ entry ∈ devices, Declares entry.1 bus given
  free : signal.gpio ∉ oneWirePins devices ∧ signal.gpio ∉ soilPins devices
  place :
    signal.line = .sda ⟨bus, effectiveRp2I2cPins bus given.1 given.2.1, given.2.2⟩ ∧
      signal.gpio ∈ sdaPins bus ∨
    signal.line = .scl ⟨bus, effectiveRp2I2cPins bus given.1 given.2.1, given.2.2⟩ ∧
      signal.gpio ∈ sclPins bus

theorem signal_cases (h : OwnedDevices devices) {signal : Signal}
    (hsignal : signal ∈ signalsOf devices) :
    (∃ bus given, I2cSignal devices signal bus given) ∨
      (signal.line = .oneWire ∧ signal.gpio ∈ oneWirePins devices ∧
        signal.gpio ∈ USER_GPIO_PINS) ∨
      ((∃ key, signal.line = .soil key) ∧ signal.gpio ∈ soilPins devices ∧
        signal.gpio ∈ USER_GPIO_PINS) := by
  obtain ⟨entry, hentry, hin⟩ := List.mem_flatMap.mp hsignal
  rcases wired (h.definitions entry hentry) with ⟨bus, sda, scl, freq, hw⟩ | ⟨pin, hw⟩ | hw
  · have hfree := h.i2cFree entry hentry bus sda scl freq hw signal hin
    refine .inl ⟨bus, (sda, scl, freq), hw.range, ⟨entry, hentry, hw.declares⟩, hfree, ?_⟩
    rw [hw.signals] at hin
    simp only [i2cSignals, List.mem_cons, List.not_mem_nil, or_false] at hin
    rcases hin with rfl | rfl
    · exact .inl ⟨rfl, effective_sda hw.range scl hw.sdaRouted⟩
    · exact .inr ⟨rfl, effective_scl hw.range sda hw.sclRouted⟩
  · rw [hw.signals, List.mem_singleton] at hin
    subst hin
    exact .inr (.inl ⟨rfl, List.mem_filterMap.mpr ⟨_, hsignal, rfl⟩, hw.exposed⟩)
  · rw [hw.signals, soilSignals, List.mem_filterMap] at hin
    obtain ⟨key, hkey, hpin⟩ := hin
    cases hp : (deviceConfig entry.1).pin? key with
    | none =>
      rw [hp] at hpin
      cases hpin
    | some pin =>
      rw [hp] at hpin
      cases hpin
      refine .inr (.inr ⟨⟨key, rfl⟩, List.mem_filterMap.mpr ⟨_, hsignal, rfl⟩, ?_⟩)
      rcases hw.pins key hkey with hnone | ⟨n, hexposed, hn⟩
      · simp [PyDict.pin?, PyDict.getD, hnone] at hp
      · simp only [PyDict.pin?, PyDict.getD, hn, Option.getD_some, Option.some.injEq] at hp
        rw [← hp]
        exact hexposed

theorem I2cSignal.shares (h : OwnedDevices devices) {a b : Signal} {bus bus' : Int}
    {given given' : Option Int × Option Int × Int} (ha : I2cSignal devices a bus given)
    (hb : I2cSignal devices b bus' given') (hgpio : a.gpio = b.gpio) : MayShare a b := by
  obtain ⟨hcross, hsda, hscl⟩ := mux_separate ha.range hb.range
  obtain ⟨entry, hentry, hd⟩ := ha.declared
  obtain ⟨other, hother, hd'⟩ := hb.declared
  have hsame : bus = bus' → given = given' := by
    rintro rfl
    exact h.agreeing.each entry hentry other hother bus given given' hd hd'
  rcases ha.place with ⟨hline, hpin⟩ | ⟨hline, hpin⟩ <;>
    rcases hb.place with ⟨hline', hpin'⟩ | ⟨hline', hpin'⟩ <;> rw [← hgpio] at hpin'
  · have hbus := hsda _ hpin hpin'
    rw [← hbus, ← hsame hbus] at hline'
    exact .inl ⟨_, hline, hline'⟩
  · exact (hcross _ hpin hpin').elim
  · exact ((mux_separate hb.range ha.range).1 _ hpin' hpin).elim
  · have hbus := hscl _ hpin hpin'
    rw [← hbus, ← hsame hbus] at hline'
    exact .inr (.inl ⟨_, hline, hline'⟩)

theorem signals_owned (h : OwnedDevices devices) :
    (∀ signal ∈ signalsOf devices, signal.gpio ∈ USER_GPIO_PINS) ∧
      (signalsOf devices).Pairwise (fun a b => a.gpio = b.gpio → MayShare a b) := by
  constructor
  · intro signal hsignal
    rcases signal_cases h hsignal with ⟨bus, given, hi2c⟩ | hwire | hsoil
    · rcases hi2c.place with ⟨-, hpin⟩ | ⟨-, hpin⟩
      · exact (mux_exposed hi2c.range).1 _ hpin
      · exact (mux_exposed hi2c.range).2 _ hpin
    · exact hwire.2.2
    · exact hsoil.2.2
  · have hdistinct := List.pairwise_filterMap.mp h.soilDistinct
    refine hdistinct.imp_of_mem ?_
    intro a b ha hb hsoils hgpio
    rcases signal_cases h ha with ⟨bus, given, hi2c⟩ | hwire | hsoil <;>
      rcases signal_cases h hb with ⟨bus', given', hi2c'⟩ | hwire' | hsoil'
    · exact hi2c.shares h hi2c' hgpio
    · exact (hi2c.free.1 (hgpio ▸ hwire'.2.1)).elim
    · exact (hi2c.free.2 (hgpio ▸ hsoil'.2.1)).elim
    · exact (hi2c'.free.1 (hgpio ▸ hwire.2.1)).elim
    · exact .inr (.inr ⟨hwire.1, hwire'.1⟩)
    · exact (h.soilFree _ hsoil'.2.1 (hgpio ▸ hwire.2.1)).elim
    · exact (hi2c'.free.2 (hgpio ▸ hsoil.2.1)).elim
    · exact (h.soilFree _ hsoil.2.1 (hgpio ▸ hwire'.2.1)).elim
    · obtain ⟨key, hkey⟩ := hsoil.1
      obtain ⟨key', hkey'⟩ := hsoil'.1
      refine (hsoils a.gpio ?_ b.gpio ?_ hgpio).elim
      · simp only [Signal.soilGpio?, hkey]
      · simp only [Signal.soilGpio?, hkey']

end Passes

/-- In an accepted configuration every signal is on an exposed GPIO, and two signals are on one
GPIO only as the same line of one I2C bus or as the data lines of one 1-Wire bus. -/
theorem validateConfig_gpio {config value : PyValue} (h : validateConfig config = .ok value) :
    (∀ signal ∈ configSignals value, signal.gpio ∈ USER_GPIO_PINS) ∧
      (configSignals value).Pairwise (fun a b => a.gpio = b.gpio → MayShare a b) := by
  obtain ⟨rfl, -⟩ := validateConfig_ok h
  cases value with
  | dict items =>
    obtain ⟨⟨⟩, hcheck, -⟩ := seq_ok (show (checkConfig items >>= fun _ => _) = _ from h)
    obtain ⟨names, -, hcheck⟩ := seq_ok hcheck
    split at hcheck
    · obtain ⟨⟨⟩, -, hcheck⟩ := seq_ok hcheck
      obtain ⟨⟨⟩, -, hcheck⟩ := seq_ok hcheck
      obtain ⟨⟨⟩, -, hcheck⟩ := seq_ok hcheck
      obtain ⟨⟨⟩, -, hcheck⟩ := seq_ok hcheck
      obtain ⟨⟨⟩, -, hcheck⟩ := seq_ok hcheck
      obtain ⟨⟨⟩, -, hcheck⟩ := seq_ok hcheck
      obtain ⟨⟨⟩, -, hdevices⟩ := seq_ok hcheck
      obtain ⟨devices, hlist, howned⟩ := validateDevices_owned hdevices
      have hsignals : configSignals (.dict items) = signalsOf devices := by
        simp only [configSignals, hlist, signalsOf, List.flatMap_map]
      rw [hsignals]
      exact signals_owned howned
    · cases hcheck
  | _ => cases h

def gardenDevice (deviceId deviceType : String) (config : PyDict) : PyValue :=
  .dict [(.str "id", .str deviceId), (.str "device_type", .str deviceType),
    (.str "config", .dict config)]

def gardenConfig : PyValue :=
  match shippedConfig "Garden" with
  | .dict items => .dict (items.map (fun item => if item.1 = .str "devices" then (item.1, .list
      [gardenDevice "b-1" "bme280" [(.str "i2c_bus", .int 0),
          (.str "i2c_address_candidates", .list [.int 118]),
          (.str "sea_level_pressure_pa", .int 101325)],
        gardenDevice "b-2" "bme280" [(.str "i2c_bus", .int 0), (.str "i2c_freq_hz", .int 400000),
          (.str "i2c_address_candidates", .list [.int 119]),
          (.str "sea_level_pressure_pa", .int 101325)],
        gardenDevice "t-1" "ds18b20" [(.str "pin", .int 16), (.str "rom", .str "2800000000000001")],
        gardenDevice "t-2" "ds18b20" [(.str "pin", .int 16), (.str "rom", .str "2800000000000002")],
        gardenDevice "s-1" "yl69_fc28" [(.str "adc_pin", .int 26), (.str "power_pin", .int 15),
          (.str "dry_raw", .int 52000), (.str "wet_raw", .int 22000)]]) else item))
  | v => v

theorem validateConfig_gpio_garden :
    (configSignals gardenConfig).map Signal.gpio = [4, 5, 4, 5, 16, 16, 26, 15] ∧
      (configSignals gardenConfig).Pairwise (fun a b => a.gpio = b.gpio → MayShare a b) :=
  ⟨by decide, (validateConfig_gpio (validateConfig_self (by decide))).2⟩

end PicoDualCore
