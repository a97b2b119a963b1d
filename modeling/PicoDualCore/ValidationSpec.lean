import PicoDualCore.ConfigValidation
import PicoDualCore.ExceptPost
set_option autoImplicit false

namespace PicoDualCore
open ExceptPost

/-- The codes that a refusal of a configuration can carry. -/
def STABLE_CODES : List String :=
  ["invalid_value", "missing_key", "unknown_config_fields", "unsupported_device_type",
    "invalid_config_schema_version"]

def DeviceFailure.Refusal (e : DeviceFailure) : Prop :=
  ∃ message code, e = .invalid message code ∧ code ∈ STABLE_CODES

abbrev DevicePost {α : Type} (r : DeviceCheck α) (Q : α → Prop) : Prop :=
  Post r Q DeviceFailure.Refusal

theorem refusal {message code : String} (h : code ∈ STABLE_CODES) :
    (DeviceFailure.invalid message code).Refusal := ⟨message, code, rfl, h⟩

theorem invalid_value_stable : "invalid_value" ∈ STABLE_CODES := by decide

theorem rejectIf_post {condition : Bool} {message code : String} (h : code ∈ STABLE_CODES) :
    DevicePost (rejectIf condition message code) (fun _ => condition = false) := by
  unfold rejectIf
  cases condition with
  | true => exact refusal h
  | false => exact rfl

def IsPin (v : PyValue) (pin : Int) : Prop := v = .int pin ∧ pin ∈ USER_GPIO_PINS

theorem validateUserGpioPin_post (key : String) (v : PyValue) :
    DevicePost (validateUserGpioPin key v) (IsPin v) := by
  cases v with
  | int pin =>
    refine post_seq (rejectIf_post invalid_value_stable) (fun _ _ => ?_)
    refine post_seq (rejectIf_post invalid_value_stable) (fun _ h => ?_)
    exact ⟨rfl, by simpa using h⟩
  | _ => exact refusal invalid_value_stable

/-- A pin that may be left out or explicitly `None`. -/
def IsOptionalPin (v : PyValue) : Prop := v = .none ∨ ∃ pin, IsPin v pin

theorem optionalPin_post (key : String) (v : PyValue) :
    DevicePost (optionalPin key v) (fun _ => IsOptionalPin v) := by
  have hpin : DevicePost (validateUserGpioPin key v >>= fun pin => pure (some pin))
      (fun _ => IsOptionalPin v) :=
    post_seq (validateUserGpioPin_post key v) (fun pin hpin => .inr ⟨pin, hpin⟩)
  cases v with
  | none => exact .inl rfl
  | _ => exact hpin

theorem routed_post (key line : String) (bus : Int) (pins : List Int) (pin : Option Int) :
    DevicePost (routed key line bus pins pin) (fun _ => True) := by
  cases pin with
  | none => trivial
  | some pin =>
    exact post_mono (rejectIf_post invalid_value_stable) (fun _ _ => trivial) (fun _ h => h)

theorem validateRp2I2cPins_post (bus : Int) (sda scl : PyValue) :
    DevicePost (validateRp2I2cPins bus sda scl) (fun _ => IsOptionalPin sda ∧ IsOptionalPin scl) := by
  refine post_seq (optionalPin_post _ sda) (fun _ hsda => ?_)
  refine post_seq (optionalPin_post _ scl) (fun _ hscl => ?_)
  refine post_seq (rejectIf_post invalid_value_stable) (fun _ _ => ?_)
  refine post_seq (routed_post _ _ _ _ _) (fun _ _ => ?_)
  exact post_mono (routed_post _ _ _ _ _) (fun _ _ => ⟨hsda, hscl⟩) (fun _ h => h)

theorem mem_sortedInsert (s t : String) (names : List String) :
    s ∈ sortedInsert t names ↔ s = t ∨ s ∈ names := by
  induction names with
  | nil => simp [sortedInsert]
  | cons u rest ih =>
    unfold sortedInsert
    by_cases h : t = u
    · simp [h]
    · by_cases hlt : t < u
      · simp [h, hlt]
      · simp only [h, hlt, if_false, List.mem_cons, ih]
        tauto

theorem mem_sortedSet (s : String) (names : List String) : s ∈ sortedSet names ↔ s ∈ names := by
  induction names with
  | nil => simp [sortedSet]
  | cons t rest ih =>
    rw [sortedSet, List.foldr_cons, mem_sortedInsert, List.mem_cons, ← ih, sortedSet]

theorem onlyAllowed_post (label : String) (allowed : List String) (config : PyDict) :
    DevicePost (onlyAllowed label allowed config) (fun _ => ∀ key ∈ config.keys, key ∈ allowed) := by
  refine post_mono (rejectIf_post (by decide)) (fun _ h key hkey => ?_) (fun _ h => h)
  simp only [Bool.not_eq_false', List.isEmpty_iff] at h
  by_contra hno
  have hmem : key ∈ sortedSet (config.keys.filter (fun key => !allowed.contains key)) := by
    rw [mem_sortedSet, List.mem_filter]
    exact ⟨hkey, by simpa using hno⟩
  rw [h] at hmem
  exact List.not_mem_nil hmem

theorem required_post (label key : String) (config : PyDict) :
    DevicePost (required label key config) (fun v => config.get? key = some v) := by
  unfold required
  cases h : config.get? key with
  | none => exact refusal (by decide)
  | some v => exact rfl

theorem intThat_post (good : Int → Bool) (message : String) (v : PyValue) :
    DevicePost (intThat good message v) (fun n => v = .int n ∧ good n = true) := by
  cases v with
  | int n => exact post_ite (fun h => ⟨rfl, h⟩) (fun _ => refusal invalid_value_stable)
  | _ => exact refusal invalid_value_stable

def IsIntBetween (low high : Int) (v : PyValue) : Prop := ∃ n, v = .int n ∧ low ≤ n ∧ n ≤ high

theorem intBetween_post (key : String) (low high : Int) (v : PyValue) :
    DevicePost (intBetween key low high v) (fun n => v = .int n ∧ low ≤ n ∧ n ≤ high) :=
  post_mono (intThat_post _ _ v) (fun _ h => by simpa using h) (fun _ h => h)

/-- An entry of `offsets`: a finite number within the bound of its key. -/
def IsOffset (known : List Offset) (item : PyKey × PyValue) : Prop :=
  ∃ offset ∈ known, item.1.text = offset.key ∧
    ∃ d, finiteNumber? item.2 = some d ∧ d.abs.le offset.bound = true

def IsOffsets (known : List Offset) (v : PyValue) : Prop :=
  v = .none ∨ ∃ offsets : PyDict, v = .dict offsets ∧ ∀ item ∈ offsets, IsOffset known item

theorem validateOffset_post {known : List Offset} {item : PyKey × PyValue}
    (hkey : item.1.text ∈ known.map Offset.key) :
    DevicePost (validateOffset known item) (fun _ => IsOffset known item) := by
  unfold validateOffset
  cases hd : finiteNumber? item.2 with
  | none => exact refusal invalid_value_stable
  | some d =>
    cases hfind : known.find? (fun o => o.key == item.1.text) with
    | none =>
      obtain ⟨offset, hoffset, hname⟩ := List.mem_map.mp hkey
      have hno := List.find?_eq_none.mp hfind offset hoffset
      simp [hname] at hno
    | some offset =>
      refine post_mono (rejectIf_post invalid_value_stable) (fun _ h => ?_) (fun _ h => h)
      have hname : offset.key = item.1.text := by simpa using List.find?_some hfind
      exact ⟨offset, List.mem_of_find?_eq_some hfind, hname.symm, d, hd, by simpa using h⟩

theorem validateOffsets_post (known : List Offset) (v : PyValue) :
    DevicePost (validateOffsets known v) (fun _ => IsOffsets known v) := by
  cases v with
  | none => exact .inl rfl
  | dict offsets =>
    refine post_seq (onlyAllowed_post _ _ _) (fun _ hkeys => ?_)
    refine post_mono (post_forM offsets (fun item hitem => validateOffset_post ?_))
      (fun _ h => .inr ⟨offsets, rfl, h⟩) (fun _ h => h)
    exact hkeys _ (List.mem_map_of_mem hitem)
  | _ => exact refusal invalid_value_stable

structure IsI2cConfig (defaultFreq minFreq maxFreq : Int) (config : PyDict) : Prop where
  bus : ∃ n, config.get? "i2c_bus" = some (.int n) ∧ 0 ≤ n ∧ n ≤ 1
  sda : IsOptionalPin (config.getD "i2c_sda_pin")
  scl : IsOptionalPin (config.getD "i2c_scl_pin")
  freq : IsIntBetween minFreq maxFreq ((config.get? "i2c_freq_hz").getD (.int defaultFreq))

theorem validateI2cKeys_post (label : String) (defaultFreq minFreq maxFreq : Int)
    (config : PyDict) :
    DevicePost (validateI2cKeys label defaultFreq minFreq maxFreq config)
      (fun _ => IsI2cConfig defaultFreq minFreq maxFreq config) := by
  refine post_seq (required_post _ _ _) (fun v hv => ?_)
  refine post_seq (intBetween_post _ _ _ _) (fun bus hbus => ?_)
  refine post_seq (validateRp2I2cPins_post _ _ _) (fun _ hpins => ?_)
  refine post_seq (intBetween_post _ _ _ _) (fun freq hfreq => ?_)
  exact ⟨⟨bus, by rw [hv, hbus.1], hbus.2⟩, hpins.1, hpins.2, freq, hfreq⟩

def IsCandidates (valid : List Int) (v : PyValue) : Prop :=
  v = .none ∨ ∃ addresses : List Int, v = .list (addresses.map .int) ∧ addresses ≠ [] ∧
    addresses.Nodup ∧ ∀ a ∈ addresses, a ∈ valid

theorem validateCandidates_post (valid : List Int) (validText : String) (seen : List Int)
    (items : List PyValue) :
    DevicePost (validateCandidates valid validText seen items) (fun _ =>
      ∃ addresses : List Int, items = addresses.map .int ∧ addresses.Nodup ∧
        ∀ a ∈ addresses, a ∈ valid ∧ a ∉ seen) := by
  induction items generalizing seen with
  | nil => exact ⟨[], rfl, List.nodup_nil, by simp⟩
  | cons entry rest ih =>
    refine post_seq (intThat_post _ _ _) (fun address haddress => ?_)
    refine post_seq (rejectIf_post invalid_value_stable) (fun _ hseen => ?_)
    refine post_mono (ih (address :: seen)) ?_ (fun _ h => h)
    rintro _ ⟨addresses, rfl, hnodup, hvalid⟩
    refine ⟨address :: addresses, by rw [haddress.1]; rfl, ?_, ?_⟩
    · refine List.nodup_cons.mpr ⟨fun hmem => ?_, hnodup⟩
      exact (hvalid address hmem).2 List.mem_cons_self
    · intro a ha
      rcases List.mem_cons.mp ha with rfl | ha
      · exact ⟨by simpa using haddress.2, by simpa using hseen⟩
      · exact ⟨(hvalid a ha).1, fun hs => (hvalid a ha).2 (List.mem_cons_of_mem _ hs)⟩

theorem validateAddressCandidates_post (valid : List Int) (validText : String) (v : PyValue) :
    DevicePost (validateAddressCandidates valid validText v) (fun _ => IsCandidates valid v) := by
  unfold validateAddressCandidates
  split
  · exact .inl rfl
  · rename_i entry rest
    refine post_mono (validateCandidates_post valid validText [] (entry :: rest)) ?_ (fun _ h => h)
    rintro _ ⟨addresses, haddresses, hnodup, hvalid⟩
    refine .inr ⟨addresses, by rw [haddresses], ?_, hnodup, fun a ha => (hvalid a ha).1⟩
    rintro rfl
    cases haddresses
  · exact refusal invalid_value_stable

def IsNumberBetween (low high : Int) (v : PyValue) : Prop :=
  ∃ d, finiteNumber? v = some d ∧ (Decimal.ofInt low).le d = true ∧ d.le (.ofInt high) = true

theorem numberBetween_post {low high : Int} {v : PyValue} {message : String} :
    DevicePost (rejectIf (!(match finiteNumber? v with
        | some d => (Decimal.ofInt low).le d && d.le (.ofInt high)
        | none => false)) message)
      (fun _ => IsNumberBetween low high v) := by
  refine post_mono (rejectIf_post invalid_value_stable) (fun _ h => ?_) (fun _ h => h)
  cases hd : finiteNumber? v with
  | none => simp [hd] at h
  | some d => exact ⟨d, hd, by simpa [hd] using h⟩

namespace Bme280

structure Accepted (config : PyDict) : Prop where
  keys : ∀ key ∈ config.keys, key ∈ ALLOWED_CONFIG_KEYS
  i2c : IsI2cConfig DEFAULT_I2C_FREQ_HZ 100000 1000000 config
  candidates : IsCandidates DEFAULT_I2C_ADDRESS_CANDIDATES (config.getD "i2c_address_candidates")
  temperature : IsIntBetween 0 5 ((config.get? "temperature_oversampling").getD (.int 1))
  pressure : IsIntBetween 0 5 ((config.get? "pressure_oversampling").getD (.int 1))
  humidity : IsIntBetween 0 5 ((config.get? "humidity_oversampling").getD (.int 1))
  filter : IsIntBetween 0 4 ((config.get? "iir_filter").getD (.int 0))
  seaLevel : ∃ v, config.get? "sea_level_pressure_pa" = some v ∧
    IsNumberBetween MIN_SEA_LEVEL_PA MAX_SEA_LEVEL_PA v
  offsets : IsOffsets OFFSETS (config.getD "offsets")

theorem validateSeaLevel_post (config : PyDict) :
    DevicePost (validateSeaLevel config) (fun _ => ∃ v,
      config.get? "sea_level_pressure_pa" = some v ∧
        IsNumberBetween MIN_SEA_LEVEL_PA MAX_SEA_LEVEL_PA v) := by
  refine post_seq (required_post _ _ _) (fun v hv => ?_)
  exact post_mono numberBetween_post (fun _ h => ⟨v, hv, h⟩) (fun _ h => h)

theorem validateConfig_post (config : PyDict) :
    DevicePost (validateConfig config) (fun _ => Accepted config) := by
  refine post_seq (onlyAllowed_post _ _ _) (fun _ hkeys => ?_)
  refine post_seq (validateI2cKeys_post _ _ _ _ _) (fun _ hi2c => ?_)
  refine post_seq (validateAddressCandidates_post _ _ _) (fun _ hcandidates => ?_)
  refine post_seq (intBetween_post _ _ _ _) (fun t ht => ?_)
  refine post_seq (intBetween_post _ _ _ _) (fun p hp => ?_)
  refine post_seq (intBetween_post _ _ _ _) (fun h hh => ?_)
  refine post_seq (intBetween_post _ _ _ _) (fun f hf => ?_)
  refine post_seq (rejectIf_post invalid_value_stable) (fun _ _ => ?_)
  refine post_seq (rejectIf_post invalid_value_stable) (fun _ _ => ?_)
  refine post_seq (validateSeaLevel_post _) (fun _ hsea => ?_)
  refine post_mono (validateOffsets_post _ _) (fun _ hoffsets => ?_) (fun _ h => h)
  exact ⟨hkeys, hi2c, hcandidates, ⟨t, ht⟩, ⟨p, hp⟩, ⟨h, hh⟩, ⟨f, hf⟩, hsea, hoffsets⟩

end Bme280

namespace Sht35

structure Accepted (config : PyDict) : Prop where
  keys : ∀ key ∈ config.keys, key ∈ ALLOWED_CONFIG_KEYS
  i2c : IsI2cConfig DEFAULT_I2C_FREQ_HZ 100000 1000000 config
  candidates : IsCandidates DEFAULT_I2C_ADDRESS_CANDIDATES (config.getD "i2c_address_candidates")
  repeatability : ∃ level ∈ VALID_REPEATABILITIES,
    (config.get? "repeatability").getD (.str "high") = .str level
  offsets : IsOffsets OFFSETS (config.getD "offsets")

theorem validateRepeatability_post (v : PyValue) :
    DevicePost (validateRepeatability v) (fun _ => ∃ level ∈ VALID_REPEATABILITIES,
      v = .str level) := by
  refine post_mono (rejectIf_post invalid_value_stable) (fun _ h => ?_) (fun _ h => h)
  cases v with
  | str level => exact ⟨level, by simpa using h, rfl⟩
  | _ => cases h

theorem validateConfig_post (config : PyDict) :
    DevicePost (validateConfig config) (fun _ => Accepted config) := by
  refine post_seq (onlyAllowed_post _ _ _) (fun _ hkeys => ?_)
  refine post_seq (validateI2cKeys_post _ _ _ _ _) (fun _ hi2c => ?_)
  refine post_seq (validateAddressCandidates_post _ _ _) (fun _ hcandidates => ?_)
  refine post_seq (validateRepeatability_post _) (fun _ hlevel => ?_)
  refine post_mono (validateOffsets_post _ _) (fun _ hoffsets => ?_) (fun _ h => h)
  exact ⟨hkeys, hi2c, hcandidates, hlevel, hoffsets⟩

end Sht35

namespace Ltr390

structure Accepted (config : PyDict) : Prop where
  keys : ∀ key ∈ config.keys, key ∈ ALLOWED_CONFIG_KEYS
  i2c : IsI2cConfig DEFAULT_I2C_FREQ_HZ 100000 400000 config
  gain : ∃ n ∈ VALID_GAINS, (config.get? "gain").getD (.int 3) = .int n
  resolution : ∃ n ∈ VALID_RESOLUTIONS, (config.get? "resolution_bits").getD (.int 18) = .int n
  rate : ∃ n ∈ VALID_MEASUREMENT_RATES,
    (config.get? "measurement_rate_ms").getD (.int 200) = .int n
  windowFactor : IsNumberBetween 1 100
    ((config.get? "window_factor").getD (.float (.finite (.ofInt 1))))
  offsets : IsOffsets OFFSETS (config.getD "offsets")

theorem validateConfig_post (config : PyDict) :
    DevicePost (validateConfig config) (fun _ => Accepted config) := by
  refine post_seq (onlyAllowed_post _ _ _) (fun _ hkeys => ?_)
  refine post_seq (validateI2cKeys_post _ _ _ _ _) (fun _ hi2c => ?_)
  refine post_seq (intThat_post _ _ _) (fun gain hgain => ?_)
  refine post_seq (intThat_post _ _ _) (fun resolution hresolution => ?_)
  refine post_seq (intThat_post _ _ _) (fun rate hrate => ?_)
  refine post_seq (rejectIf_post invalid_value_stable) (fun _ _ => ?_)
  refine post_seq numberBetween_post (fun _ hwindow => ?_)
  refine post_mono (validateOffsets_post _ _) (fun _ hoffsets => ?_) (fun _ h => h)
  exact ⟨hkeys, hi2c, ⟨gain, by simpa using hgain.2, hgain.1⟩,
    ⟨resolution, by simpa using hresolution.2, hresolution.1⟩,
    ⟨rate, by simpa using hrate.2, hrate.1⟩, hwindow, hoffsets⟩

end Ltr390

namespace Ds18b20

structure Accepted (config : PyDict) : Prop where
  keys : ∀ key ∈ config.keys, key ∈ ALLOWED_CONFIG_KEYS
  pin : ∃ v pin, config.get? "pin" = some v ∧ IsPin v pin
  rom : ∃ rom, config.get? "rom" = some (.str rom) ∧ rom.toList.length = ROM_LENGTH ∧
    ∀ c ∈ rom.toList, c ∈ HEX_CHARS
  conversion : IsIntBetween 750 1000 ((config.get? "conversion_ms").getD (.int 750))
  offsets : IsOffsets OFFSETS (config.getD "offsets")

theorem validateRom_post (v : PyValue) :
    DevicePost (validateRom v) (fun _ => ∃ rom, v = .str rom ∧ rom.toList.length = ROM_LENGTH ∧
      ∀ c ∈ rom.toList, c ∈ HEX_CHARS) := by
  cases v with
  | str rom =>
    refine post_seq (rejectIf_post invalid_value_stable) (fun _ hlength => ?_)
    refine post_seq (rejectIf_post invalid_value_stable) (fun _ hhex => ?_)
    refine post_mono (rejectIf_post invalid_value_stable) (fun _ _ => ?_) (fun _ h => h)
    exact ⟨rom, rfl, by simpa using hlength, by simpa using hhex⟩
  | _ => exact refusal invalid_value_stable

theorem validateConfig_post (config : PyDict) :
    DevicePost (validateConfig config) (fun _ => Accepted config) := by
  refine post_seq (onlyAllowed_post _ _ _) (fun _ hkeys => ?_)
  refine post_seq (required_post _ _ _) (fun pin hpin => ?_)
  refine post_seq (validateUserGpioPin_post _ _) (fun n hn => ?_)
  refine post_seq (required_post _ _ _) (fun v hv => ?_)
  refine post_seq (validateRom_post _) ?_
  rintro _ ⟨rom, rfl, hrom⟩
  refine post_seq (intThat_post _ _ _) (fun ms hms => ?_)
  refine post_mono (validateOffsets_post _ _) (fun _ hoffsets => ?_) (fun _ h => h)
  exact ⟨hkeys, ⟨pin, n, hpin, hn⟩, ⟨rom, hv, hrom⟩, ⟨ms, hms.1, by simpa using hms.2⟩, hoffsets⟩

end Ds18b20

namespace Yl69Fc28

/-- A pin that is left out or a valid one; an explicit `None` is refused. -/
def IsPresentPin (v : Option PyValue) : Prop := v = none ∨ ∃ w pin, v = some w ∧ IsPin w pin

structure Accepted (config : PyDict) : Prop where
  keys : ∀ key ∈ config.keys, key ∈ ALLOWED_CONFIG_KEYS
  adcPin : ∃ n ∈ ADC_CAPABLE_PINS, config.get? "adc_pin" = some (.int n)
  digitalPin : IsPresentPin (config.get? "digital_pin")
  powerPin : IsPresentPin (config.get? "power_pin")
  activeLow : ∃ b, (config.get? "power_active_low").getD (.bool true) = .bool b
  settle : IsIntBetween 0 2000 ((config.get? "settle_ms").getD (.int 200))
  samples : IsIntBetween 1 101 ((config.get? "sample_count").getD (.int 9))
  sampleDelay : IsIntBetween 0 50 ((config.get? "sample_delay_ms").getD (.int 2))
  dry : ∃ v, config.get? "dry_raw" = some v ∧ IsIntBetween 0 65535 v
  wet : ∃ v, config.get? "wet_raw" = some v ∧ IsIntBetween 0 65535 v

theorem presentPin_post (config : PyDict) (key : String) :
    DevicePost (presentPin config key) (fun _ => IsPresentPin (config.get? key)) := by
  unfold presentPin
  cases h : config.get? key with
  | none => exact .inl rfl
  | some v => exact post_seq (validateUserGpioPin_post _ v) (fun pin hpin => .inr ⟨v, pin, rfl, hpin⟩)

theorem rejectPinOverlap_post (firstKey secondKey : String) (first second : Option Int) :
    DevicePost (rejectPinOverlap firstKey secondKey first second) (fun _ => True) := by
  unfold rejectPinOverlap
  split
  · exact post_mono (rejectIf_post invalid_value_stable) (fun _ _ => trivial) (fun _ h => h)
  · trivial

theorem rawCalibration_post (key : String) (config : PyDict) :
    DevicePost (rawCalibration key config) (fun _ => ∃ v, config.get? key = some v ∧
      IsIntBetween 0 65535 v) := by
  refine post_seq (required_post _ _ _) (fun v hv => ?_)
  exact post_mono (intThat_post _ _ v) (fun n hn => ⟨v, hv, n, hn.1, by simpa using hn.2⟩)
    (fun _ h => h)

theorem validateConfig_post (config : PyDict) :
    DevicePost (validateConfig config) (fun _ => Accepted config) := by
  refine post_seq (onlyAllowed_post _ _ _) (fun _ hkeys => ?_)
  refine post_seq (required_post _ _ _) (fun v hv => ?_)
  refine post_seq (intThat_post _ _ _) (fun adc hadc => ?_)
  refine post_seq (presentPin_post _ _) (fun digital hdigital => ?_)
  refine post_seq (presentPin_post _ _) (fun power hpower => ?_)
  refine post_seq (rejectPinOverlap_post _ _ _ _) (fun _ _ => ?_)
  refine post_seq (rejectPinOverlap_post _ _ _ _) (fun _ _ => ?_)
  refine post_seq (rejectPinOverlap_post _ _ _ _) (fun _ _ => ?_)
  cases hactive : (config.get? "power_active_low").getD (.bool true) with
  | bool b =>
    refine post_seq (intBetween_post _ _ _ _) (fun settle hsettle => ?_)
    refine post_seq (intThat_post _ _ _) (fun samples hsamples => ?_)
    refine post_seq (intBetween_post _ _ _ _) (fun delay hdelay => ?_)
    refine post_seq (rawCalibration_post _ _) (fun dry hdry => ?_)
    refine post_seq (rawCalibration_post _ _) (fun wet hwet => ?_)
    refine post_mono (rejectIf_post invalid_value_stable) (fun _ _ => ?_) (fun _ h => h)
    have hsamples' : 1 ≤ samples ∧ samples ≤ 101 := by
      have := hsamples.2
      simp only [Bool.and_eq_true, decide_eq_true_eq] at this
      exact this.1
    exact ⟨hkeys, ⟨adc, by simpa using hadc.2, by rw [hv, hadc.1]⟩, hdigital, hpower, ⟨b, hactive⟩,
      ⟨settle, hsettle⟩, ⟨samples, hsamples.1, hsamples'⟩, ⟨delay, hdelay⟩, hdry, hwet⟩
  | _ => exact refusal invalid_value_stable

end Yl69Fc28

/-- A configuration that the validator of its device type has let through. -/
inductive DeviceAccepted : String → PyDict → Prop
  | bme280 {config : PyDict} (h : Bme280.Accepted config) : DeviceAccepted "bme280" config
  | ltr390 {config : PyDict} (h : Ltr390.Accepted config) : DeviceAccepted "ltr390" config
  | ds18b20 {config : PyDict} (h : Ds18b20.Accepted config) : DeviceAccepted "ds18b20" config
  | sht35 {config : PyDict} (h : Sht35.Accepted config) : DeviceAccepted "sht35" config
  | yl69_fc28 {config : PyDict} (h : Yl69Fc28.Accepted config) : DeviceAccepted "yl69_fc28" config

theorem validateDeviceConfig_post (deviceType : String) (config : PyDict) :
    DevicePost (validateDeviceConfig deviceType config) (fun _ => DeviceAccepted deviceType config) := by
  unfold validateDeviceConfig
  by_cases h1 : deviceType = "bme280"
  · subst h1
    exact post_mono (Bme280.validateConfig_post config) (fun _ h => .bme280 h) (fun _ h => h)
  by_cases h2 : deviceType = "ltr390"
  · subst h2
    exact post_mono (Ltr390.validateConfig_post config) (fun _ h => .ltr390 h) (fun _ h => h)
  by_cases h3 : deviceType = "ds18b20"
  · subst h3
    exact post_mono (Ds18b20.validateConfig_post config) (fun _ h => .ds18b20 h) (fun _ h => h)
  by_cases h4 : deviceType = "sht35"
  · subst h4
    exact post_mono (Sht35.validateConfig_post config) (fun _ h => .sht35 h) (fun _ h => h)
  by_cases h5 : deviceType = "yl69_fc28"
  · subst h5
    exact post_mono (Yl69Fc28.validateConfig_post config) (fun _ h => .yl69_fc28 h) (fun _ h => h)
  have hnone : deviceRegistry.lookup deviceType = none := by
    simp [deviceRegistry, List.lookup_cons, beq_eq_false_iff_ne.mpr, h1, h2, h3, h4, h5]
  rw [hnone]
  exact refusal (by decide)

structure AcceptedDefinition (definition : PyDict) (deviceType : String) (config : PyDict) :
    Prop where
  keys : ∀ key ∈ definition.keys, key ∈ DEVICE_DEFINITION_KEYS
  id : ∃ deviceId, definition.getD "id" = .str deviceId ∧
    deviceId.utf8ByteSize ≤ MAX_DEVICE_ID_LENGTH
  type : definition.getD "device_type" = .str deviceType
  body : definition.getD "config" = .dict config
  name : definition.getD "name" = .none ∨ ∃ name, definition.getD "name" = .str name ∧
    name.utf8ByteSize ≤ MAX_DEVICE_NAME_LENGTH
  accepted : DeviceAccepted deviceType config
  valid : validateDeviceConfig deviceType config = .ok ()

theorem validateName_post (v : PyValue) :
    DevicePost (validateName v) (fun _ => v = .none ∨ ∃ name, v = .str name ∧
      name.utf8ByteSize ≤ MAX_DEVICE_NAME_LENGTH) := by
  cases v with
  | none => exact .inl rfl
  | str name =>
    refine post_mono (rejectIf_post invalid_value_stable) (fun _ h => ?_) (fun _ h => h)
    exact .inr ⟨name, rfl, by simpa using h⟩
  | _ => exact refusal invalid_value_stable

theorem nonEmptyStr?_some {v : PyValue} {s : String} (h : nonEmptyStr? v = some s) :
    v = .str s ∧ s.toList ≠ [] := by
  cases v with
  | str t =>
    simp only [nonEmptyStr?, List.isEmpty_iff] at h
    by_cases ht : t.toList = []
    · simp [ht] at h
    · obtain rfl : t = s := by simpa [ht] using h
      exact ⟨rfl, ht⟩
  | _ => cases h

theorem validateDeviceDefinition_post (definition : PyDict) :
    DevicePost (validateDeviceDefinition definition)
      (fun _ => ∃ deviceType config, AcceptedDefinition definition deviceType config) := by
  unfold validateDeviceDefinition
  refine post_seq (Q := fun _ => True) ?_ (fun _ _ => ?_)
  · refine post_mono (post_forM (P := fun _ => True) _ (fun key _ => ?_)) (fun _ _ => trivial)
      (fun _ h => h)
    exact post_mono (rejectIf_post (by decide)) (fun _ _ => trivial) (fun _ h => h)
  refine post_seq (onlyAllowed_post "device definition" DEVICE_DEFINITION_KEYS definition)
    (fun _ hkeys => ?_)
  cases hid : nonEmptyStr? (definition.getD "id") with
  | none => exact refusal invalid_value_stable
  | some deviceId =>
    refine post_seq (rejectIf_post invalid_value_stable) (fun _ hlength => ?_)
    cases htype : nonEmptyStr? (definition.getD "device_type") with
    | none => exact refusal invalid_value_stable
    | some deviceType =>
      cases hbody : definition.getD "config" with
      | dict config =>
        refine post_seq (validateName_post _) (fun _ hname => ?_)
        refine post_mono (post_self (validateDeviceConfig_post _ _)) (fun _ haccepted => ?_)
          (fun _ h => h)
        exact ⟨deviceType, config, hkeys,
          ⟨deviceId, (nonEmptyStr?_some hid).1, by simpa using hlength⟩,
          (nonEmptyStr?_some htype).1, hbody, hname, haccepted.1, haccepted.2⟩
      | _ => exact refusal invalid_value_stable

end PicoDualCore
