import PicoDualCore.ConfigSpec
import PicoDualCore.JsonSize
set_option autoImplicit false

namespace PicoDualCore
open Json

/-- The longest text of a double precision float. -/
def FLOAT_TEXT : Nat := 24

theorem IsIntBetween.size_le {low high : Int} {v : PyValue} {k : Nat} (h : IsIntBetween low high v)
    (hk : 0 < k) (hlow : 0 ≤ low) (hhigh : high < 10 ^ k) : size 1 v ≤ k := by
  obtain ⟨n, rfl, hn⟩ := h
  have habs : (n.natAbs : Int) < ((10 ^ k : Nat) : Int) := by
    rw [Int.natAbs_of_nonneg (by omega)]
    push_cast
    omega
  exact size_nat_le hk (by omega) (Int.ofNat_lt.mp habs) 1

theorem IsOptionalPin.size_le {v : PyValue} (h : IsOptionalPin v) : size 1 v ≤ 4 := by
  cases h with
  | inl hnone =>
    subst hnone
    exact Nat.le_refl 4
  | inr hpin =>
    obtain ⟨pin, rfl, hmem⟩ := hpin
    have hall : ∀ pin ∈ USER_GPIO_PINS, 0 ≤ pin ∧ pin.natAbs < 10 ^ 4 := by decide
    exact size_nat_le (by decide) (hall pin hmem).1 (hall pin hmem).2 1

theorem IsCandidates.size_le {valid : List Int} {v : PyValue} (h : IsCandidates valid v)
    (hcount : valid.length ≤ 2) (hvalid : ∀ a ∈ valid, 0 ≤ a ∧ a.natAbs < 10 ^ 3) :
    size 1 v ≤ 12 := by
  cases h with
  | inl hnone =>
    subst hnone
    exact (by decide : 4 ≤ 12)
  | inr hlist =>
    obtain ⟨addresses, rfl, -, hnodup, hmem⟩ := hlist
    have hlength : addresses.length ≤ 2 :=
      Nat.le_trans (List.subperm_of_subset hnodup hmem).length_le hcount
    have hsize : size 1 (.list (addresses.map .int)) ≤ 2 + (addresses.map PyValue.int).length * 5 := by
      refine size_list_le (fun item hitem => ?_)
      obtain ⟨a, ha, rfl⟩ := List.mem_map.mp hitem
      exact size_nat_le (by decide) (hvalid a (hmem a ha)).1 (hvalid a (hmem a ha)).2 1
    rw [List.length_map] at hsize
    omega

theorem size_number_le {v : PyValue} {d : Decimal} (hd : finiteNumber? v = some d)
    (hv : Loaded FLOAT_TEXT v) (hint : ∀ n, v = .int n → n.natAbs < 10 ^ 23) :
    size 1 v ≤ FLOAT_TEXT := by
  cases v with
  | int n => exact size_int_le (by decide) (hint n rfl) 1
  | float f => exact hv.float 1
  | _ => cases hd

theorem IsNumberBetween.size_le {low high : Int} {v : PyValue} (h : IsNumberBetween low high v)
    (hv : Loaded FLOAT_TEXT v) (hlow : 0 ≤ low) (hhigh : high < 10 ^ 23) :
    size 1 v ≤ FLOAT_TEXT := by
  obtain ⟨d, hd, hl, hh⟩ := h
  refine size_number_le hd hv (fun n hn => ?_)
  subst hn
  cases hd
  simp only [Decimal.le, Decimal.ofInt, Decimal.scaled, Int.min_self, Int.sub_self, Int.toNat_zero,
    Int.pow_zero, Int.mul_one, decide_eq_true_eq] at hl hh
  omega

def offsetBounds (known : List Offset) : List (String × Nat) :=
  known.map (fun offset => (offset.key, FLOAT_TEXT))

theorem IsOffsets.size_le {known : List Offset} {v : PyValue} (h : IsOffsets known v)
    (hv : Loaded FLOAT_TEXT v) (hnone : 4 ≤ dictBound (offsetBounds known))
    (hknown : ∀ offset ∈ known, offset.bound.exponent = 0 ∧ offset.bound.mantissa < 10 ^ 23) :
    size 1 v ≤ dictBound (offsetBounds known) := by
  cases h with
  | inl heq =>
    subst heq
    exact hnone
  | inr hdict =>
    obtain ⟨offsets, rfl, hall⟩ := hdict
    refine size_dict_le hv.nodup (fun item hitem => ?_)
    obtain ⟨offset, hoffset, hkey, d, hd, hle⟩ := hall item hitem
    obtain ⟨hstr, -, hloaded⟩ := hv.members item hitem
    refine ⟨_, List.mem_map_of_mem hoffset, by rw [hstr, hkey], ?_⟩
    obtain ⟨hexponent, hsmall⟩ := hknown offset hoffset
    refine size_number_le hd hloaded (fun n hn => ?_)
    rw [hn] at hd
    cases hd
    simp only [Decimal.le, Decimal.ofInt, Decimal.abs, Decimal.scaled, hexponent, Int.min_self,
      Int.sub_self,
      Int.toNat_zero, Int.pow_zero, Int.mul_one, decide_eq_true_eq] at hle
    omega

/-- An object with known names, each value of a bounded size. -/
theorem size_fields_le {items : PyDict} {bounds : List (String × Nat)}
    (hv : Loaded FLOAT_TEXT (.dict items)) (hkeys : ∀ key ∈ items.keys, key ∈ bounds.map Prod.fst)
    (hb : ∀ bound ∈ bounds, ∀ v, items.get? bound.1 = some v → Loaded FLOAT_TEXT v →
      size 1 v ≤ bound.2) : size 1 (.dict items) ≤ dictBound bounds := by
  refine size_dict_le hv.nodup (fun item hitem => ?_)
  obtain ⟨hstr, hget, hloaded⟩ := hv.members item hitem
  obtain ⟨bound, hbound, hname⟩ := List.mem_map.mp (hkeys _ (List.mem_map_of_mem hitem))
  refine ⟨bound, hbound, by rw [hstr, hname], hb bound hbound item.2 ?_ hloaded⟩
  rw [hname]
  exact hget

theorem present {P : PyValue → Prop} {config : PyDict} {key : String} {d v : PyValue}
    (h : P ((config.get? key).getD d)) (hv : config.get? key = some v) : P v := by
  rw [hv] at h
  exact h

theorem IsI2cConfig.sizes {defaultFreq low high : Int} {config : PyDict}
    (h : IsI2cConfig defaultFreq low high config) (hlow : 0 ≤ low) (hhigh : high < 10 ^ 7) :
    ∀ bound ∈ [("i2c_bus", 1), ("i2c_sda_pin", 4), ("i2c_scl_pin", 4), ("i2c_freq_hz", 7)],
      ∀ v, config.get? bound.1 = some v → Loaded FLOAT_TEXT v → size 1 v ≤ bound.2 := by
  simp only [List.forall_mem_cons]
  refine ⟨fun v hv _ => ?_, fun v hv _ => ?_, fun v hv _ => ?_, fun v hv _ => ?_,
    fun _ h => absurd h List.not_mem_nil⟩
  · obtain ⟨n, hn, hbus⟩ := h.bus
    have hbetween : IsIntBetween 0 1 v := ⟨n, by rw [hv] at hn; exact Option.some.inj hn, hbus⟩
    exact hbetween.size_le (by decide) (by decide) (by decide)
  · exact (present h.sda hv).size_le
  · exact (present h.scl hv).size_le
  · exact (present h.freq hv).size_le (by decide) hlow hhigh

namespace Bme280

def SIZES : List (String × Nat) :=
  [("i2c_bus", 1), ("i2c_sda_pin", 4), ("i2c_scl_pin", 4), ("i2c_freq_hz", 7)] ++
  [("i2c_address_candidates", 12), ("temperature_oversampling", 1), ("pressure_oversampling", 1),
    ("humidity_oversampling", 1), ("iir_filter", 1), ("sea_level_pressure_pa", FLOAT_TEXT),
    ("offsets", dictBound (offsetBounds OFFSETS))]

theorem Accepted.size_le {config : PyDict} (h : Accepted config)
    (hv : Loaded FLOAT_TEXT (.dict config)) : size 1 (.dict config) ≤ dictBound SIZES := by
  refine size_fields_le hv h.keys ?_
  rw [SIZES, List.forall_mem_append]
  refine ⟨h.i2c.sizes (by decide) (by decide), ?_⟩
  simp only [List.forall_mem_cons]
  refine ⟨fun v hv _ => ?_, fun v hv _ => ?_, fun v hv _ => ?_, fun v hv _ => ?_,
    fun v hv _ => ?_, fun v hv hl => ?_, fun v hv hl => ?_, fun _ h => absurd h List.not_mem_nil⟩
  · exact (present h.candidates hv).size_le (by decide) (by decide)
  · exact (present h.temperature hv).size_le (by decide) (by decide) (by decide)
  · exact (present h.pressure hv).size_le (by decide) (by decide) (by decide)
  · exact (present h.humidity hv).size_le (by decide) (by decide) (by decide)
  · exact (present h.filter hv).size_le (by decide) (by decide) (by decide)
  · obtain ⟨w, hw, hnumber⟩ := h.seaLevel
    rw [hv] at hw
    cases hw
    exact hnumber.size_le hl (by decide) (by decide)
  · exact (present h.offsets hv).size_le hl (by decide) (by decide)

end Bme280

namespace Sht35

def SIZES : List (String × Nat) :=
  [("i2c_bus", 1), ("i2c_sda_pin", 4), ("i2c_scl_pin", 4), ("i2c_freq_hz", 7)] ++
  [("i2c_address_candidates", 12), ("repeatability", 8),
    ("offsets", dictBound (offsetBounds OFFSETS))]

theorem Accepted.size_le {config : PyDict} (h : Accepted config)
    (hv : Loaded FLOAT_TEXT (.dict config)) : size 1 (.dict config) ≤ dictBound SIZES := by
  refine size_fields_le hv h.keys ?_
  rw [SIZES, List.forall_mem_append]
  refine ⟨h.i2c.sizes (by decide) (by decide), ?_⟩
  simp only [List.forall_mem_cons]
  refine ⟨fun v hv _ => ?_, fun v hv _ => ?_, fun v hv hl => ?_,
    fun _ h => absurd h List.not_mem_nil⟩
  · exact (present h.candidates hv).size_le (by decide) (by decide)
  · obtain ⟨level, hlevel, heq⟩ := h.repeatability
    rw [hv] at heq
    simp only [Option.getD_some] at heq
    subst heq
    have hall : ∀ level ∈ VALID_REPEATABILITIES, size 1 (.str level) ≤ 8 := by decide
    exact hall level hlevel
  · exact (present h.offsets hv).size_le hl (by decide) (by decide)

end Sht35

namespace Ltr390

def SIZES : List (String × Nat) :=
  [("i2c_bus", 1), ("i2c_sda_pin", 4), ("i2c_scl_pin", 4), ("i2c_freq_hz", 7)] ++
  [("gain", 2), ("resolution_bits", 2), ("measurement_rate_ms", 4), ("window_factor", FLOAT_TEXT),
    ("offsets", dictBound (offsetBounds OFFSETS))]

theorem Accepted.size_le {config : PyDict} (h : Accepted config)
    (hv : Loaded FLOAT_TEXT (.dict config)) : size 1 (.dict config) ≤ dictBound SIZES := by
  have hgains : ∀ n ∈ VALID_GAINS, size 1 (.int n) ≤ 2 := by decide
  have hresolutions : ∀ n ∈ VALID_RESOLUTIONS, size 1 (.int n) ≤ 2 := by decide
  have hrates : ∀ n ∈ VALID_MEASUREMENT_RATES, size 1 (.int n) ≤ 4 := by decide
  refine size_fields_le hv h.keys ?_
  rw [SIZES, List.forall_mem_append]
  refine ⟨h.i2c.sizes (by decide) (by decide), ?_⟩
  simp only [List.forall_mem_cons]
  refine ⟨fun v hv _ => ?_, fun v hv _ => ?_, fun v hv _ => ?_, fun v hv hl => ?_,
    fun v hv hl => ?_, fun _ h => absurd h List.not_mem_nil⟩
  · obtain ⟨n, hn, rfl⟩ := present (P := fun v => ∃ n ∈ VALID_GAINS, v = .int n) h.gain hv
    exact hgains n hn
  · obtain ⟨n, hn, rfl⟩ :=
      present (P := fun v => ∃ n ∈ VALID_RESOLUTIONS, v = .int n) h.resolution hv
    exact hresolutions n hn
  · obtain ⟨n, hn, rfl⟩ :=
      present (P := fun v => ∃ n ∈ VALID_MEASUREMENT_RATES, v = .int n) h.rate hv
    exact hrates n hn
  · exact (present h.windowFactor hv).size_le hl (by decide) (by decide)
  · exact (present h.offsets hv).size_le hl (by decide) (by decide)

end Ltr390

namespace Ds18b20

def SIZES : List (String × Nat) :=
  [("pin", 4), ("rom", 66), ("conversion_ms", 4), ("offsets", dictBound (offsetBounds OFFSETS))]

theorem Accepted.size_le {config : PyDict} (h : Accepted config)
    (hv : Loaded FLOAT_TEXT (.dict config)) : size 1 (.dict config) ≤ dictBound SIZES := by
  refine size_fields_le hv h.keys ?_
  simp only [SIZES, List.forall_mem_cons]
  refine ⟨fun v hv _ => ?_, fun v hv _ => ?_, fun v hv _ => ?_, fun v hv hl => ?_,
    fun _ h => absurd h List.not_mem_nil⟩
  · obtain ⟨w, pin, hw, hpin⟩ := h.pin
    rw [hv] at hw
    cases hw
    exact IsOptionalPin.size_le (.inr ⟨pin, hpin⟩)
  · obtain ⟨rom, hrom, hlength, -⟩ := h.rom
    rw [hv] at hrom
    cases hrom
    have := textSize_le_length rom
    rw [hlength, ROM_LENGTH] at this
    exact this
  · exact (present h.conversion hv).size_le (by decide) (by decide) (by decide)
  · exact (present h.offsets hv).size_le hl (by decide) (by decide)

end Ds18b20

namespace Yl69Fc28

def SIZES : List (String × Nat) :=
  [("adc_pin", 4), ("digital_pin", 4), ("power_pin", 4), ("power_active_low", 5), ("settle_ms", 4),
    ("sample_count", 3), ("sample_delay_ms", 2), ("dry_raw", 5), ("wet_raw", 5)]

theorem IsPresentPin.size_le {config : PyDict} {key : String} {v : PyValue}
    (h : IsPresentPin (config.get? key)) (hv : config.get? key = some v) : size 1 v ≤ 4 := by
  rw [hv] at h
  cases h with
  | inl hnone => cases hnone
  | inr hpin =>
    obtain ⟨w, pin, hw, hpin⟩ := hpin
    cases hw
    exact IsOptionalPin.size_le (.inr ⟨pin, hpin⟩)

theorem Accepted.size_le {config : PyDict} (h : Accepted config)
    (hv : Loaded FLOAT_TEXT (.dict config)) : size 1 (.dict config) ≤ dictBound SIZES := by
  have hadc : ∀ n ∈ ADC_CAPABLE_PINS, size 1 (.int n) ≤ 4 := by decide
  refine size_fields_le hv h.keys ?_
  simp only [SIZES, List.forall_mem_cons]
  refine ⟨fun v hv _ => ?_, fun v hv _ => ?_, fun v hv _ => ?_, fun v hv _ => ?_,
    fun v hv _ => ?_, fun v hv _ => ?_, fun v hv _ => ?_, fun v hv _ => ?_, fun v hv _ => ?_,
    fun _ h => absurd h List.not_mem_nil⟩
  · obtain ⟨n, hn, hw⟩ := h.adcPin
    rw [hv] at hw
    cases hw
    exact hadc n hn
  · exact h.digitalPin.size_le hv
  · exact h.powerPin.size_le hv
  · obtain ⟨b, rfl⟩ := present (P := fun v => ∃ b, v = .bool b) h.activeLow hv
    cases b <;> decide
  · exact (present h.settle hv).size_le (by decide) (by decide) (by decide)
  · exact (present h.samples hv).size_le (by decide) (by decide) (by decide)
  · exact (present h.sampleDelay hv).size_le (by decide) (by decide) (by decide)
  · obtain ⟨w, hw, hraw⟩ := h.dry
    rw [hv] at hw
    cases hw
    exact hraw.size_le (by decide) (by decide) (by decide)
  · obtain ⟨w, hw, hraw⟩ := h.wet
    rw [hv] at hw
    cases hw
    exact hraw.size_le (by decide) (by decide) (by decide)

end Yl69Fc28

def DEVICE_CONFIG_SIZE : Nat := 426

theorem DeviceAccepted.size_le {deviceType : String} {config : PyDict}
    (h : DeviceAccepted deviceType config) (hv : Loaded FLOAT_TEXT (.dict config)) :
    size 1 (.dict config) ≤ DEVICE_CONFIG_SIZE := by
  cases h with
  | bme280 h => exact Nat.le_trans (h.size_le hv) (by decide)
  | ltr390 h => exact Nat.le_trans (h.size_le hv) (by decide)
  | ds18b20 h => exact Nat.le_trans (h.size_le hv) (by decide)
  | sht35 h => exact Nat.le_trans (h.size_le hv) (by decide)
  | yl69_fc28 h => exact Nat.le_trans (h.size_le hv) (by decide)

def DEFINITION_SIZES : List (String × Nat) :=
  [("id", 130), ("device_type", 11), ("config", DEVICE_CONFIG_SIZE), ("name", 130)]

def DEFINITION_SIZE : Nat := 746

theorem size_shortText_le {s : String} (h : s.utf8ByteSize ≤ 64) : size 1 (.str s) ≤ 130 := by
  have := textSize_le s
  rw [size]
  omega

theorem PyDict.getD_of_get? {d : PyDict} {key : String} {v : PyValue} (h : d.get? key = some v) :
    d.getD key = v := by
  rw [PyDict.getD, h]
  rfl

theorem IsDefinition.size_le {definition : PyDict} (h : IsDefinition definition)
    (hv : Loaded FLOAT_TEXT (.dict definition)) :
    size 1 (.dict definition) ≤ DEFINITION_SIZE := by
  obtain ⟨deviceType, config, h⟩ := h
  have hbound : dictBound DEFINITION_SIZES ≤ DEFINITION_SIZE := by decide
  refine Nat.le_trans ?_ hbound
  refine size_fields_le hv h.keys ?_
  simp only [DEFINITION_SIZES, List.forall_mem_cons]
  refine ⟨fun v hv _ => ?_, fun v hv _ => ?_, fun v hv hl => ?_, fun v hv _ => ?_,
    fun _ h => absurd h List.not_mem_nil⟩
  · obtain ⟨deviceId, hid, hlength⟩ := h.id
    rw [← PyDict.getD_of_get? hv, hid]
    exact size_shortText_le hlength
  · rw [← PyDict.getD_of_get? hv, h.type]
    cases h.accepted <;> decide
  · have heq : v = .dict config := by rw [← PyDict.getD_of_get? hv, h.body]
    subst heq
    exact h.accepted.size_le hl
  · rw [← PyDict.getD_of_get? hv]
    cases h.name with
    | inl hnone =>
      rw [hnone]
      exact (by decide : 4 ≤ 130)
    | inr hname =>
      obtain ⟨name, hname, hlength⟩ := hname
      rw [hname]
      exact size_shortText_le hlength

def CONFIG_SIZES : List (String × Nat) :=
  [("config_schema_version", 2), ("source", 130), ("mqtt_broker_ip_address", 62),
    ("wifi_reconnect_delays_sec", 162), ("mqtt_reconnect_delays_sec", 162),
    ("devices", 2 + MAX_DEVICES * (DEFINITION_SIZE + 2))] ++
  MQTT_TOPIC_KEYS.map (fun key => (key, 246)) ++
  INTEGER_BOUNDS.map (fun bound => (bound.1, (natText bound.2.natAbs).length))

def CONFIG_SIZE : Nat := 15281

theorem IsIpv4.length_le {address : String} (h : IsIpv4 address) : address.toList.length ≤ 15 := by
  have hjoin : ['.'].intercalate (address.toList.splitOn '.') = address.toList :=
    List.intercalate_splitOn '.'
  have hparts := h.parts
  have hpart : ∀ part ∈ address.toList.splitOn '.', part.length ≤ 3 := by
    intro part hmem
    have hdigits := h.digits part hmem
    simp only [ipv4Part, Bool.and_eq_true, decide_eq_true_eq] at hdigits
    exact hdigits.1.1.1.2
  generalize address.toList.splitOn '.' = parts at hjoin hparts hpart
  match parts, hparts with
  | [a, b, c, d], _ =>
    have ha := hpart a (by simp)
    have hb := hpart b (by simp)
    have hc := hpart c (by simp)
    have hd := hpart d (by simp)
    rw [← hjoin]
    simp [List.intercalate]
    omega

theorem IsTopic.size_le {v : PyValue} {topic : String} (h : IsTopic v topic) : size 1 v ≤ 246 := by
  have hascii : ∀ c ∈ topic.toList, c.toNat < 128 := by
    intro c hc
    have := h.ascii c hc
    simp only [topicChar, Bool.and_eq_true, decide_eq_true_eq] at this
    omega
  have hbytes := length_utf8_of_ascii hascii
  rw [length_utf8_toList] at hbytes
  have hshort := h.short
  have hsize := textSize_le topic
  rw [h.text.1, size]
  simp only [MAX_MQTT_TOPIC_BYTES] at hshort
  omega

theorem IsDelays.size_le {v : PyValue} (h : IsDelays v) : size 1 v ≤ 162 := by
  obtain ⟨delays, rfl, -, hcount, hall⟩ := h
  have hsize : ∀ delay ∈ delays, size 1 delay ≤ 3 := fun delay hdelay =>
    (hall delay hdelay).size_le (by decide) (by decide) (by decide)
  have := size_list_le hsize
  simp only [MAX_RECONNECT_ATTEMPTS] at hcount
  omega

theorem IsDevices.size_le {v : PyValue} (h : IsDevices v) (hv : Loaded FLOAT_TEXT v) :
    size 1 v ≤ 2 + MAX_DEVICES * (DEFINITION_SIZE + 2) := by
  obtain ⟨devices, rfl, -, hcount, hall⟩ := h
  have hsize : size 1 (.list (devices.map .dict)) ≤
      2 + (devices.map PyValue.dict).length * (DEFINITION_SIZE + 2) := by
    refine size_list_le (fun item hitem => ?_)
    obtain ⟨definition, hdefinition, rfl⟩ := List.mem_map.mp hitem
    exact (hall definition hdefinition).size_le (hv.items _ hitem)
  rw [List.length_map] at hsize
  have := Nat.mul_le_mul_right (DEFINITION_SIZE + 2) hcount
  omega

theorem AcceptedConfig.size_le {items : PyDict} (h : AcceptedConfig items)
    (hv : Loaded FLOAT_TEXT (.dict items)) :
    size 1 (.dict items) ≤ CONFIG_SIZE := by
  have hknown : ∀ key ∈ REQUIRED_KEYS, key ∈ CONFIG_SIZES.map Prod.fst := by decide
  have hbound : dictBound CONFIG_SIZES ≤ CONFIG_SIZE := by decide
  refine Nat.le_trans ?_ hbound
  refine size_fields_le hv (fun key hkey => hknown key (h.keys key hkey)) ?_
  rw [CONFIG_SIZES, List.forall_mem_append, List.forall_mem_append]
  refine ⟨⟨?_, ?_⟩, ?_⟩
  · simp only [List.forall_mem_cons]
    refine ⟨fun v hv _ => ?_, fun v hv _ => ?_, fun v hv _ => ?_, fun v hv _ => ?_,
      fun v hv _ => ?_, fun v hv hl => ?_, fun _ h => absurd h List.not_mem_nil⟩ <;>
      rw [← PyDict.getD_of_get? hv]
    · rw [h.version]
      decide
    · obtain ⟨source, hsource, hlength⟩ := h.source
      rw [hsource.1]
      exact size_shortText_le hlength
    · obtain ⟨broker, hbroker, hquad⟩ := h.broker
      have hlength := hquad.length_le
      have := textSize_le_length broker
      rw [hbroker.1, size]
      omega
    · exact h.wifiDelays.size_le
    · exact h.mqttDelays.size_le
    · exact h.devices.size_le (by rw [PyDict.getD_of_get? hv]; exact hl)
  · simp only [List.forall_mem_map]
    intro key hkey v hv _
    obtain ⟨topic, htopic⟩ := h.topics key hkey
    rw [← PyDict.getD_of_get? hv]
    exact htopic.size_le
  · have hdigits : ∀ bound ∈ INTEGER_BOUNDS, 0 < (natText bound.2.natAbs).length ∧
        bound.2 < 10 ^ (natText bound.2.natAbs).length := by decide
    simp only [List.forall_mem_map]
    intro bound hbound v hv _
    rw [← PyDict.getD_of_get? hv]
    exact (h.integers bound hbound).size_le (hdigits bound hbound).1 (by decide)
      (hdigits bound hbound).2

end PicoDualCore
