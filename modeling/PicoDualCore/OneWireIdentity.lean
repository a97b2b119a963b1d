import PicoDualCore.SensorExclusivity
import PicoDualCore.DriverSpec
set_option autoImplicit false

/-!
Which physical sensor a DS18B20 definition names, and that validation does not look at it: the
ROMs of an accepted configuration can be replaced by any others.
-/

namespace PicoDualCore
open ExceptPost

def oneWireRom? (device : PyDict) : Option (Int × Bytes) :=
  let config := deviceConfig device
  let rom := do
    let rom ← config.subscript "rom"
    let romHex ← Ds18b20.lowered rom
    Ds18b20.fromHex romHex.toList
  if isType device "ds18b20" then
    match config.getD "pin", rom with
    | .int pin, .ok rom => some (pin, rom)
    | _, _ => none
  else none

def configDevices (items : PyDict) : List PyDict :=
  match items.getD "devices" with
  | .list devices => devices.filterMap (fun device => match device with
    | .dict device => some device
    | _ => none)
  | _ => []

/-- The two do not name one sensor. -/
def OtherSensor (a b : PyDict) : Prop :=
  ∀ sensor, oneWireRom? a = some sensor → oneWireRom? b ≠ some sensor

def OtherPin (a b : PyDict) : Prop :=
  isType a "ds18b20" = true → isType b "ds18b20" = true →
    (deviceConfig a).getD "pin" ≠ (deviceConfig b).getD "pin"

/-- `config["rom"].lower()`. -/
def romText (device : PyDict) : List Char :=
  match (deviceConfig device).getD "rom" with
  | .str rom => rom.toList.map Char.toLower
  | _ => []

/-- On one pin the texts of the ROMs differ by more than the case of their letters. -/
def SpelledApart (a b : PyDict) : Prop :=
  isType a "ds18b20" = true → isType b "ds18b20" = true →
    (deviceConfig a).getD "pin" = (deviceConfig b).getD "pin" → romText a ≠ romText b

namespace Ds18b20

theorem hexValue_lower {c : Char} (h : c ∈ HEX_CHARS) :
    ∃ n, Json.hexValue c.toLower = some n ∧ n < 16 := by
  have hall : HEX_CHARS.all (fun c => (Json.hexValue c.toLower).any (fun n => n < 16)) = true := by
    decide
  have hc := List.all_eq_true.mp hall c h
  rw [Option.any_eq_true] at hc
  obtain ⟨n, hn, hlt⟩ := hc
  exact ⟨n, hn, by simpa using hlt⟩

theorem digitChar_hexValue {c : Char} (h : c ∈ HEX_CHARS) :
    (Json.hexValue c.toLower).map Nat.digitChar = some c.toLower := by
  have hall : HEX_CHARS.all (fun c =>
      (Json.hexValue c.toLower).map Nat.digitChar == some c.toLower) = true := by decide
  exact eq_of_beq (List.all_eq_true.mp hall c h)

theorem hexValue_injOn {c d : Char} (hc : c ∈ HEX_CHARS) (hd : d ∈ HEX_CHARS)
    (h : Json.hexValue c.toLower = Json.hexValue d.toLower) : c.toLower = d.toLower := by
  have hsame := digitChar_hexValue hc
  rw [h, digitChar_hexValue hd, Option.some.injEq] at hsame
  exact hsame.symm

/-- The bytes tell the texts apart. -/
theorem fromHex_inj (n : Nat) {text other : List Char} (hlength : text.length = 2 * n)
    (hother : other.length = 2 * n) (hchars : ∀ c ∈ text, c ∈ HEX_CHARS)
    (hothers : ∀ c ∈ other, c ∈ HEX_CHARS) {bytes : Bytes}
    (h : fromHex (text.map Char.toLower) = .ok bytes)
    (h' : fromHex (other.map Char.toLower) = .ok bytes) :
    text.map Char.toLower = other.map Char.toLower := by
  induction n generalizing text other bytes with
  | zero =>
    obtain rfl : text = [] := List.length_eq_zero_iff.mp hlength
    obtain rfl : other = [] := List.length_eq_zero_iff.mp hother
    rfl
  | succ n ih =>
    match text, other, hlength, hother with
    | c :: d :: rest, c' :: d' :: rest', hlength, hother =>
      simp only [List.length_cons] at hlength hother
      simp only [List.forall_mem_cons] at hchars hothers
      obtain ⟨hc, hd, hrest⟩ := hchars
      obtain ⟨hc', hd', hrest'⟩ := hothers
      obtain ⟨x, hx, hxlt⟩ := hexValue_lower hc
      obtain ⟨y, hy, hylt⟩ := hexValue_lower hd
      obtain ⟨x', hx', hxlt'⟩ := hexValue_lower hc'
      obtain ⟨y', hy', hylt'⟩ := hexValue_lower hd'
      simp only [List.map_cons, fromHex, hx, hy, hx', hy'] at h h'
      obtain ⟨tail, htail, hbytes⟩ := seq_ok h
      obtain ⟨tail', htail', hbytes'⟩ := seq_ok h'
      cases hbytes
      obtain ⟨hbyte, rfl⟩ : UInt8.ofNat (16 * x' + y') = UInt8.ofNat (16 * x + y) ∧ tail' = tail := by
        simpa [pure, Except.pure] using hbytes'
      have hnat := congrArg UInt8.toNat hbyte
      simp only [UInt8.toNat_ofNat'] at hnat
      have hsame := ih (by omega) (by omega) hrest hrest' htail htail'
      have hcc : c.toLower = c'.toLower := hexValue_injOn hc hc' (by
        rw [hx, hx']
        congr 1
        omega)
      have hdd : d.toLower = d'.toLower := hexValue_injOn hd hd' (by
        rw [hy, hy']
        congr 1
        omega)
      simp only [List.map_cons, hcc, hdd, hsame]

end Ds18b20

structure NamesRom (device : PyDict) (pin : Int) (rom : String) : Prop where
  type : isType device "ds18b20" = true
  dataPin : (deviceConfig device).get? "pin" = some (.int pin)
  spelled : (deviceConfig device).get? "rom" = some (.str rom)
  length : rom.toList.length = Ds18b20.ROM_LENGTH
  chars : ∀ c ∈ rom.toList, c ∈ Ds18b20.HEX_CHARS

theorem namesRom {device : PyDict} (h : IsDefinition device)
    (htype : isType device "ds18b20" = true) : ∃ pin rom, NamesRom device pin rom := by
  obtain ⟨deviceType, config, h⟩ := h
  have hconfig := deviceConfig_eq h.body
  have hname := isType_eq h.type "ds18b20"
  rw [htype] at hname
  cases h.accepted with
  | ds18b20 hc =>
    obtain ⟨v, pin, hpin, hvalid⟩ := hc.pin
    obtain ⟨rom, hrom, hlength, hchars⟩ := hc.rom
    obtain ⟨rfl, -⟩ := hvalid
    exact ⟨pin, rom, htype, hconfig ▸ hpin, hconfig ▸ hrom, hlength, hchars⟩
  | _ => cases hname

section Named

variable {device other : PyDict} {pin pin' : Int} {rom rom' : String}

theorem NamesRom.sensor (h : NamesRom device pin rom) : ∃ bytes,
    Ds18b20.fromHex (rom.toList.map Char.toLower) = .ok bytes ∧
      oneWireRom? device = some (pin, bytes) := by
  obtain ⟨bytes, hbytes⟩ := Ds18b20.fromHex_ok 8 h.length h.chars
  refine ⟨bytes, hbytes, ?_⟩
  have hspelled : Ds18b20.fromHex (String.ofList (rom.toList.map Char.toLower)).toList =
      .ok bytes := by
    rw [String.toList_ofList]
    exact hbytes
  have hrun : (do
      let rom ← (deviceConfig device).subscript "rom"
      let romHex ← Ds18b20.lowered rom
      Ds18b20.fromHex romHex.toList) = .ok bytes := by
    rw [subscript_some h.spelled]
    exact hspelled
  unfold oneWireRom?
  simp only [h.type, PyDict.getD, h.dataPin, Option.getD_some, hrun, if_true]

theorem Ds18b20.inContract_init_matched (bytes : Bytes) (romLabel : String)
    (conversionMs : PyValue) :
    InContract (init bytes romLabel conversionMs) (fun sensor => sensor.matchedRom = bytes) := by
  refine inContract_seq (inContract_describing
    (inContract_transfer (P := fun _ => True) (fun _ => trivial))) (fun roms _ => ?_)
  cases hfound : roms.find? (fun found => found == bytes) with
  | some found => exact inContract_pure (by simpa using List.find?_some hfound)
  | none => exact inContract_osError

/-- The sensor that the driver binds is the one that the definition names. -/
theorem initializeDevice_matchedRom (h : NamesRom device pin rom)
    (haccepted : Ds18b20.Accepted (deviceConfig device))
    (hvalid : Ds18b20.validateConfig (deviceConfig device) = .ok ())
    (hoffsets : (deviceConfig device).get? "offsets" ≠ some .none) :
    InContract (Ds18b20.initializeDevice (deviceConfig device))
      (fun bound => oneWireRom? device = some (pin, bound.sensor.matchedRom)) := by
  obtain ⟨bytes, hbytes, hsensor⟩ := h.sensor
  obtain ⟨t, ht⟩ := getAttribute_offsets haccepted.offsets hoffsets "temperature_c" (.int 0)
  refine inContract_seq (inContract_checked hvalid) (fun _ _ => ?_)
  refine inContract_seq (inContract_ok (P := fun _ => True) ht trivial) (fun _ _ => ?_)
  refine inContract_seq (inContract_ok (P := fun v => v = .str rom) (subscript_some h.spelled) rfl) ?_
  rintro _ rfl
  refine inContract_seq (inContract_ok
    (P := fun s => s = String.ofList (rom.toList.map Char.toLower)) rfl rfl) ?_
  rintro _ rfl
  have hspelled : Ds18b20.fromHex (String.ofList (rom.toList.map Char.toLower)).toList =
      .ok bytes := by
    rw [String.toList_ofList]
    exact hbytes
  refine inContract_seq (inContract_ok (P := fun b => b = bytes) hspelled rfl) ?_
  rintro _ rfl
  refine inContract_seq (Ds18b20.inContract_init_matched _ _ _) (fun sensor hmatched => ?_)
  exact inContract_pure (by rw [hsensor, hmatched])

theorem NamesRom.pin_eq (h : NamesRom device pin rom) :
    (deviceConfig device).getD "pin" = .int pin := by
  rw [PyDict.getD, h.dataPin, Option.getD_some]

theorem NamesRom.text (h : NamesRom device pin rom) :
    romText device = rom.toList.map Char.toLower := by
  rw [romText, PyDict.getD, h.spelled, Option.getD_some]

theorem otherSensor_iff (h : NamesRom device pin rom) (h' : NamesRom other pin' rom') :
    OtherSensor device other ↔ SpelledApart device other := by
  obtain ⟨bytes, hbytes, hsensor⟩ := h.sensor
  obtain ⟨bytes', hbytes', hsensor'⟩ := h'.sensor
  have hsame : bytes = bytes' ↔ rom.toList.map Char.toLower = rom'.toList.map Char.toLower := by
    constructor
    · rintro rfl
      exact Ds18b20.fromHex_inj 8 h.length h'.length h.chars h'.chars hbytes hbytes'
    · intro htext
      rw [htext, hbytes'] at hbytes
      cases hbytes
      rfl
  simp only [OtherSensor, SpelledApart, hsensor, hsensor', h.type, h'.type, h.pin_eq, h'.pin_eq,
    h.text, h'.text, forall_const, Option.some.injEq, forall_eq', ne_eq, Prod.mk.injEq,
    PyValue.int.injEq, ← hsame]
  constructor
  · intro hne hpin heq
    exact hne ⟨hpin.symm, heq.symm⟩
  · rintro hne ⟨rfl, rfl⟩
    exact hne rfl rfl

end Named

theorem oneWireRom?_none {device : PyDict} (h : isType device "ds18b20" = false) :
    oneWireRom? device = none := by
  unfold oneWireRom?
  rw [h]
  rfl

theorem otherSensor_iff_spelledApart {a b : PyDict} (ha : IsDefinition a) (hb : IsDefinition b) :
    OtherSensor a b ↔ SpelledApart a b := by
  cases hta : isType a "ds18b20" with
  | false => simp [OtherSensor, SpelledApart, oneWireRom?_none hta, hta]
  | true =>
    cases htb : isType b "ds18b20" with
    | false => simp [OtherSensor, SpelledApart, oneWireRom?_none htb, htb]
    | true =>
      obtain ⟨pin, rom, hna⟩ := namesRom ha hta
      obtain ⟨pin', rom', hnb⟩ := namesRom hb htb
      exact otherSensor_iff hna hnb

def setRom (roms : PyDict → String) (device : PyDict) : PyDict :=
  if isType device "ds18b20" then
    Json.store device "config" (.dict (Json.store (deviceConfig device) "rom" (.str (roms device))))
  else device

def setDeviceRom (roms : PyDict → String) : PyValue → PyValue
  | .dict device => .dict (setRom roms device)
  | v => v

def withRoms (roms : PyDict → String) (items : PyDict) : PyDict :=
  match items.getD "devices" with
  | .list devices => Json.store items "devices" (.list (devices.map (setDeviceRom roms)))
  | _ => items

/-- A text that the driver's validator accepts. -/
def IsRom (rom : String) : Prop := Ds18b20.validateRom (.str rom) = .ok ()

section Fields

variable {roms : PyDict → String} {device : PyDict}

theorem setRom_get? {key : String} (h : key ≠ "config") :
    (setRom roms device).get? key = device.get? key := by
  unfold setRom
  split
  · rw [PyDict.get?_store, if_neg (Ne.symm h)]
  · rfl

theorem setRom_getD {key : String} (h : key ≠ "config") :
    (setRom roms device).getD key = device.getD key := by
  rw [PyDict.getD, PyDict.getD, setRom_get? h]

@[simp] theorem isType_setRom (name : String) :
    isType (setRom roms device) name = isType device name := by
  rw [isType, isType, setRom_getD (by decide)]

@[simp] theorem qualifier_setRom (index : Nat) :
    qualifier index (setRom roms device) = qualifier index device := by
  rw [qualifier, qualifier, setRom_getD (by decide)]

theorem setRom_config (h : isType device "ds18b20" = true) :
    (setRom roms device).get? "config" =
      some (.dict (Json.store (deviceConfig device) "rom" (.str (roms device)))) := by
  rw [setRom, if_pos h, PyDict.get?_store, if_pos rfl]

theorem setRom_other (h : isType device "ds18b20" = false) : setRom roms device = device := by
  rw [setRom, h]
  rfl

theorem deviceConfig_setRom (h : isType device "ds18b20" = true) :
    deviceConfig (setRom roms device) =
      Json.store (deviceConfig device) "rom" (.str (roms device)) := by
  refine deviceConfig_eq ?_
  rw [PyDict.getD, setRom_config h]
  rfl

@[simp] theorem deviceConfig_setRom_get? {key : String} (h : key ≠ "rom") :
    (deviceConfig (setRom roms device)).get? key = (deviceConfig device).get? key := by
  cases htype : isType device "ds18b20" with
  | false => rw [setRom_other htype]
  | true => rw [deviceConfig_setRom htype, PyDict.get?_store, if_neg (Ne.symm h)]

theorem deviceConfig_setRom_getD {key : String} (h : key ≠ "rom") :
    (deviceConfig (setRom roms device)).getD key = (deviceConfig device).getD key := by
  rw [PyDict.getD, PyDict.getD, deviceConfig_setRom_get? h]

theorem romText_setRom (h : isType device "ds18b20" = true) :
    romText (setRom roms device) = (roms device).toList.map Char.toLower := by
  have hrom : (deviceConfig (setRom roms device)).getD "rom" = .str (roms device) := by
    rw [deviceConfig_setRom h, PyDict.getD, PyDict.get?_store, if_pos rfl]
    rfl
  rw [romText, hrom]

end Fields

section Definition

variable {roms : PyDict → String} {device : PyDict}

theorem Ds18b20.validateConfig_store {config : PyDict} {rom : String} (h : validateConfig config = .ok ())
    (hrom : IsRom rom) : validateConfig (Json.store config "rom" (.str rom)) = .ok () := by
  have hother : ∀ key, key ≠ "rom" →
      PyDict.get? (Json.store config "rom" (.str rom)) key = config.get? key :=
    fun key hkey => by rw [PyDict.get?_store, if_neg (Ne.symm hkey)]
  unfold validateConfig at h ⊢
  obtain ⟨⟨⟩, hkeys, h⟩ := seq_ok h
  obtain ⟨pin, hpin, h⟩ := seq_ok h
  obtain ⟨n, hn, h⟩ := seq_ok h
  obtain ⟨old, hold, h⟩ := seq_ok h
  obtain ⟨⟨⟩, -, h⟩ := seq_ok h
  obtain ⟨ms, hms, h⟩ := seq_ok h
  have hhas : config.has "rom" = true := by
    rw [PyDict.has]
    unfold required at hold
    cases hget : config.get? "rom" with
    | some v => rfl
    | none =>
      rw [hget] at hold
      cases hold
  have hkeys' : onlyAllowed "ds18b20 device config" ALLOWED_CONFIG_KEYS
      (Json.store config "rom" (.str rom)) = .ok () := by
    rw [← hkeys, onlyAllowed, onlyAllowed, PyDict.keys_store _ hhas]
  have hpin' : required "ds18b20 device config" "pin" (Json.store config "rom" (.str rom)) =
      .ok pin := by
    rw [← hpin, required, required, hother "pin" (by decide)]
  have hrom' : required "ds18b20 device config" "rom" (Json.store config "rom" (.str rom)) =
      .ok (.str rom) := by
    rw [required, PyDict.get?_store, if_pos rfl]
  rw [hkeys', hpin', hrom', hother "conversion_ms" (by decide), PyDict.getD,
    hother "offsets" (by decide)]
  refine seq_ok_iff.mpr ⟨(), rfl, seq_ok_iff.mpr ⟨pin, rfl, seq_ok_iff.mpr ⟨n, hn, ?_⟩⟩⟩
  refine seq_ok_iff.mpr ⟨.str rom, rfl, then_ok_iff.mpr ⟨hrom, ?_⟩⟩
  exact seq_ok_iff.mpr ⟨ms, hms, h⟩

/-- A definition stays valid with another ROM. -/
theorem validateDeviceDefinition_setRom (hroms : ∀ device, IsRom (roms device))
    (h : validateDeviceDefinition device = .ok ()) :
    validateDeviceDefinition (setRom roms device) = .ok () := by
  cases htype : isType device "ds18b20" with
  | false => rw [setRom_other htype, h]
  | true =>
    obtain ⟨deviceType, config, hdefinition⟩ := (validateDeviceDefinition_post device).of_ok h
    have hname : deviceType = "ds18b20" := by
      have hname := isType_eq hdefinition.type "ds18b20"
      rw [htype] at hname
      simpa using hname.symm
    subst hname
    have hbody := hdefinition.body
    have hconfig := deviceConfig_eq hbody
    have hbody' : (setRom roms device).getD "config" =
        .dict (Json.store config "rom" (.str (roms device))) := by
      rw [PyDict.getD, setRom_config htype, hconfig]
      rfl
    have hhas : device.has "config" = true := by
      rw [PyDict.has]
      cases hget : device.get? "config" with
      | some v => rfl
      | none =>
        rw [PyDict.getD, hget] at hbody
        cases hbody
    have hkeys : (setRom roms device).keys = device.keys := by
      rw [setRom, if_pos htype, PyDict.keys_store _ hhas]
    have hfield : ∀ key, requiredField (setRom roms device) key = requiredField device key := by
      intro key
      by_cases hkey : key = "config"
      · subst hkey
        rw [requiredField, requiredField, hhas, PyDict.has, setRom_config htype]
        rfl
      · rw [requiredField, requiredField, PyDict.has, PyDict.has, setRom_get? hkey]
    have hfields : requiredField (setRom roms device) = requiredField device := funext hfield
    unfold validateDeviceDefinition at h ⊢
    have hsame : ∀ key, key ≠ "config" → (setRom roms device).getD key = device.getD key :=
      fun key hkey => setRom_getD hkey
    rw [hfields, hkeys, hsame "id" (by decide), hsame "device_type" (by decide),
      hsame "name" (by decide), hbody']
    rw [hbody] at h
    obtain ⟨⟨⟩, hrequired, h⟩ := seq_ok h
    obtain ⟨⟨⟩, hunknown, h⟩ := seq_ok h
    refine then_ok_iff.mpr ⟨hrequired, then_ok_iff.mpr ⟨hunknown, ?_⟩⟩
    cases hid : nonEmptyStr? (device.getD "id") with
    | none => rw [hid] at h; cases h
    | some deviceId =>
      rw [hid] at h
      obtain ⟨⟨⟩, hlength, h⟩ := seq_ok h
      refine then_ok_iff.mpr ⟨hlength, ?_⟩
      rw [hdefinition.type] at h ⊢
      obtain ⟨⟨⟩, hlabel, h⟩ := seq_ok h
      exact then_ok_iff.mpr ⟨hlabel, Ds18b20.validateConfig_store h (hroms device)⟩

end Definition

section Passes

variable {roms : PyDict → String}

def setRomAt (roms : PyDict → String) (entry : PyDict × Nat) : PyDict × Nat :=
  (setRom roms entry.1, entry.2)

theorem validateEachDevice_setRom (hroms : ∀ device, IsRom (roms device)) {seen : List String}
    {entries : List (PyValue × Nat)} {devices : List (PyDict × Nat)}
    (h : validateEachDevice seen entries = .ok devices) :
    validateEachDevice seen (entries.map (fun entry => (setDeviceRom roms entry.1, entry.2))) =
      .ok (devices.map (setRomAt roms)) := by
  induction entries generalizing seen devices with
  | nil =>
    cases h
    rfl
  | cons entry rest ih =>
    obtain ⟨v, index⟩ := entry
    cases v with
    | dict device =>
      have hid : (setRom roms device).getD "id" = PyDict.getD device "id" := setRom_getD (by decide)
      rw [List.map_cons]
      unfold setDeviceRom
      unfold validateEachDevice at h ⊢
      dsimp only at h ⊢
      rw [hid]
      cases hname : nonEmptyStr? (PyDict.getD device "id") with
      | none =>
        rw [hname] at h
        obtain ⟨⟨⟩, hdefinition, h⟩ := seq_ok h
        obtain ⟨others, hothers, h⟩ := seq_ok h
        cases h
        have hvalid : validateDeviceDefinition device = .ok () := by
          cases hd : validateDeviceDefinition device with
          | ok => rfl
          | error e => rw [hd] at hdefinition; cases hdefinition
        refine then_ok_iff.mpr ⟨by rw [validateDeviceDefinition_setRom hroms hvalid]; rfl, ?_⟩
        exact seq_ok_iff.mpr ⟨_, ih hothers, rfl⟩
      | some deviceId =>
        rw [hname] at h
        obtain ⟨⟨⟩, hnew, h⟩ := seq_ok h
        obtain ⟨⟨⟩, hdefinition, h⟩ := seq_ok h
        obtain ⟨others, hothers, h⟩ := seq_ok h
        cases h
        have hvalid : validateDeviceDefinition device = .ok () := by
          cases hd : validateDeviceDefinition device with
          | ok => rfl
          | error e => rw [hd] at hdefinition; cases hdefinition
        refine then_ok_iff.mpr ⟨hnew, ?_⟩
        refine then_ok_iff.mpr ⟨by rw [validateDeviceDefinition_setRom hroms hvalid]; rfl, ?_⟩
        exact seq_ok_iff.mpr ⟨_, ih hothers, rfl⟩
    | _ => cases h

theorem i2cBusIdentity_setRom (device : PyDict) :
    i2cBusIdentity (setRom roms device) = i2cBusIdentity device := by
  cases htype : isType device "ds18b20" with
  | false => rw [setRom_other htype]
  | true =>
    have hbody : (setRom roms device).getD "config" =
        .dict (Json.store (deviceConfig device) "rom" (.str (roms device))) := by
      rw [PyDict.getD, setRom_config htype]
      rfl
    have hother : ∀ key, key ≠ "rom" →
        PyDict.get? (Json.store (deviceConfig device) "rom" (.str (roms device))) key =
          (deviceConfig device).get? key :=
      fun key hkey => by rw [PyDict.get?_store, if_neg (Ne.symm hkey)]
    unfold i2cBusIdentity
    rw [hbody, setRom_getD (by decide)]
    dsimp only
    have hotherD : ∀ key, key ≠ "rom" →
        PyDict.getD (Json.store (deviceConfig device) "rom" (.str (roms device))) key =
          (deviceConfig device).getD key :=
      fun key hkey => by rw [PyDict.getD, PyDict.getD, hother key hkey]
    rw [hother "i2c_bus" (by decide), hotherD "i2c_sda_pin" (by decide),
      hotherD "i2c_scl_pin" (by decide), hother "i2c_freq_hz" (by decide)]
    cases hconfig : device.getD "config" with
    | dict config => rw [deviceConfig_eq hconfig]
    | _ =>
      rw [deviceConfig, hconfig]
      rfl

theorem checkBusSettings_setRom
    (owners : List (PyValue × String × PyValue × PyValue × PyValue))
    (devices : List (PyDict × Nat)) :
    checkBusSettings owners (devices.map (setRomAt roms)) = checkBusSettings owners devices := by
  induction devices generalizing owners with
  | nil => rfl
  | cons entry rest ih =>
    obtain ⟨device, index⟩ := entry
    rw [List.map_cons, setRomAt]
    unfold checkBusSettings
    simp only [i2cBusIdentity_setRom, qualifier_setRom, ih]

theorem onewireOwners_setRom (devices : List (PyDict × Nat)) :
    onewireOwners (devices.map (setRomAt roms)) = onewireOwners devices := by
  have hpin : ∀ device : PyDict, (deviceConfig (setRom roms device)).getD "pin" =
      (deviceConfig device).getD "pin" := fun device => deviceConfig_setRom_getD (by decide)
  simp [onewireOwners, List.filter_map, Function.comp_def, setRomAt, hpin]

theorem claimSoilPins_congr {onewire : List (PyValue × String)} {name : String}
    {config config' : PyDict} {owners : List (PyValue × String × String)} {keys : List String}
    (h : ∀ key ∈ keys, config'.get? key = config.get? key) :
    claimSoilPins onewire name config' owners keys = claimSoilPins onewire name config owners keys := by
  induction keys generalizing owners with
  | nil => rfl
  | cons key rest ih =>
    unfold claimSoilPins
    rw [h key List.mem_cons_self]
    simp only [fun owners => @ih owners (fun k hk => h k (List.mem_cons_of_mem _ hk))]

theorem soilPinOwners_setRom (onewire : List (PyValue × String))
    (owners : List (PyValue × String × String)) (devices : List (PyDict × Nat)) :
    soilPinOwners onewire owners (devices.map (setRomAt roms)) =
      soilPinOwners onewire owners devices := by
  induction devices generalizing owners with
  | nil => rfl
  | cons entry rest ih =>
    obtain ⟨device, index⟩ := entry
    have hpins : ∀ key ∈ ["adc_pin", "digital_pin", "power_pin"],
        (deviceConfig (setRom roms device)).get? key = (deviceConfig device).get? key := by
      intro key hkey
      refine deviceConfig_setRom_get? ?_
      rintro rfl
      exact absurd hkey (by decide)
    rw [List.map_cons, setRomAt]
    unfold soilPinOwners
    simp only [isType_setRom, qualifier_setRom, claimSoilPins_congr hpins, ih]

theorem checkI2cPins_setRom (onewire : List (PyValue × String))
    (soil : List (PyValue × String × String)) (entry : PyDict × Nat) :
    checkI2cPins onewire soil (setRomAt roms entry) = checkI2cPins onewire soil entry := by
  have hget : ∀ key, key ≠ "rom" → (deviceConfig (setRom roms entry.1)).get? key =
      (deviceConfig entry.1).get? key := fun key hkey => deviceConfig_setRom_get? hkey
  have hhas : (deviceConfig (setRom roms entry.1)).has "i2c_bus" =
      (deviceConfig entry.1).has "i2c_bus" := by
    rw [PyDict.has, PyDict.has, hget _ (by decide)]
  have hbus : (deviceConfig (setRom roms entry.1)).intD "i2c_bus" =
      (deviceConfig entry.1).intD "i2c_bus" := by
    rw [PyDict.intD, PyDict.intD, PyDict.getD, PyDict.getD, hget _ (by decide)]
  have hpin : ∀ key, key ≠ "rom" → (deviceConfig (setRom roms entry.1)).pin? key =
      (deviceConfig entry.1).pin? key := by
    intro key hkey
    rw [PyDict.pin?, PyDict.pin?, PyDict.getD, PyDict.getD, hget _ hkey]
  simp only [checkI2cPins, setRomAt, hhas, hbus, hpin "i2c_sda_pin" (by decide),
    hpin "i2c_scl_pin" (by decide), qualifier_setRom]

theorem candidateSensors_setRom (owners : List (PyValue × String)) (devices : List (PyDict × Nat)) :
    candidateSensors owners (devices.map (setRomAt roms)) = candidateSensors owners devices := by
  induction devices generalizing owners with
  | nil => rfl
  | cons entry rest ih =>
    obtain ⟨device, index⟩ := entry
    rw [List.map_cons, setRomAt]
    unfold candidateSensors
    simp only [deviceConfig_setRom_get? (show "i2c_bus" ≠ "rom" by decide),
      deviceConfig_setRom_getD (show "i2c_address_candidates" ≠ "rom" by decide), isType_setRom,
      qualifier_setRom, ih]

theorem validateDevices_setRom (hroms : ∀ device, IsRom (roms device)) {devices : List PyValue}
    (h : validateDevices (.list devices) = .ok ()) :
    validateDevices (.list (devices.map (setDeviceRom roms))) = .ok () := by
  cases devices with
  | nil => cases h
  | cons first rest =>
    rw [validateDevices_stages] at h
    rw [List.map_cons, validateDevices_stages, ← List.map_cons, List.length_map, List.zipIdx_map]
    obtain ⟨⟨⟩, hlength, h⟩ := seq_ok h
    obtain ⟨devices, heach, h⟩ := seq_ok h
    have heach' := validateEachDevice_setRom hroms heach
    refine then_ok_iff.mpr ⟨hlength, seq_ok_iff.mpr ⟨devices.map (setRomAt roms), heach', ?_⟩⟩
    obtain ⟨⟨⟩, hbus, h⟩ := seq_ok h
    obtain ⟨soil, hsoil, h⟩ := seq_ok h
    obtain ⟨⟨⟩, hi2c, h⟩ := seq_ok h
    rw [checkBusSettings_setRom, onewireOwners_setRom, soilPinOwners_setRom]
    refine then_ok_iff.mpr ⟨hbus, seq_ok_iff.mpr ⟨soil, hsoil, then_ok_iff.mpr ⟨?_, ?_⟩⟩⟩
    · refine forM_ok_iff.mpr (fun entry hentry => ?_)
      obtain ⟨old, hold, rfl⟩ := List.mem_map.mp hentry
      rw [checkI2cPins_setRom]
      exact forM_ok_iff.mp hi2c old hold
    · rw [checkPhysicalSensors, candidateSensors_setRom]
      exact h

end Passes

theorem mapM_congr_mem {ε α β : Type} {f g : α → Except ε β} {xs : List α}
    (h : ∀ x ∈ xs, f x = g x) : xs.mapM f = xs.mapM g := by
  induction xs with
  | nil => rfl
  | cons x xs ih =>
    rw [List.mapM_cons, List.mapM_cons, h x List.mem_cons_self,
      ih (fun y hy => h y (List.mem_cons_of_mem _ hy))]

theorem forM_congr_mem {ε β : Type} {f g : β → Except ε Unit} {xs : List β}
    (h : ∀ x ∈ xs, f x = g x) : xs.forM f = xs.forM g := by
  induction xs with
  | nil => rfl
  | cons x xs ih =>
    have hstep : ∀ f : β → Except ε Unit, (x :: xs).forM f = f x >>= fun _ => xs.forM f :=
      fun _ => rfl
    rw [hstep, hstep, h x List.mem_cons_self, ih (fun y hy => h y (List.mem_cons_of_mem _ hy))]

section Configuration

variable {roms : PyDict → String} {items : PyDict} {devices : List PyDict}

theorem unknownDevicePaths_setRom (index : Nat) {device : PyDict} (h : IsDefinition device) :
    unknownDevicePaths index (.dict (setRom roms device)) =
      unknownDevicePaths index (.dict device) := by
  cases htype : isType device "ds18b20" with
  | false => rw [setRom_other htype]
  | true =>
    obtain ⟨pin, rom, hrom⟩ := namesRom h htype
    obtain ⟨deviceType, config, hdefinition⟩ := h
    have hbody := hdefinition.body
    have hconfig := deviceConfig_eq hbody
    have hhas : device.has "config" = true := by
      rw [PyDict.has]
      cases hget : device.get? "config" with
      | some v => rfl
      | none =>
        rw [PyDict.getD, hget] at hbody
        cases hbody
    have hkeys : (setRom roms device).keys = device.keys := by
      rw [setRom, if_pos htype, PyDict.keys_store _ hhas]
    have hrom : (deviceConfig device).has "rom" = true := by rw [PyDict.has, hrom.spelled]; rfl
    have hbody' : (setRom roms device).getD "config" =
        .dict (Json.store config "rom" (.str (roms device))) := by
      rw [PyDict.getD, setRom_config htype, hconfig]
      rfl
    have hconfigKeys : PyDict.keys (Json.store config "rom" (.str (roms device))) =
        PyDict.keys config := PyDict.keys_store _ (hconfig ▸ hrom)
    unfold unknownDevicePaths
    simp only [hkeys, hbody, hbody', qualifier_setRom, hconfigKeys,
      setRom_getD (show "device_type" ≠ "config" by decide)]

theorem withRoms_eq (h : items.getD "devices" = .list (devices.map .dict)) :
    withRoms roms items =
      Json.store items "devices" (.list (devices.map (fun device => .dict (setRom roms device)))) := by
  rw [withRoms, h]
  simp only [List.map_map, Function.comp_def, setDeviceRom]

theorem configDevices_eq (h : items.getD "devices" = .list (devices.map .dict)) :
    configDevices items = devices := by
  rw [configDevices, h]
  simp only [List.filterMap_map, Function.comp_def, List.filterMap_some]

theorem withRoms_getD {key : String} (hkey : key ≠ "devices") :
    (withRoms roms items).getD key = items.getD key := by
  unfold withRoms
  split
  · rw [PyDict.getD, PyDict.getD, PyDict.get?_store, if_neg (Ne.symm hkey)]
  · rfl

theorem checkFields_withRoms : requireSchemaVersion (withRoms roms items) = requireSchemaVersion items ∧
    validateStrings (withRoms roms items) = validateStrings items ∧
    validateIntegers (withRoms roms items) = validateIntegers items ∧
    validateIntervals (withRoms roms items) = validateIntervals items ∧
    ∀ key, key ≠ "devices" → validateDelays (withRoms roms items) key = validateDelays items key := by
  have hget : ∀ key, key ≠ "devices" → (withRoms roms items).getD key = items.getD key :=
    fun key hkey => withRoms_getD hkey
  have hstring : ∀ key, key ≠ "devices" →
      requireNonEmptyString (withRoms roms items) key = requireNonEmptyString items key :=
    fun key hkey => by rw [requireNonEmptyString, requireNonEmptyString, hget key hkey]
  have htopics : MQTT_TOPIC_KEYS.mapM (requireMqttTopic (withRoms roms items)) =
      MQTT_TOPIC_KEYS.mapM (requireMqttTopic items) := by
    refine mapM_congr_mem (fun key hkey => ?_)
    rw [requireMqttTopic, requireMqttTopic, hstring]
    rintro rfl
    exact absurd hkey (by decide)
  have hint : ∀ kind good key, key ≠ "devices" →
      requireInteger kind good (withRoms roms items) key = requireInteger kind good items key :=
    fun kind good key hkey => by rw [requireInteger, requireInteger, hget key hkey]
  have hintD : ∀ key, key ≠ "devices" → (withRoms roms items).intD key = items.intD key :=
    fun key hkey => by rw [PyDict.intD, PyDict.intD, hget key hkey]
  have hpositive : POSITIVE_KEYS.forM (fun key => do
      let _ ← requirePositiveInteger (withRoms roms items) key) =
      POSITIVE_KEYS.forM (fun key => do let _ ← requirePositiveInteger items key) := by
    refine forM_congr_mem (fun key hkey => ?_)
    have hne : key ≠ "devices" := by
      rintro rfl
      exact absurd hkey (by decide)
    simp only [requirePositiveInteger, hint _ _ key hne]
  refine ⟨?_, ?_, ?_, ?_, ?_⟩
  · rw [requireSchemaVersion, requireSchemaVersion, hget _ (by decide)]
  · unfold validateStrings
    rw [htopics, hstring "source" (by decide), hstring "mqtt_broker_ip_address" (by decide)]
  · unfold validateIntegers
    rw [hpositive]
    simp (disch := decide) only [requireAtLeast, requireAtMost, requireNonnegativeInteger, hint,
      hintD]
  · unfold validateIntervals
    simp (disch := decide) only [requireTicksSafeInterval, hintD]
  · intro key hkey
    rw [validateDelays, validateDelays, hget key hkey]

theorem unknownConfigPaths_withRoms (h : items.getD "devices" = .list (devices.map .dict))
    (hdefinitions : ∀ device ∈ devices, IsDefinition device) (hhas : items.has "devices" = true) :
    unknownConfigPaths (withRoms roms items) = unknownConfigPaths items := by
  have hkeys : (withRoms roms items).keys = items.keys := by
    rw [withRoms_eq h, PyDict.keys_store _ hhas]
  have hdevices : (withRoms roms items).getD "devices" =
      .list (devices.map (fun device => .dict (setRom roms device))) := by
    rw [withRoms_eq h, PyDict.getD, PyDict.get?_store, if_pos rfl]
    rfl
  have hpaths : (devices.map (fun device => PyValue.dict (setRom roms device))).zipIdx.mapM
        (fun entry => unknownDevicePaths entry.2 entry.1) =
      (devices.map PyValue.dict).zipIdx.mapM (fun entry => unknownDevicePaths entry.2 entry.1) := by
    rw [List.zipIdx_map, List.zipIdx_map, List.mapM_map, List.mapM_map]
    refine mapM_congr_mem (fun entry hentry => ?_)
    obtain ⟨device, index⟩ := entry
    have hmem : device ∈ devices := List.fst_mem_of_mem_zipIdx hentry
    exact unknownDevicePaths_setRom index (hdefinitions device hmem)
  unfold unknownConfigPaths
  rw [hkeys, hdevices, h]
  dsimp only
  rw [hpaths]

/-- A configuration that is accepted stays so whatever the ROMs are. -/
theorem validateConfig_withRoms (hroms : ∀ device, IsRom (roms device))
    (h : validateConfig (.dict items) = .ok (.dict items)) :
    validateConfig (.dict (withRoms roms items)) = .ok (.dict (withRoms roms items)) := by
  obtain ⟨accepted, hsame, haccepted⟩ := AcceptedConfig.of_ok h
  cases hsame
  obtain ⟨devices, hdevices, -, -, hdefinitions⟩ := haccepted.devices
  have hhas : items.has "devices" = true := haccepted.present _ (by decide)
  obtain ⟨hversion, hstrings, hintegers, hintervals, hdelays⟩ := @checkFields_withRoms roms items
  have hpresent : requireKey (withRoms roms items) = requireKey items := by
    funext key
    have hkey : (withRoms roms items).has key = items.has key := by
      rw [withRoms_eq hdevices]
      by_cases hkey : key = "devices"
      · rw [hkey, hhas, PyDict.has, PyDict.get?_store, if_pos rfl]
        rfl
      · rw [PyDict.has, PyDict.has, PyDict.get?_store, if_neg (Ne.symm hkey)]
    rw [requireKey, requireKey, hkey]
  have hlist : (withRoms roms items).getD "devices" =
      .list ((devices.map PyValue.dict).map (setDeviceRom roms)) := by
    rw [withRoms, hdevices, PyDict.getD, PyDict.get?_store, if_pos rfl]
    rfl
  have hcheck : checkConfig items = .ok () :=
    (then_ok_iff.mp (show (checkConfig items >>= fun _ => pure _) = .ok (PyValue.dict items) from h)).1
  show (checkConfig (withRoms roms items) >>= fun _ => pure _) = .ok _
  refine then_ok_iff.mpr ⟨?_, rfl⟩
  unfold checkConfig at hcheck ⊢
  rw [unknownConfigPaths_withRoms hdevices hdefinitions hhas, hpresent, hversion, hstrings,
    hintegers, hintervals, hdelays _ (by decide), hdelays _ (by decide), hlist]
  rw [hdevices] at hcheck
  obtain ⟨unknown, hunknown, hcheck⟩ := seq_ok hcheck
  refine seq_ok_iff.mpr ⟨unknown, hunknown, ?_⟩
  by_cases hempty : unknown.isEmpty = true
  · rw [if_pos hempty] at hcheck ⊢
    obtain ⟨⟨⟩, h0, hcheck⟩ := seq_ok hcheck
    obtain ⟨⟨⟩, h1, hcheck⟩ := seq_ok hcheck
    obtain ⟨⟨⟩, h2, hcheck⟩ := seq_ok hcheck
    obtain ⟨⟨⟩, h3, hcheck⟩ := seq_ok hcheck
    obtain ⟨⟨⟩, h4, hcheck⟩ := seq_ok hcheck
    obtain ⟨⟨⟩, h5, hcheck⟩ := seq_ok hcheck
    obtain ⟨⟨⟩, h6, hcheck⟩ := seq_ok hcheck
    refine then_ok_iff.mpr ⟨h0, then_ok_iff.mpr ⟨h1, then_ok_iff.mpr ⟨h2, ?_⟩⟩⟩
    refine then_ok_iff.mpr ⟨h3, then_ok_iff.mpr ⟨h4, then_ok_iff.mpr ⟨h5, ?_⟩⟩⟩
    exact then_ok_iff.mpr ⟨h6, validateDevices_setRom hroms hcheck⟩
  · rw [if_neg hempty] at hcheck
    cases hcheck

/-- On each pin every DS18B20 of an accepted configuration has a sensor of its own exactly when the
ROM texts differ by more than case. Validation compares none of them: the configuration stays
accepted with all other ROMs, so that it guarantees different sensors on different pins only. -/
theorem oneWire_identity_iff (h : validateConfig (.dict items) = .ok (.dict items)) :
    ((configDevices items).Pairwise OtherSensor ↔ (configDevices items).Pairwise SpelledApart) ∧
    (∀ roms, (∀ device, IsRom (roms device)) →
      validateConfig (.dict (withRoms roms items)) = .ok (.dict (withRoms roms items))) ∧
    ((∀ roms, (∀ device, IsRom (roms device)) →
        (configDevices (withRoms roms items)).Pairwise OtherSensor) ↔
      (configDevices items).Pairwise OtherPin) := by
  obtain ⟨accepted, hsame, haccepted⟩ := AcceptedConfig.of_ok h
  cases hsame
  obtain ⟨devices, hdevices, -, -, hdefinitions⟩ := haccepted.devices
  have hspelled : ∀ {items : PyDict}, validateConfig (.dict items) = .ok (.dict items) →
      ((configDevices items).Pairwise OtherSensor ↔
        (configDevices items).Pairwise SpelledApart) := by
    intro items h
    obtain ⟨accepted, hsame, haccepted⟩ := AcceptedConfig.of_ok h
    cases hsame
    obtain ⟨devices, hdevices, -, -, hdefinitions⟩ := haccepted.devices
    rw [configDevices_eq hdevices]
    exact List.Pairwise.iff_of_mem (fun ha hb =>
      otherSensor_iff_spelledApart (hdefinitions _ ha) (hdefinitions _ hb))
  refine ⟨hspelled h, fun roms hroms => validateConfig_withRoms hroms h, ?_⟩
  have hnew : ∀ roms, configDevices (withRoms roms items) = devices.map (setRom roms) := by
    intro roms
    refine configDevices_eq ?_
    rw [withRoms_eq hdevices, PyDict.getD, PyDict.get?_store, if_pos rfl, List.map_map]
    rfl
  have hpin : ∀ roms (device : PyDict), (deviceConfig (setRom roms device)).getD "pin" =
      (deviceConfig device).getD "pin" := fun roms device => deviceConfig_setRom_getD (by decide)
  constructor
  · intro hall
    have hrom : IsRom "28ff641e0f1603d4" := rfl
    have hvalid : ∀ device : PyDict, IsRom ((fun _ => "28ff641e0f1603d4") device) := fun _ => hrom
    have hone := hall _ hvalid
    rw [hspelled (validateConfig_withRoms hvalid h), hnew, List.pairwise_map] at hone
    rw [configDevices_eq hdevices]
    refine hone.imp (fun {a b} hspelled ha hb hsame => ?_)
    refine hspelled (by rw [isType_setRom, ha]) (by rw [isType_setRom, hb]) (by rw [hpin, hpin, hsame]) ?_
    rw [romText_setRom ha, romText_setRom hb]
  · intro hpins roms hroms
    rw [hspelled (validateConfig_withRoms hroms h), hnew, List.pairwise_map]
    rw [configDevices_eq hdevices] at hpins
    refine hpins.imp (fun {a b} hother ha hb hsame => ?_)
    rw [isType_setRom] at ha hb
    rw [hpin, hpin] at hsame
    exact (hother ha hb hsame).elim

end Configuration

def twinDevice (deviceId rom : String) : PyValue :=
  .dict [(.str "id", .str deviceId), (.str "device_type", .str "ds18b20"),
    (.str "config", .dict [(.str "pin", .int 16), (.str "rom", .str rom)])]

def twinConfig : PyDict :=
  withDevices [twinDevice "d1" "28ff641e0f1603d4", twinDevice "d2" "28FF641E0F1603D4"]

theorem validateConfig_twin : ¬ ∀ items : PyDict,
    validateConfig (.dict items) = .ok (.dict items) →
      (configDevices items).Pairwise OtherSensor := by
  intro hall
  have hpairs := hall twinConfig (validateConfig_self (by decide))
  have hfirst : OtherSensor _ _ := (List.pairwise_cons.mp hpairs).1 _ List.mem_cons_self
  exact hfirst (16, [0x28, 0xff, 0x64, 0x1e, 0x0f, 0x16, 0x03, 0xd4]) rfl rfl

def multidropConfig : PyDict :=
  withDevices [twinDevice "d1" "28ff641e0f1603d4", twinDevice "d2" "28ff641e0f1603d5"]

theorem oneWire_identity_multidrop :
    (configDevices multidropConfig).Pairwise OtherSensor := by
  refine (oneWire_identity_iff (validateConfig_self (by decide))).1.mpr ?_
  refine .cons (fun b hb => ?_) (List.pairwise_singleton _ _)
  rw [List.mem_singleton.mp hb]
  intro _ _ _ hsame
  exact absurd hsame (by decide)

end PicoDualCore
