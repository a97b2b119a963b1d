import PicoDualCore.GpioOwnership
set_option autoImplicit false

namespace PicoDualCore
open ExceptPost

/-- The stage of `_validate_devices` that looks for one chip under two ids. -/
def checkPhysicalSensors (devices : List (PyDict × Nat)) : ConfigCheck Unit := do
  let sensors ← candidateSensors [] devices
  checkCandidateSensors sensors

theorem validateDevices_stages (device : PyValue) (rest : List PyValue) :
    validateDevices (.list (device :: rest)) = (do
      refuseIf (decide (MAX_DEVICES < (device :: rest).length))
        s!"devices must contain at most {MAX_DEVICES} entries"
      let devices ← validateEachDevice [] (device :: rest).zipIdx
      checkBusSettings [] devices
      let soil ← soilPinOwners (onewireOwners devices) [] devices
      devices.forM (checkI2cPins (onewireOwners devices) soil)
      checkPhysicalSensors devices) := rfl

def i2cBus? (device : PyDict) : Option Int :=
  match (deviceConfig device).get? "i2c_bus" with
  | some (.int bus) => some bus
  | _ => none

def PyValue.int? : PyValue → Option Int
  | .int n => some n
  | _ => Option.none

def LTR390_ADDRESS : Int := 0x53

def effectiveAddresses (device : PyDict) : List Int :=
  if isType device "ltr390" then [LTR390_ADDRESS]
  else match (deviceConfig device).getD "i2c_address_candidates" with
    | .list candidates => candidates.filterMap PyValue.int?
    | _ => if isType device "bme280" then Bme280.DEFAULT_I2C_ADDRESS_CANDIDATES
        else Sht35.DEFAULT_I2C_ADDRESS_CANDIDATES

/-- On one bus the two have no address in common. -/
def Exclusive (a b : PyDict) : Prop :=
  ∀ bus, i2cBus? a = some bus → i2cBus? b = some bus →
    ∀ address ∈ effectiveAddresses a, address ∉ effectiveAddresses b

section Pairs

variable {α : Type} {R : α → α → Prop}

theorem pairwise_filter_iff {p : α → Bool} (xs : List α)
    (hcross : ∀ a ∈ xs, ∀ b ∈ xs, p a ≠ p b → R a b) :
    xs.Pairwise R ↔ (xs.filter p).Pairwise R ∧ (xs.filter (fun a => !p a)).Pairwise R := by
  induction xs with
  | nil => simp
  | cons x xs ih =>
    have hrest := ih (fun a ha b hb => hcross a (List.mem_cons_of_mem _ ha) b
      (List.mem_cons_of_mem _ hb))
    have hx : ∀ b ∈ xs, p x ≠ p b → R x b := fun b hb =>
      hcross x List.mem_cons_self b (List.mem_cons_of_mem _ hb)
    cases hp : p x with
    | true =>
      rw [List.filter_cons_of_pos hp, List.filter_cons_of_neg (by simp [hp]), List.pairwise_cons,
        List.pairwise_cons, hrest]
      constructor
      · rintro ⟨hhead, hsame, hother⟩
        exact ⟨⟨fun b hb => hhead b (List.mem_of_mem_filter hb), hsame⟩, hother⟩
      · rintro ⟨⟨hhead, hsame⟩, hother⟩
        refine ⟨fun b hb => ?_, hsame, hother⟩
        cases hpb : p b with
        | true => exact hhead b (List.mem_filter.mpr ⟨hb, hpb⟩)
        | false => exact hx b hb (by simp [hp, hpb])
    | false =>
      rw [List.filter_cons_of_neg (by simp [hp]), List.filter_cons_of_pos (by simp [hp]),
        List.pairwise_cons, List.pairwise_cons, hrest]
      constructor
      · rintro ⟨hhead, hsame, hother⟩
        exact ⟨hsame, fun b hb => hhead b (List.mem_of_mem_filter hb), hother⟩
      · rintro ⟨hsame, hhead, hother⟩
        refine ⟨fun b hb => ?_, hsame, hother⟩
        cases hpb : p b with
        | true => exact hx b hb (by simp [hp, hpb])
        | false => exact hhead b (List.mem_filter.mpr ⟨hb, by simp [hpb]⟩)

end Pairs

def probeDefaults (deviceType : String) : List Int :=
  (deviceRegistry.lookup deviceType).elim [] ValidationModule.defaultCandidates

inductive Placed (device : PyDict) : Prop
  | fixed (bus : Int) (htype : ∀ name, isType device name = ("ltr390" == name))
      (hbus : (deviceConfig device).get? "i2c_bus" = some (.int bus))
  | probed (deviceType : String) (bus : Int) (hprobed : deviceType = "bme280" ∨ deviceType = "sht35")
      (htype : ∀ name, isType device name = (deviceType == name))
      (hbus : (deviceConfig device).get? "i2c_bus" = some (.int bus))
      (hcandidates : IsCandidates (probeDefaults deviceType)
        ((deviceConfig device).getD "i2c_address_candidates"))
  | elsewhere (hbus : (deviceConfig device).get? "i2c_bus" = none)

theorem placed {device : PyDict} (h : IsDefinition device) : Placed device := by
  obtain ⟨deviceType, config, h⟩ := h
  have hconfig := deviceConfig_eq h.body
  have htype := isType_eq h.type
  have hnone : "i2c_bus" ∉ config.keys → config.get? "i2c_bus" = none := by
    intro hmem
    cases hget : config.get? "i2c_bus" with
    | none => rfl
    | some v => exact (hmem (PyDict.mem_keys_of_get? hget)).elim
  cases h.accepted with
  | bme280 hc =>
    obtain ⟨bus, hbus, -⟩ := hc.i2c.bus
    exact .probed "bme280" bus (.inl rfl) htype (hconfig ▸ hbus) (hconfig ▸ hc.candidates)
  | sht35 hc =>
    obtain ⟨bus, hbus, -⟩ := hc.i2c.bus
    exact .probed "sht35" bus (.inr rfl) htype (hconfig ▸ hbus) (hconfig ▸ hc.candidates)
  | ltr390 hc =>
    obtain ⟨bus, hbus, -⟩ := hc.i2c.bus
    exact .fixed bus htype (hconfig ▸ hbus)
  | ds18b20 hc =>
    exact .elsewhere (hconfig ▸ hnone (fun hkey => absurd (hc.keys _ hkey) (by decide)))
  | yl69_fc28 hc =>
    exact .elsewhere (hconfig ▸ hnone (fun hkey => absurd (hc.keys _ hkey) (by decide)))

def candidateOf (entry : PyDict × Nat) : Option CandidateSensor :=
  let config := deviceConfig entry.1
  match config.get? "i2c_bus" with
  | none => none
  | some bus =>
    let sensor (deviceType : String) : CandidateSensor :=
      ⟨deviceType, bus, qualifier entry.2 entry.1, config.getD "i2c_address_candidates"⟩
    if isType entry.1 "bme280" then some (sensor "bme280")
    else if isType entry.1 "sht35" then some (sensor "sht35")
    else none

def fixedBus? (device : PyDict) : Option Int :=
  if isType device "ltr390" then i2cBus? device else none

def fixedBuses (devices : List (PyDict × Nat)) : List Int :=
  devices.filterMap (fun entry => fixedBus? entry.1)

theorem ownerOf_isNone {α : Type} {owners : List (PyValue × α)} {buses : List Int}
    (h : Holds owners buses) (bus : Int) :
    (ownerOf owners (.int bus)).isNone = true ↔ bus ∉ buses := by
  constructor
  · intro hnone
    exact ownerOf_none h (by simpa using hnone)
  · intro hmem
    rw [Option.isNone_iff_eq_none, ownerOf, Option.map_eq_none_iff, List.find?_eq_none]
    rintro ⟨key, owner⟩ howner hkey
    have hfst : key ∈ owners.map Prod.fst := List.mem_map_of_mem (f := Prod.fst) howner
    rw [h] at hfst
    obtain ⟨n, hn, rfl⟩ := List.mem_map.mp hfst
    simp only [pyEq_int, decide_eq_true_eq] at hkey
    exact hmem (hkey ▸ hn)

theorem refuseOwned_ok_iff {α : Type} {owner : Option α} {message : α → String} :
    refuseOwned owner message = .ok () ↔ owner.isNone = true := by
  cases owner <;> simp [refuseOwned]

theorem seq_ok_iff {ε α β : Type} {r : Except ε α} {f : α → Except ε β} {b : β} :
    (r >>= f) = .ok b ↔ ∃ a, r = .ok a ∧ f a = .ok b := by
  refine ⟨seq_ok, ?_⟩
  rintro ⟨a, rfl, h⟩
  exact h

theorem then_ok_iff {ε β : Type} {r : Except ε Unit} {s : Except ε β} {b : β} :
    (r >>= fun _ => s) = .ok b ↔ r = .ok () ∧ s = .ok b := by
  rw [seq_ok_iff]
  exact ⟨fun ⟨_, hr, hs⟩ => ⟨hr, hs⟩, fun ⟨hr, hs⟩ => ⟨(), hr, hs⟩⟩

theorem candidateSensors_ok_iff {devices : List (PyDict × Nat)} {owners : List (PyValue × String)}
    {buses : List Int} (hdevices : ∀ entry ∈ devices, Placed entry.1) (hholds : Holds owners buses)
    (sensors : List CandidateSensor) :
    candidateSensors owners devices = .ok sensors ↔
      sensors = devices.filterMap candidateOf ∧ (fixedBuses devices).Nodup ∧
        ∀ bus ∈ fixedBuses devices, bus ∉ buses := by
  induction devices generalizing owners buses sensors with
  | nil => simp [candidateSensors, fixedBuses, eq_comm]
  | cons entry rest ih =>
    obtain ⟨device, index⟩ := entry
    have hrest : ∀ entry ∈ rest, Placed entry.1 :=
      fun entry hentry => hdevices entry (List.mem_cons_of_mem _ hentry)
    have hplaced : Placed device := hdevices _ List.mem_cons_self
    unfold candidateSensors
    dsimp only
    cases hplaced with
    | elsewhere hbus =>
      have hcandidate : candidateOf (device, index) = none := by simp [candidateOf, hbus]
      have hfixed : fixedBuses ((device, index) :: rest) = fixedBuses rest := by
        simp [fixedBuses, fixedBus?, i2cBus?, hbus]
      rw [hbus, hfixed, List.filterMap_cons_none hcandidate]
      exact ih hrest hholds sensors
    | fixed bus htype hbus =>
      have hcandidate : candidateOf (device, index) = none := by simp [candidateOf, hbus, htype]
      have hfixed : fixedBuses ((device, index) :: rest) = bus :: fixedBuses rest := by
        simp [fixedBuses, fixedBus?, i2cBus?, hbus, htype]
      rw [hbus, hfixed, List.filterMap_cons_none hcandidate]
      dsimp only
      rw [if_pos (by simp [htype]), then_ok_iff]
      have hholds' : Holds ((PyValue.int bus, qualifier index device) :: owners) (bus :: buses) := by
        simpa [Holds] using hholds
      simp only [refuseOwned_ok_iff, ownerOf_isNone hholds, ih hrest hholds',
        List.nodup_cons, List.mem_cons, not_or, forall_eq_or_imp]
      constructor
      · rintro ⟨hfree, rfl, hnodup, hother⟩
        exact ⟨rfl, ⟨fun hmem => (hother bus hmem).1 rfl, hnodup⟩, hfree,
          fun b hb => (hother b hb).2⟩
      · rintro ⟨rfl, ⟨hnew, hnodup⟩, hfree, hother⟩
        exact ⟨hfree, rfl, hnodup, fun b hb => ⟨fun heq => hnew (heq ▸ hb), hother b hb⟩⟩
    | probed deviceType bus hprobed htype hbus hcandidates =>
      have hfixed : fixedBuses ((device, index) :: rest) = fixedBuses rest := by
        rcases hprobed with rfl | rfl <;> simp [fixedBuses, fixedBus?, htype]
      have hcandidate : candidateOf (device, index) = some ⟨deviceType, .int bus,
          qualifier index device, (deviceConfig device).getD "i2c_address_candidates"⟩ := by
        rcases hprobed with rfl | rfl <;> simp [candidateOf, hbus, htype]
      have hpass : ∀ sensor : CandidateSensor, (do
          let others ← candidateSensors owners rest
          pure (sensor :: others)) = .ok sensors ↔
          sensors = sensor :: rest.filterMap candidateOf ∧ (fixedBuses rest).Nodup ∧
            ∀ bus ∈ fixedBuses rest, bus ∉ buses := by
        intro sensor
        simp only [seq_ok_iff, ih hrest hholds]
        constructor
        · rintro ⟨others, ⟨rfl, hfixed⟩, hsensors⟩
          cases hsensors
          exact ⟨rfl, hfixed⟩
        · rintro ⟨rfl, hfixed⟩
          exact ⟨_, ⟨rfl, hfixed⟩, rfl⟩
      rw [hbus, hfixed, List.filterMap_cons_some hcandidate]
      dsimp only
      rw [← hpass]
      rcases hprobed with rfl | rfl <;> simp [htype]

def CandidateSensor.addresses (sensor : CandidateSensor) : List Int :=
  (sensor.effective (probeDefaults sensor.deviceType)).filterMap PyValue.int?

def Apart (s t : CandidateSensor) : Prop := ∀ a ∈ s.addresses, a ∉ t.addresses

structure CandidateSensor.Sound (sensor : CandidateSensor) : Prop where
  type : sensor.deviceType = "bme280" ∨ sensor.deviceType = "sht35"
  bus : ∃ bus, sensor.bus = .int bus
  effective : sensor.effective (probeDefaults sensor.deviceType) = sensor.addresses.map .int
  nonempty : sensor.addresses ≠ []
  nodup : sensor.addresses.Nodup
  valid : ∀ a ∈ sensor.addresses, a ∈ probeDefaults sensor.deviceType

theorem CandidateSensor.Sound.of_candidates {sensor : CandidateSensor} {bus : Int}
    (htype : sensor.deviceType = "bme280" ∨ sensor.deviceType = "sht35")
    (hbus : sensor.bus = .int bus)
    (hcandidates : IsCandidates (probeDefaults sensor.deviceType) sensor.candidates) :
    sensor.Sound := by
  have hints : ∀ addresses : List Int,
      (addresses.map PyValue.int).filterMap PyValue.int? = addresses := by
    intro addresses
    rw [List.filterMap_map]
    exact List.filterMap_some
  have hdefaults : probeDefaults sensor.deviceType ≠ [] ∧
      (probeDefaults sensor.deviceType).Nodup := by
    rcases htype with h | h <;> rw [h] <;> decide
  rcases hcandidates with hnone | ⟨addresses, hlist, hne, hnodup, hvalid⟩
  · have heffective : sensor.effective (probeDefaults sensor.deviceType) =
        (probeDefaults sensor.deviceType).map .int := by rw [CandidateSensor.effective, hnone]
    have haddresses : sensor.addresses = probeDefaults sensor.deviceType := by
      rw [CandidateSensor.addresses, heffective, hints]
    refine ⟨htype, ⟨bus, hbus⟩, by rw [heffective, haddresses], ?_, ?_, fun a ha => haddresses ▸ ha⟩
    · rw [haddresses]
      exact hdefaults.1
    · rw [haddresses]
      exact hdefaults.2
  · have heffective : sensor.effective (probeDefaults sensor.deviceType) = addresses.map .int := by
      rw [CandidateSensor.effective, hlist]
    have haddresses : sensor.addresses = addresses := by
      rw [CandidateSensor.addresses, heffective, hints]
    exact ⟨htype, ⟨bus, hbus⟩, by rw [heffective, haddresses], haddresses ▸ hne,
      haddresses ▸ hnodup, fun a ha => hvalid a (haddresses ▸ ha)⟩

/-- Each sensor names one address, and none of them twice. -/
theorem addressConflict_eq_false_iff {deviceType : String} {group : List CandidateSensor}
    (hgroup : ∀ sensor ∈ group, sensor.Sound ∧ sensor.deviceType = deviceType) (seen : List Int) :
    addressConflict (probeDefaults deviceType) (seen.map .int) group = false ↔
      (∀ sensor ∈ group, ∃ a, sensor.addresses = [a] ∧ a ∉ seen) ∧ group.Pairwise Apart := by
  induction group generalizing seen with
  | nil => simp [addressConflict]
  | cons sensor rest ih =>
    obtain ⟨hsound, rfl⟩ := hgroup sensor List.mem_cons_self
    have hrest := ih (fun t ht => hgroup t (List.mem_cons_of_mem _ ht))
    unfold addressConflict
    rw [hsound.effective]
    match haddresses : sensor.addresses with
    | [] => exact (hsound.nonempty haddresses).elim
    | [a] =>
      have hany : (seen.map PyValue.int).any (fun b => b.pyEq (.int a)) = decide (a ∈ seen) := by
        rw [Bool.eq_iff_iff, List.any_map, List.any_eq_true, decide_eq_true_eq]
        constructor
        · rintro ⟨b, hb, hsame⟩
          have hba : b = a := by simpa using hsame
          exact hba ▸ hb
        · exact fun ha => ⟨a, ha, by simp⟩
      have hstep : addressConflict (probeDefaults sensor.deviceType)
          (PyValue.int a :: seen.map PyValue.int) rest = false ↔
            (∀ t ∈ rest, ∃ b, t.addresses = [b] ∧ b ∉ a :: seen) ∧ rest.Pairwise Apart :=
        hrest (a :: seen)
      show ((seen.map PyValue.int).any (fun b => b.pyEq (.int a)) ||
        addressConflict _ (PyValue.int a :: seen.map PyValue.int) rest) = false ↔ _
      rw [hany, Bool.or_eq_false_iff, decide_eq_false_iff_not, hstep, List.pairwise_cons]
      constructor
      · rintro ⟨hnew, hone, hpairs⟩
        refine ⟨fun t ht => ?_, fun t ht b hb => ?_, hpairs⟩
        · rcases List.mem_cons.mp ht with rfl | ht
          · exact ⟨a, haddresses, hnew⟩
          · obtain ⟨b, hb, hother⟩ := hone t ht
            exact ⟨b, hb, fun hmem => hother (List.mem_cons_of_mem _ hmem)⟩
        · obtain ⟨c, hc, hother⟩ := hone t ht
          rw [haddresses, List.mem_singleton] at hb
          rw [hc, List.mem_singleton, hb]
          rintro rfl
          exact hother List.mem_cons_self
      · rintro ⟨hone, hhead, hpairs⟩
        refine ⟨?_, fun t ht => ?_, hpairs⟩
        · obtain ⟨b, hb, hnew⟩ := hone sensor List.mem_cons_self
          rw [haddresses] at hb
          cases hb
          exact hnew
        · obtain ⟨b, hb, hnew⟩ := hone t (List.mem_cons_of_mem _ ht)
          refine ⟨b, hb, fun hmem => ?_⟩
          rcases List.mem_cons.mp hmem with rfl | hmem
          · exact hhead t ht b (by rw [haddresses]; exact List.mem_cons_self)
              (by rw [hb]; exact List.mem_cons_self)
          · exact hnew hmem
    | a :: b :: more =>
      show true = false ↔ _
      refine ⟨fun h => (by cases h), ?_⟩
      rintro ⟨hone, -⟩
      obtain ⟨c, hc, -⟩ := hone sensor List.mem_cons_self
      rw [haddresses] at hc
      cases hc

theorem Apart.single {s t : CandidateSensor} (hs : s.Sound) (ht : t.Sound)
    (htype : s.deviceType = t.deviceType) (h : Apart s t) : ∃ a, s.addresses = [a] := by
  have htwo : ∃ x y, probeDefaults s.deviceType = [x, y] := by
    rcases hs.type with h | h <;> rw [h] <;> exact ⟨_, _, rfl⟩
  obtain ⟨x, y, hxy⟩ := htwo
  match haddresses : s.addresses with
  | [] => exact (hs.nonempty haddresses).elim
  | [a] => exact ⟨a, rfl⟩
  | a :: b :: more =>
    have hne : a ≠ b := by
      have hnodup := hs.nodup
      rw [haddresses, List.nodup_cons] at hnodup
      rintro rfl
      exact hnodup.1 List.mem_cons_self
    have ha := hs.valid a (by rw [haddresses]; exact List.mem_cons_self)
    have hb := hs.valid b (by rw [haddresses]; exact List.mem_cons_of_mem _ List.mem_cons_self)
    obtain ⟨c, hc⟩ := List.exists_mem_of_ne_nil _ ht.nonempty
    have hvalid := ht.valid c hc
    rw [← htype] at hvalid
    rw [hxy, List.mem_cons, List.mem_singleton] at ha hb hvalid
    have hshared : c = a ∨ c = b := by omega
    have hmem : c ∈ s.addresses := by
      rw [haddresses]
      rcases hshared with rfl | rfl <;> simp
    exact (h c hmem hc).elim

theorem Apart.symm {s t : CandidateSensor} (h : Apart s t) : Apart t s :=
  fun a ht hs => h a hs ht

theorem refuseIf_ok_iff {condition : Bool} {message : String} :
    refuseIf condition message = .ok () ↔ condition = false := by
  cases condition <;> simp [refuseIf]

theorem checkCandidateGroup_ok_iff {deviceType : String} {group : List CandidateSensor}
    (hgroup : ∀ sensor ∈ group, sensor.Sound ∧ sensor.deviceType = deviceType) :
    checkCandidateGroup group = .ok () ↔ group.Pairwise Apart := by
  match group with
  | [] => simp [checkCandidateGroup]
  | [sensor] => simp [checkCandidateGroup]
  | first :: second :: rest =>
    have hfirst := hgroup first List.mem_cons_self
    have hconflict := addressConflict_eq_false_iff hgroup []
    dsimp only [checkCandidateGroup]
    rw [refuseIf_ok_iff, hfirst.2]
    refine hconflict.trans ⟨fun h => h.2, fun h => ⟨fun sensor hsensor => ?_, h⟩⟩
    have hother : ∃ t ∈ first :: second :: rest, Apart sensor t := by
      rcases List.mem_cons.mp hsensor with rfl | hlater
      · exact ⟨second, by simp, (List.pairwise_cons.mp h).1 second List.mem_cons_self⟩
      · exact ⟨first, by simp, ((List.pairwise_cons.mp h).1 sensor hlater).symm⟩
    obtain ⟨t, ht, hapart⟩ := hother
    obtain ⟨a, ha⟩ := hapart.single (hgroup sensor hsensor).1 (hgroup t ht).1
      ((hgroup sensor hsensor).2.trans (hgroup t ht).2.symm)
    exact ⟨a, ha, List.not_mem_nil⟩

theorem forM_ok_iff {ε β : Type} {f : β → Except ε Unit} {xs : List β} :
    xs.forM f = .ok () ↔ ∀ x ∈ xs, f x = .ok () := by
  induction xs with
  | nil => exact ⟨fun _ x hx => (List.not_mem_nil hx).elim, fun _ => rfl⟩
  | cons x xs ih =>
    have hsplit : (x :: xs).forM f = .ok () ↔ f x = .ok () ∧ xs.forM f = .ok () := then_ok_iff
    rw [hsplit, ih, List.forall_mem_cons]

/-- The groups are checked one by one, which covers all pairs on one bus. -/
theorem byBus_pairwise_iff {fuel : Nat} {sensors : List CandidateSensor}
    (hfuel : sensors.length ≤ fuel) (hbus : ∀ s ∈ sensors, ∃ bus, s.bus = .int bus) :
    (∀ group ∈ byBus fuel sensors, group.Pairwise Apart) ↔
      sensors.Pairwise (fun s t => s.bus = t.bus → Apart s t) := by
  induction fuel generalizing sensors with
  | zero =>
    have hnil : sensors = [] := List.length_eq_zero_iff.mp (by omega)
    subst hnil
    simp [byBus]
  | succ fuel ih =>
    cases sensors with
    | nil => simp [byBus]
    | cons s rest =>
      have hsame : ∀ t ∈ s :: rest, ∀ u ∈ s :: rest, (t.bus.pyEq u.bus = true ↔ t.bus = u.bus) := by
        intro t ht u hu
        obtain ⟨b, hb⟩ := hbus t ht
        obtain ⟨c, hc⟩ := hbus u hu
        simp [hb, hc]
      have hlength : (rest.filter (fun other => !other.bus.pyEq s.bus)).length ≤ fuel := by
        have hle := List.length_filter_le (fun other => !other.bus.pyEq s.bus) rest
        simp only [List.length_cons] at hfuel
        omega
      have hothers := ih hlength (fun t ht => hbus t
        (List.mem_cons_of_mem _ (List.mem_of_mem_filter ht)))
      have hcross : ∀ t ∈ rest, ∀ u ∈ rest, t.bus.pyEq s.bus ≠ u.bus.pyEq s.bus →
          t.bus = u.bus → Apart t u := fun t _ u _ hne hbuses => (hne (by rw [hbuses])).elim
      rw [byBus, List.forall_mem_cons, hothers, List.pairwise_cons, List.pairwise_cons,
        pairwise_filter_iff rest hcross, and_assoc]
      refine and_congr ?_ (and_congr ?_ Iff.rfl)
      · constructor
        · intro h t ht hbuses
          refine h t (List.mem_filter.mpr ⟨ht, ?_⟩)
          exact (hsame t (List.mem_cons_of_mem _ ht) s List.mem_cons_self).mpr hbuses.symm
        · intro h t ht
          obtain ⟨ht, hbuses⟩ := List.mem_filter.mp ht
          exact h t ht ((hsame t (List.mem_cons_of_mem _ ht) s List.mem_cons_self).mp hbuses).symm
      · refine ⟨List.Pairwise.imp (S := fun t u => t.bus = u.bus → Apart t u)
          (fun hapart _ => hapart), fun h => ?_⟩
        refine List.Pairwise.imp_of_mem ?_ h
        intro t u ht hu hapart
        obtain ⟨ht, htbus⟩ := List.mem_filter.mp ht
        obtain ⟨hu, hubus⟩ := List.mem_filter.mp hu
        refine hapart ?_
        rw [(hsame t (List.mem_cons_of_mem _ ht) s List.mem_cons_self).mp htbus,
          (hsame u (List.mem_cons_of_mem _ hu) s List.mem_cons_self).mp hubus]

theorem mem_byBus {fuel : Nat} {sensors group : List CandidateSensor}
    (h : group ∈ byBus fuel sensors) : ∀ s ∈ group, s ∈ sensors := by
  induction fuel generalizing sensors with
  | zero => cases sensors <;> simp [byBus] at h
  | succ fuel ih =>
    cases sensors with
    | nil => simp [byBus] at h
    | cons s rest =>
      intro t ht
      rcases List.mem_cons.mp h with rfl | hlater
      · rcases List.mem_cons.mp ht with rfl | ht
        · exact List.mem_cons_self
        · exact List.mem_cons_of_mem _ (List.mem_of_mem_filter ht)
      · exact List.mem_cons_of_mem _ (List.mem_of_mem_filter (ih hlater t ht))

theorem apart_of_types {s t : CandidateSensor} (hs : s.Sound) (ht : t.Sound)
    (htypes : s.deviceType ≠ t.deviceType) : Apart s t := by
  have hdefaults : ∀ a ∈ probeDefaults "bme280", a ∉ probeDefaults "sht35" := by decide
  intro a has hat
  have hsvalid := hs.valid a has
  have htvalid := ht.valid a hat
  rcases hs.type with hbme | hsht
  · rcases ht.type with hbme' | hsht'
    · exact htypes (hbme.trans hbme'.symm)
    · exact hdefaults a (hbme ▸ hsvalid) (hsht' ▸ htvalid)
  · rcases ht.type with hbme' | hsht'
    · exact hdefaults a (hbme' ▸ htvalid) (hsht ▸ hsvalid)
    · exact htypes (hsht.trans hsht'.symm)

/-- All pairs of probing sensors on one bus: chips of different types have different addresses. -/
theorem checkCandidateSensors_ok_iff {sensors : List CandidateSensor}
    (hsensors : ∀ s ∈ sensors, s.Sound) :
    checkCandidateSensors sensors = .ok () ↔
      sensors.Pairwise (fun s t => s.bus = t.bus → Apart s t) := by
  have htype : ∀ deviceType, (byBus sensors.length
      (sensors.filter (fun s => s.deviceType = deviceType))).forM checkCandidateGroup = .ok () ↔
        (sensors.filter (fun s => s.deviceType = deviceType)).Pairwise
          (fun s t => s.bus = t.bus → Apart s t) := by
    intro deviceType
    rw [← byBus_pairwise_iff (List.length_filter_le _ _)
      (fun s hs => (hsensors s (List.mem_of_mem_filter hs)).bus), forM_ok_iff]
    refine forall₂_congr (fun group hgroup =>
      @checkCandidateGroup_ok_iff deviceType group (fun s hs => ?_))
    have hs := mem_byBus hgroup s hs
    exact ⟨hsensors s (List.mem_of_mem_filter hs), by simpa using (List.mem_filter.mp hs).2⟩
  have hcross : ∀ s ∈ sensors, ∀ t ∈ sensors,
      decide (s.deviceType = "bme280") ≠ decide (t.deviceType = "bme280") →
        s.bus = t.bus → Apart s t := by
    intro s hs t ht hne _
    exact apart_of_types (hsensors s hs) (hsensors t ht) (fun heq => hne (by rw [heq]))
  have hother : sensors.filter (fun s => !decide (s.deviceType = "bme280")) =
      sensors.filter (fun s => s.deviceType = "sht35") := by
    refine List.filter_congr (fun s hs => ?_)
    rcases (hsensors s hs).type with h | h <;> simp [h]
  rw [pairwise_filter_iff sensors hcross, hother]
  have hboth := and_congr (htype "bme280") (htype "sht35")
  rw [← hboth]
  unfold checkCandidateSensors
  rw [forM_ok_iff]
  cases sensors with
  | nil => simp [typeOrder, byBus, pure, Except.pure]
  | cons first rest =>
    unfold typeOrder
    dsimp only
    split
    · simp only [List.forall_mem_cons, List.not_mem_nil, false_implies, implies_true, and_true]
    · simp only [List.forall_mem_cons, List.not_mem_nil, false_implies, implies_true, and_true]
      exact and_comm

inductive Bound (entry : PyDict × Nat) : Prop
  | fixed (bus : Int) (hfixed : fixedBus? entry.1 = some bus) (hcandidate : candidateOf entry = none)
      (hbus : i2cBus? entry.1 = some bus) (haddresses : effectiveAddresses entry.1 = [LTR390_ADDRESS])
  | probed (sensor : CandidateSensor) (bus : Int) (hfixed : fixedBus? entry.1 = none)
      (hcandidate : candidateOf entry = some sensor) (hbus : i2cBus? entry.1 = some bus)
      (hsound : sensor.Sound) (hsensor : sensor.bus = .int bus)
      (haddresses : effectiveAddresses entry.1 = sensor.addresses)
  | elsewhere (hfixed : fixedBus? entry.1 = none) (hcandidate : candidateOf entry = none)
      (hbus : i2cBus? entry.1 = none)

theorem Placed.bound {entry : PyDict × Nat} (h : Placed entry.1) : Bound entry := by
  cases h with
  | fixed bus htype hbus =>
    have hi2c : i2cBus? entry.1 = some bus := by rw [i2cBus?, hbus]
    exact .fixed bus (by simp [fixedBus?, htype, hi2c]) (by simp [candidateOf, hbus, htype]) hi2c
      (by simp [effectiveAddresses, htype])
  | elsewhere hbus =>
    have hi2c : i2cBus? entry.1 = none := by rw [i2cBus?, hbus]
    exact .elsewhere (by simp [fixedBus?, hi2c]) (by simp [candidateOf, hbus]) hi2c
  | probed deviceType bus hprobed htype hbus hcandidates =>
    have hi2c : i2cBus? entry.1 = some bus := by rw [i2cBus?, hbus]
    have hsound := @CandidateSensor.Sound.of_candidates ⟨deviceType, .int bus,
      qualifier entry.2 entry.1, (deviceConfig entry.1).getD "i2c_address_candidates"⟩ bus
      hprobed rfl hcandidates
    refine .probed _ bus ?_ ?_ hi2c hsound rfl ?_
    · rcases hprobed with rfl | rfl <;> simp [fixedBus?, htype]
    · rcases hprobed with rfl | rfl <;> simp [candidateOf, hbus, htype]
    · unfold effectiveAddresses CandidateSensor.addresses CandidateSensor.effective
      rcases hcandidates with hnone | ⟨addresses, hlist, -⟩
      · rw [hnone]
        rcases hprobed with rfl | rfl <;> rw [htype, htype] <;> rfl
      · rw [hlist]
        rcases hprobed with rfl | rfl <;> rw [htype] <;> rfl

theorem fixed_notMem {sensor : CandidateSensor} (h : sensor.Sound) :
    LTR390_ADDRESS ∉ sensor.addresses := by
  intro hmem
  have hvalid := h.valid _ hmem
  rcases h.type with htype | htype <;> rw [htype] at hvalid <;> exact absurd hvalid (by decide)

theorem exclusive_iff {a b : PyDict × Nat} (ha : Bound a) (hb : Bound b) :
    ((∀ x, fixedBus? a.1 = some x → ∀ y, fixedBus? b.1 = some y → x ≠ y) ∧
      ∀ s, candidateOf a = some s → ∀ t, candidateOf b = some t → s.bus = t.bus → Apart s t) ↔
      Exclusive a.1 b.1 := by
  unfold Exclusive
  cases ha with
  | elsewhere hfixed hcandidate hbus => simp [hfixed, hcandidate, hbus]
  | fixed bus hfixed hcandidate hbus haddresses =>
    cases hb with
    | elsewhere hfixed' hcandidate' hbus' => simp [hfixed', hcandidate', hbus']
    | fixed bus' hfixed' hcandidate' hbus' haddresses' =>
      simp [hfixed, hcandidate, hbus, haddresses, hfixed', hbus', haddresses', eq_comm]
    | probed sensor bus' hfixed' hcandidate' hbus' hsound hsensor haddresses' =>
      simp [hcandidate, haddresses, hfixed', haddresses', fixed_notMem hsound]
  | probed sensor bus hfixed hcandidate hbus hsound hsensor haddresses =>
    cases hb with
    | elsewhere hfixed' hcandidate' hbus' => simp [hfixed', hcandidate', hbus']
    | fixed bus' hfixed' hcandidate' hbus' haddresses' =>
      simp only [hfixed, hcandidate', haddresses, haddresses', List.mem_singleton]
      refine ⟨fun _ _ _ _ address haddress heq => ?_, fun _ => ⟨by simp, by simp⟩⟩
      exact fixed_notMem hsound (heq ▸ haddress)
    | probed sensor' bus' hfixed' hcandidate' hbus' hsound' hsensor' haddresses' =>
      simp only [hfixed, hcandidate, hbus, haddresses, hcandidate', hbus', haddresses',
        Option.some.injEq, Apart]
      constructor
      · rintro ⟨-, h⟩ bus rfl rfl
        exact h sensor rfl sensor' rfl (hsensor.trans hsensor'.symm)
      · intro h
        refine ⟨fun x hx => (by cases hx), ?_⟩
        rintro s rfl t rfl hbuses
        rw [hsensor, hsensor', PyValue.int.injEq] at hbuses
        exact h bus rfl hbuses.symm

/-- The stage accepts the devices of a list exactly when no two I2C definitions on one bus may bind
the same address. -/
theorem checkPhysicalSensors_ok_iff {entries : List (PyValue × Nat)}
    {devices : List (PyDict × Nat)} (h : validateEachDevice [] entries = .ok devices) :
    checkPhysicalSensors devices = .ok () ↔
      devices.Pairwise (fun a b => Exclusive a.1 b.1) := by
  have hplaced : ∀ entry ∈ devices, Placed entry.1 := fun entry hentry =>
    placed (((validateEachDevice_post [] entries).of_ok h).2 entry hentry)
  have hbound : ∀ entry ∈ devices, Bound entry := fun entry hentry => (hplaced entry hentry).bound
  have hsound : ∀ s ∈ devices.filterMap candidateOf, s.Sound := by
    intro s hs
    obtain ⟨entry, hentry, hcandidate⟩ := List.mem_filterMap.mp hs
    cases hbound entry hentry with
    | probed sensor bus hfixed hsensor hbus hsound =>
      rw [hcandidate, Option.some.injEq] at hsensor
      rwa [hsensor]
    | fixed bus hfixed hnone => rw [hcandidate] at hnone; cases hnone
    | elsewhere hfixed hnone => rw [hcandidate] at hnone; cases hnone
  have hstage : checkPhysicalSensors devices = .ok () ↔ (fixedBuses devices).Nodup ∧
      checkCandidateSensors (devices.filterMap candidateOf) = .ok () := by
    unfold checkPhysicalSensors
    have hempty : Holds ([] : List (PyValue × String)) [] := rfl
    simp only [seq_ok_iff, candidateSensors_ok_iff hplaced hempty]
    constructor
    · rintro ⟨sensors, ⟨rfl, hfixed, -⟩, hcheck⟩
      exact ⟨hfixed, hcheck⟩
    · rintro ⟨hfixed, hcheck⟩
      exact ⟨_, ⟨rfl, hfixed, fun _ _ => List.not_mem_nil⟩, hcheck⟩
  rw [hstage, checkCandidateSensors_ok_iff hsound, fixedBuses, List.Nodup, List.pairwise_filterMap,
    List.pairwise_filterMap, ← List.pairwise_and_iff]
  exact List.Pairwise.iff_of_mem (fun ha hb => exclusive_iff (hbound _ ha) (hbound _ hb))

def i2cDevice (deviceId deviceType : String) (config : PyDict) : PyValue :=
  .dict [(.str "id", .str deviceId), (.str "device_type", .str deviceType),
    (.str "config", .dict ((.str "i2c_bus", .int 0) :: config))]

def oneBus : List PyValue :=
  [i2cDevice "indoor" "bme280" [(.str "sea_level_pressure_pa", .int 101325),
      (.str "i2c_address_candidates", .list [.int 118])],
    i2cDevice "attic" "bme280" [(.str "sea_level_pressure_pa", .int 101325),
      (.str "i2c_address_candidates", .list [.int 119])],
    i2cDevice "light" "ltr390" []]

theorem checkPhysicalSensors_oneBus : ∃ devices,
    validateEachDevice [] oneBus.zipIdx = .ok devices ∧
      devices.Pairwise (fun a b => Exclusive a.1 b.1) := by
  have hok : (validateEachDevice [] oneBus.zipIdx >>= checkPhysicalSensors).isOk = true := by
    decide
  cases hrun : validateEachDevice [] oneBus.zipIdx >>= checkPhysicalSensors with
  | error e =>
    rw [hrun] at hok
    cases hok
  | ok u =>
    obtain ⟨devices, h, hcheck⟩ := seq_ok hrun
    exact ⟨devices, h, (checkPhysicalSensors_ok_iff h).mp hcheck⟩

end PicoDualCore
