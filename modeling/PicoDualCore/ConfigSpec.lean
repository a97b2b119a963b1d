import PicoDualCore.ValidationSpec
set_option autoImplicit false

/-!
What the validation of a complete configuration lets through, and how it fails on everything
else: the one way out that is no refusal is the scan for unknown fields, which looks a device
type up before its type has been checked.
-/

namespace PicoDualCore
open ExceptPost

def ConfigFailure.Refusal (e : ConfigFailure) : Prop :=
  ∃ error code, e = .config error ∧ error.code = some code ∧ code ∈ STABLE_CODES

abbrev ConfigPost {α : Type} (r : ConfigCheck α) (Q : α → Prop) : Prop :=
  Post r Q ConfigFailure.Refusal

theorem configRefusal {message code : String} {unknown : Option (List String)}
    {details : Option PyDict} (h : code ∈ STABLE_CODES) :
    (ConfigFailure.config ⟨message, some code, unknown, details⟩).Refusal :=
  ⟨_, code, rfl, rfl, h⟩

theorem DeviceFailure.Refusal.asConfig {e : DeviceFailure} (h : e.Refusal) :
    e.asConfig.Refusal := by
  obtain ⟨message, code, rfl, hcode⟩ := h
  exact configRefusal hcode

theorem refuseIf_post {condition : Bool} {message : String} :
    ConfigPost (refuseIf condition message) (fun _ => condition = false) := by
  cases condition with
  | true => exact configRefusal invalid_value_stable
  | false => exact rfl

theorem refuseOwned_post {α : Type} {owner : Option α} {message : α → String} :
    ConfigPost (refuseOwned owner message) (fun _ => True) := by
  cases owner with
  | some owner => exact configRefusal invalid_value_stable
  | none => trivial

theorem forall_mem_of_zipIdx {α : Type} {P : α → Prop} {xs : List α}
    (h : ∀ entry ∈ xs.zipIdx, P entry.1) : ∀ x ∈ xs, P x := by
  intro x hx
  obtain ⟨i, hi, hget⟩ := List.getElem_of_mem hx
  exact h (x, i) (List.mem_zipIdx_iff_getElem?.mpr (List.getElem?_eq_some_iff.mpr ⟨hi, hget⟩))

def IsText (v : PyValue) (s : String) : Prop := v = .str s ∧ s.toList ≠ []

theorem requireNonEmptyString_post (config : PyDict) (key : String) :
    ConfigPost (requireNonEmptyString config key) (IsText (config.getD key)) := by
  unfold requireNonEmptyString
  cases h : nonEmptyStr? (config.getD key) with
  | none => exact configRefusal invalid_value_stable
  | some s => exact nonEmptyStr?_some h

structure IsTopic (v : PyValue) (topic : String) : Prop where
  text : IsText v topic
  short : topic.toList.length ≤ MAX_MQTT_TOPIC_BYTES
  ascii : ∀ c ∈ topic.toList, topicChar c = true

theorem requireMqttTopic_post (config : PyDict) (key : String) :
    ConfigPost (requireMqttTopic config key) (IsTopic (config.getD key)) := by
  refine post_seq (requireNonEmptyString_post config key) (fun topic htext => ?_)
  refine post_seq refuseIf_post (fun _ h => ?_)
  simp only [Bool.or_eq_false_iff, decide_eq_false_iff_not, Nat.not_lt, Bool.not_eq_false'] at h
  exact ⟨htext, h.1, fun c hc => List.all_eq_true.mp h.2 c hc⟩

theorem requireDistinctTopics_post (seen topics : List (String × String)) :
    ConfigPost (requireDistinctTopics seen topics) (fun _ => True) := by
  induction topics generalizing seen with
  | nil => trivial
  | cons topic rest ih => exact post_seq refuseOwned_post (fun _ _ => ih _)

structure IsIpv4 (address : String) : Prop where
  parts : (address.toList.splitOn '.').length = 4
  digits : ∀ part ∈ address.toList.splitOn '.', ipv4Part part = true

theorem requireIpv4Address_post (key value : String) :
    ConfigPost (requireIpv4Address key value) (fun _ => IsIpv4 value) := by
  refine post_mono refuseIf_post (fun _ h => ?_) (fun _ h => h)
  simp only [Bool.or_eq_false_iff, bne_eq_false_iff_eq, Bool.not_eq_false'] at h
  exact ⟨h.1, fun part hpart => List.all_eq_true.mp h.2 part hpart⟩

theorem requireInteger_post (kind : String) (good : Int → Bool) (config : PyDict) (key : String) :
    ConfigPost (requireInteger kind good config key)
      (fun n => config.getD key = .int n ∧ good n = true) := by
  unfold requireInteger
  cases h : config.getD key with
  | int n => exact post_ite (fun hn => ⟨rfl, hn⟩) (fun _ => configRefusal invalid_value_stable)
  | _ => exact configRefusal invalid_value_stable

theorem requireAtLeast_post (config : PyDict) (key : String) (low : Int) :
    ConfigPost (requireAtLeast config key low) (fun _ => low ≤ config.intD key) :=
  post_mono refuseIf_post (fun _ h => by simpa using h) (fun _ h => h)

theorem requireAtMost_post (config : PyDict) (key : String) (high : Int) :
    ConfigPost (requireAtMost config key high) (fun _ => config.intD key ≤ high) :=
  post_mono refuseIf_post (fun _ h => by simpa using h) (fun _ h => h)

theorem requireTicksSafeInterval_post (config : PyDict) (key : String) (msPerUnit : Int) :
    ConfigPost (requireTicksSafeInterval config key msPerUnit)
      (fun _ => config.intD key * msPerUnit ≤ MAX_TICKS_SAFE_INTERVAL_MS) :=
  post_mono refuseIf_post (fun _ h => by simpa using h) (fun _ h => h)

def IsDelays (v : PyValue) : Prop :=
  ∃ delays : List PyValue, v = .list delays ∧ delays ≠ [] ∧
    delays.length ≤ MAX_RECONNECT_ATTEMPTS ∧
      ∀ delay ∈ delays, IsIntBetween 0 MAX_RECONNECT_DELAY_SEC delay

theorem validateDelay_post (key : String) (entry : PyValue × Nat) :
    ConfigPost (validateDelay key entry)
      (fun _ => IsIntBetween 0 MAX_RECONNECT_DELAY_SEC entry.1) := by
  obtain ⟨v, index⟩ := entry
  cases v with
  | int delay =>
    refine post_seq refuseIf_post (fun _ hlow => ?_)
    refine post_mono refuseIf_post (fun _ hhigh => ?_) (fun _ h => h)
    exact ⟨delay, rfl, by simpa using hlow, by simpa using hhigh⟩
  | _ => exact configRefusal invalid_value_stable

theorem validateDelays_post (config : PyDict) (key : String) :
    ConfigPost (validateDelays config key) (fun _ => IsDelays (config.getD key)) := by
  unfold validateDelays
  split
  · rename_i delay rest hlist
    refine post_seq refuseIf_post (fun _ hcount => ?_)
    refine post_mono (post_forM (delay :: rest).zipIdx (fun entry _ => validateDelay_post key entry))
      (fun _ hall => ?_) (fun _ h => h)
    exact ⟨delay :: rest, hlist, by simp, by simpa using hcount, forall_mem_of_zipIdx hall⟩
  · exact configRefusal invalid_value_stable

theorem PyDict.mem_keys_of_get? {d : PyDict} {key : String} {v : PyValue}
    (h : d.get? key = some v) : key ∈ d.keys := by
  induction d with
  | nil => cases h
  | cons item rest ih =>
    obtain ⟨k, w⟩ := item
    by_cases hk : k = .str key
    · simp [PyDict.keys, hk, PyKey.text]
    · rw [PyDict.get?, if_neg hk] at h
      exact List.mem_cons_of_mem _ (ih h)

def IsDefinition (device : PyDict) : Prop :=
  ∃ deviceType config, AcceptedDefinition device deviceType config

theorem i2cBusIdentity_ok {device : PyDict} (h : IsDefinition device) :
    ∃ identity, i2cBusIdentity device = .ok identity := by
  obtain ⟨deviceType, config, h⟩ := h
  unfold i2cBusIdentity
  simp only [h.body, h.type]
  cases hbus : PyDict.get? config "i2c_bus" with
  | none => exact ⟨none, rfl⟩
  | some bus =>
    have hkey := PyDict.mem_keys_of_get? hbus
    cases h.accepted with
    | bme280 _ => exact ⟨_, rfl⟩
    | ltr390 _ => exact ⟨_, rfl⟩
    | sht35 _ => exact ⟨_, rfl⟩
    | ds18b20 hc => exact absurd (hc.keys _ hkey) (by decide)
    | yl69_fc28 hc => exact absurd (hc.keys _ hkey) (by decide)

theorem validateEachDevice_post (seen : List String) (entries : List (PyValue × Nat)) :
    ConfigPost (validateEachDevice seen entries) (fun devices =>
      entries.map Prod.fst = devices.map (fun device => .dict device.1) ∧
        ∀ device ∈ devices, IsDefinition device.1) := by
  induction entries generalizing seen with
  | nil => exact ⟨rfl, by simp⟩
  | cons entry rest ih =>
    obtain ⟨v, index⟩ := entry
    cases v with
    | dict device =>
      unfold validateEachDevice
      have hrest : ConfigPost
          ((validateDeviceDefinition device).mapError DeviceFailure.asConfig >>= fun _ =>
            validateEachDevice ((nonEmptyStr? (PyDict.getD device "id")).toList ++ seen) rest >>=
              fun others => pure ((device, index) :: others))
          (fun devices => ((PyValue.dict device, index) :: rest).map Prod.fst =
            devices.map (fun device => .dict device.1) ∧
              ∀ device ∈ devices, IsDefinition device.1) := by
        refine post_seq (post_mapError (validateDeviceDefinition_post device)
          (fun _ h => h.asConfig)) (fun _ hdevice => ?_)
        refine post_seq (ih _) ?_
        rintro others ⟨hsame, hothers⟩
        refine ⟨by simp [hsame], fun d hd => ?_⟩
        rcases List.mem_cons.mp hd with rfl | hd
        · exact hdevice
        · exact hothers d hd
      cases hid : nonEmptyStr? (PyDict.getD device "id") with
      | none =>
        rw [hid] at hrest
        exact hrest
      | some deviceId =>
        rw [hid] at hrest
        exact post_seq refuseIf_post (fun _ _ => hrest)
    | _ => exact configRefusal invalid_value_stable

theorem checkBusSettings_post
    (owners : List (PyValue × String × PyValue × PyValue × PyValue))
    (devices : List (PyDict × Nat)) (h : ∀ device ∈ devices, IsDefinition device.1) :
    ConfigPost (checkBusSettings owners devices) (fun _ => True) := by
  induction devices generalizing owners with
  | nil => trivial
  | cons entry rest ih =>
    obtain ⟨device, index⟩ := entry
    have hrest : ∀ owners, ConfigPost (checkBusSettings owners rest) (fun _ => True) :=
      fun owners => ih owners (fun d hd => h d (List.mem_cons_of_mem _ hd))
    obtain ⟨identity, hid⟩ := i2cBusIdentity_ok (h _ List.mem_cons_self)
    unfold checkBusSettings
    have hpython : ConfigPost (ConfigCheck.ofPython (i2cBusIdentity device)) (fun _ => True) := by
      rw [hid]
      trivial
    refine post_seq hpython (fun settings _ => ?_)
    cases settings with
    | none => exact hrest owners
    | some settings =>
      obtain ⟨bus, sda, scl, freq⟩ := settings
      dsimp only
      cases ownerOf owners bus with
      | none => exact hrest _
      | some owner => exact post_seq refuseIf_post (fun _ _ => hrest _)

theorem claimSoilPins_post (onewire : List (PyValue × String)) (name : String) (config : PyDict)
    (owners : List (PyValue × String × String)) (keys : List String) :
    ConfigPost (claimSoilPins onewire name config owners keys) (fun _ => True) := by
  induction keys generalizing owners with
  | nil => trivial
  | cons key rest ih =>
    unfold claimSoilPins
    cases config.get? key with
    | none => exact ih owners
    | some pin =>
      exact post_seq refuseOwned_post (fun _ _ => post_seq refuseOwned_post (fun _ _ => ih _))

theorem soilPinOwners_post (onewire : List (PyValue × String))
    (owners : List (PyValue × String × String)) (devices : List (PyDict × Nat)) :
    ConfigPost (soilPinOwners onewire owners devices) (fun _ => True) := by
  induction devices generalizing owners with
  | nil => trivial
  | cons entry rest ih =>
    exact post_ite (fun _ => post_seq (claimSoilPins_post _ _ _ _ _) (fun _ _ => ih _))
      (fun _ => ih _)

theorem checkI2cPin_post (onewire : List (PyValue × String))
    (soil : List (PyValue × String × String)) (name key : String) (pin : Int) :
    ConfigPost (checkI2cPin onewire soil name key pin) (fun _ => True) :=
  post_seq refuseOwned_post (fun _ _ => refuseOwned_post)

theorem checkI2cPins_post (onewire : List (PyValue × String))
    (soil : List (PyValue × String × String)) (entry : PyDict × Nat) :
    ConfigPost (checkI2cPins onewire soil entry) (fun _ => True) :=
  post_ite (fun _ => post_seq (checkI2cPin_post _ _ _ _ _) (fun _ _ => checkI2cPin_post _ _ _ _ _))
    (fun _ => trivial)

theorem candidateSensors_post (owners : List (PyValue × String)) (devices : List (PyDict × Nat)) :
    ConfigPost (candidateSensors owners devices) (fun _ => True) := by
  induction devices generalizing owners with
  | nil => trivial
  | cons entry rest ih =>
    obtain ⟨device, index⟩ := entry
    unfold candidateSensors
    dsimp only
    cases (deviceConfig device).get? "i2c_bus" with
    | none => exact ih owners
    | some bus =>
      refine post_ite (fun _ => post_seq refuseOwned_post (fun _ _ => ih _)) (fun _ => ?_)
      refine post_ite (fun _ => post_seq (ih _) (fun _ _ => trivial)) (fun _ => ?_)
      exact post_ite (fun _ => post_seq (ih _) (fun _ _ => trivial)) (fun _ => ih _)

theorem checkCandidateGroup_post (group : List CandidateSensor) :
    ConfigPost (checkCandidateGroup group) (fun _ => True) := by
  unfold checkCandidateGroup
  split
  · exact post_mono refuseIf_post (fun _ _ => trivial) (fun _ h => h)
  · trivial

theorem forM_post {β : Type} {f : β → ConfigCheck Unit} (xs : List β)
    (hf : ∀ x, ConfigPost (f x) (fun _ => True)) : ConfigPost (xs.forM f) (fun _ => True) :=
  post_mono (post_forM xs (fun x _ => hf x)) (fun _ _ => trivial) (fun _ h => h)

def IsDevices (v : PyValue) : Prop :=
  ∃ devices : List PyDict, v = .list (devices.map .dict) ∧ devices ≠ [] ∧
    devices.length ≤ MAX_DEVICES ∧ ∀ device ∈ devices, IsDefinition device

theorem validateDevices_post (v : PyValue) :
    ConfigPost (validateDevices v) (fun _ => IsDevices v) := by
  unfold validateDevices
  split
  · rename_i device rest
    refine post_seq refuseIf_post (fun _ hcount => ?_)
    refine post_seq (validateEachDevice_post _ _) ?_
    rintro devices ⟨hsame, hdefinitions⟩
    refine post_seq (checkBusSettings_post _ _ hdefinitions) (fun _ _ => ?_)
    refine post_seq (soilPinOwners_post _ _ _) (fun soil _ => ?_)
    refine post_seq (forM_post _ (checkI2cPins_post _ _)) (fun _ _ => ?_)
    refine post_seq (candidateSensors_post _ _) (fun sensors _ => ?_)
    refine post_mono (forM_post _ (fun deviceType => forM_post _ checkCandidateGroup_post))
      (fun _ _ => ?_) (fun _ h => h)
    have hlist : device :: rest = (devices.map Prod.fst).map .dict := by
      simpa [List.map_map, Function.comp_def] using hsame
    refine ⟨devices.map Prod.fst, by rw [hlist], ?_, ?_, ?_⟩
    · intro hnil
      rw [hnil] at hlist
      cases hlist
    · have hlen := congrArg List.length hlist
      simp only [List.length_map] at hlen
      rw [List.length_map, ← hlen]
      simpa using hcount
    · intro d hd
      obtain ⟨entry, hentry, rfl⟩ := List.mem_map.mp hd
      exact hdefinitions entry hentry
  · exact configRefusal invalid_value_stable

def unhashableType (device : PyValue) : Bool :=
  match device with
  | .dict device => (PyDict.getD device "config").isDict &&
      !(PyDict.getD device "device_type").hashable
  | _ => false

def scansUnhashable (config : PyValue) : Bool :=
  match config with
  | .dict items => match PyDict.getD items "devices" with
    | .list devices => devices.any unhashableType
    | _ => false
  | _ => false

theorem allowedConfigKeys_post (deviceType : PyValue) :
    Post (allowedConfigKeys deviceType) (fun _ => deviceType.hashable = true)
      (fun _ => deviceType.hashable = false) := by
  unfold allowedConfigKeys registryEntry
  cases h : deviceType.hashable with
  | true => cases deviceType <;> exact rfl
  | false => exact rfl

theorem unknownDevicePaths_post (index : Nat) (device : PyValue) :
    Post (unknownDevicePaths index device) (fun _ => unhashableType device = false)
      (fun _ => unhashableType device = true) := by
  cases device with
  | dict device =>
    unfold unknownDevicePaths unhashableType
    dsimp only
    cases PyDict.getD device "config" with
    | dict config =>
      refine post_seq (post_mono (allowedConfigKeys_post _) (fun _ h => h)
        (fun _ h => by simp [PyValue.isDict, h])) (fun allowed h => ?_)
      cases allowed <;> simp [PyValue.isDict, h]
    | _ => exact rfl
  | _ => exact rfl

theorem unknownConfigPaths_post (items : PyDict) :
    Post (unknownConfigPaths items)
      (fun names => scansUnhashable (.dict items) = false ∧
        (names = [] → ∀ key ∈ items.keys, key ∈ REQUIRED_KEYS))
      (fun _ => scansUnhashable (.dict items) = true) := by
  have htop : ∀ nested : List String,
      sortedSet (items.keys.filter (fun key => !REQUIRED_KEYS.contains key) ++ nested) = [] →
        ∀ key ∈ items.keys, key ∈ REQUIRED_KEYS := by
    intro nested hnil key hkey
    by_contra hno
    have hmem : key ∈ sortedSet
        (items.keys.filter (fun key => !REQUIRED_KEYS.contains key) ++ nested) := by
      rw [mem_sortedSet, List.mem_append, List.mem_filter]
      exact .inl ⟨hkey, by simpa using hno⟩
    rw [hnil] at hmem
    exact List.not_mem_nil hmem
  have hnested : ∀ devices : List PyValue,
      Post (devices.zipIdx.mapM (fun entry => unknownDevicePaths entry.2 entry.1))
        (fun _ => devices.any unhashableType = false)
        (fun _ => devices.any unhashableType = true) := by
    intro devices
    refine post_mono (post_mapM devices.zipIdx (P := fun entry => unhashableType entry.1 = false)
      (X := fun _ => devices.any unhashableType = true) (fun entry hentry => ?_)) ?_ (fun _ h => h)
    · refine post_mono (unknownDevicePaths_post _ _) (fun _ h => h) (fun _ h => ?_)
      exact List.any_eq_true.mpr ⟨entry.1, List.fst_mem_of_mem_zipIdx hentry, h⟩
    · intro _ h
      have hall := forall_mem_of_zipIdx (P := fun device => unhashableType device = false) h
      exact List.any_eq_false.mpr (fun device hdevice => by simp [hall device hdevice])
  unfold unknownConfigPaths
  simp only [scansUnhashable]
  cases items.getD "devices" with
  | list devices => exact post_seq (hnested devices) (fun nested h => ⟨h, htop _⟩)
  | _ => exact ⟨rfl, by simpa using htop []⟩

def INTEGER_BOUNDS : List (String × Int) :=
  [("read_loop_sec", 536870), ("device_initialization_attempts", 10),
    ("device_read_failure_threshold", 1000), ("mqtt_keepalive_sec", 65535),
    ("mqtt_command_poll_ms", 10000), ("mqtt_broker_response_timeout_sec", 5),
    ("datetime_sync_interval_min", 8947), ("network_snapshot_interval_sec", 536870),
    ("network_probe_timeout_sec", 30), ("health_interval_sec", 536870),
    ("outbound_queue_max_messages", 256), ("device_initialization_retry_delay_ms", 60000),
    ("mqtt_outbound_publish_delay_ms", 60000)]

structure AcceptedConfig (items : PyDict) : Prop where
  keys : ∀ key ∈ items.keys, key ∈ REQUIRED_KEYS
  present : ∀ key ∈ REQUIRED_KEYS, items.has key = true
  version : items.getD "config_schema_version" = .int CONFIG_SCHEMA_VERSION
  source : ∃ source, IsText (items.getD "source") source ∧ source.utf8ByteSize ≤ MAX_SOURCE_LENGTH
  broker : ∃ broker, IsText (items.getD "mqtt_broker_ip_address") broker ∧ IsIpv4 broker
  topics : ∀ key ∈ MQTT_TOPIC_KEYS, ∃ topic, IsTopic (items.getD key) topic
  integers : ∀ bound ∈ INTEGER_BOUNDS, IsIntBetween 0 bound.2 (items.getD bound.1)
  wifiDelays : IsDelays (items.getD "wifi_reconnect_delays_sec")
  mqttDelays : IsDelays (items.getD "mqtt_reconnect_delays_sec")
  devices : IsDevices (items.getD "devices")

theorem requireKey_post (items : PyDict) (key : String) :
    ConfigPost (requireKey items key) (fun _ => items.has key = true) :=
  post_ite (fun h => h) (fun _ => configRefusal (by decide))

theorem requireSchemaVersion_post (items : PyDict) :
    ConfigPost (requireSchemaVersion items)
      (fun _ => items.getD "config_schema_version" = .int CONFIG_SCHEMA_VERSION) := by
  unfold requireSchemaVersion
  cases h : items.getD "config_schema_version" with
  | int version => exact post_ite (fun hv => by rw [hv]; rfl) (fun _ => configRefusal (by decide))
  | _ => exact configRefusal invalid_value_stable

theorem validateStrings_post (items : PyDict) :
    ConfigPost (validateStrings items) (fun _ =>
      (∃ source, IsText (items.getD "source") source ∧ source.utf8ByteSize ≤ MAX_SOURCE_LENGTH) ∧
      (∃ broker, IsText (items.getD "mqtt_broker_ip_address") broker ∧ IsIpv4 broker) ∧
      ∀ key ∈ MQTT_TOPIC_KEYS, ∃ topic, IsTopic (items.getD key) topic) := by
  refine post_seq (requireNonEmptyString_post _ _) (fun source hsource => ?_)
  refine post_seq (requireNonEmptyString_post _ _) (fun broker hbroker => ?_)
  refine post_seq (post_mapM MQTT_TOPIC_KEYS
    (P := fun key => ∃ topic, IsTopic (items.getD key) topic) (fun key _ => ?_))
    (fun topics htopics => ?_)
  · exact post_mono (requireMqttTopic_post items key) (fun topic h => ⟨topic, h⟩) (fun _ h => h)
  refine post_seq (requireDistinctTopics_post _ _) (fun _ _ => ?_)
  refine post_seq refuseIf_post (fun _ hsize => ?_)
  refine post_mono (requireIpv4Address_post _ _) (fun _ hquad => ?_) (fun _ h => h)
  exact ⟨⟨source, hsource, by simpa using hsize⟩, ⟨broker, hbroker, hquad⟩, htopics⟩

theorem PyDict.intD_of_getD {d : PyDict} {key : String} {n : Int} (h : d.getD key = .int n) :
    d.intD key = n := by
  rw [PyDict.intD, h]

theorem isIntBetween_of_intD {d : PyDict} {key : String} {high : Int}
    (h : ∃ n, d.getD key = .int n ∧ 0 ≤ n) (hhigh : d.intD key ≤ high) :
    IsIntBetween 0 high (d.getD key) := by
  obtain ⟨n, hn, hlow⟩ := h
  rw [PyDict.intD_of_getD hn] at hhigh
  exact ⟨n, hn, hlow, hhigh⟩

theorem validateIntegers_post (items : PyDict) :
    ConfigPost (validateIntegers items) (fun _ =>
      (∀ key ∈ POSITIVE_KEYS, ∃ n, items.getD key = .int n ∧ 0 ≤ n) ∧
      (∃ n, items.getD "device_initialization_retry_delay_ms" = .int n ∧ 0 ≤ n) ∧
      (∃ n, items.getD "mqtt_outbound_publish_delay_ms" = .int n ∧ 0 ≤ n) ∧
      (items.intD "mqtt_keepalive_sec" ≤ MAX_MQTT_KEEPALIVE_SEC ∧
        items.intD "device_initialization_attempts" ≤ MAX_DEVICE_INITIALIZATION_ATTEMPTS ∧
        items.intD "mqtt_broker_response_timeout_sec" ≤ MAX_MQTT_BROKER_RESPONSE_TIMEOUT_SEC ∧
        items.intD "network_probe_timeout_sec" ≤ MAX_NETWORK_PROBE_TIMEOUT_SEC) ∧
      (items.intD "mqtt_outbound_publish_delay_ms" ≤ MAX_MQTT_OUTBOUND_PUBLISH_DELAY_MS ∧
        items.intD "mqtt_command_poll_ms" ≤ MAX_MQTT_COMMAND_POLL_MS ∧
        items.intD "device_initialization_retry_delay_ms" ≤
          MAX_DEVICE_INITIALIZATION_RETRY_DELAY_MS ∧
        items.intD "device_read_failure_threshold" ≤ MAX_DEVICE_READ_FAILURE_THRESHOLD ∧
        items.intD "outbound_queue_max_messages" ≤ MAX_OUTBOUND_QUEUE_MAX_MESSAGES)) := by
  refine post_seq (post_forM POSITIVE_KEYS
    (P := fun key => ∃ n, items.getD key = .int n ∧ 0 ≤ n) (fun key _ => ?_))
    (fun _ hpositive => ?_)
  · refine post_seq (requireInteger_post _ _ items key) (fun n hn => ⟨n, hn.1, ?_⟩)
    have hpos : 0 < n := by simpa using hn.2
    omega
  refine post_seq (requireAtLeast_post _ _ _) (fun _ _ => ?_)
  refine post_seq (requireAtMost_post _ _ _) (fun _ h1 => ?_)
  refine post_seq (requireAtMost_post _ _ _) (fun _ h2 => ?_)
  refine post_seq (requireInteger_post _ _ _ _) (fun retry hretry => ?_)
  refine post_seq (requireInteger_post _ _ _ _) (fun delay hdelay => ?_)
  refine post_seq (requireAtMost_post _ _ _) (fun _ h3 => ?_)
  refine post_seq (requireAtMost_post _ _ _) (fun _ h4 => ?_)
  refine post_seq (requireAtMost_post _ _ _) (fun _ h5 => ?_)
  refine post_seq (requireAtMost_post _ _ _) (fun _ h6 => ?_)
  refine post_seq (requireAtMost_post _ _ _) (fun _ h7 => ?_)
  refine post_seq (requireAtMost_post _ _ _) (fun _ h8 => ?_)
  refine post_mono (requireAtMost_post _ _ _) (fun _ h9 => ?_) (fun _ h => h)
  exact ⟨hpositive, ⟨retry, hretry.1, by simpa using hretry.2⟩,
    ⟨delay, hdelay.1, by simpa using hdelay.2⟩, ⟨h1, h2, h3, h4⟩, h5, h6, h7, h8, h9⟩

theorem validateIntervals_post (items : PyDict) :
    ConfigPost (validateIntervals items) (fun _ =>
      items.intD "read_loop_sec" ≤ 536870 ∧ items.intD "health_interval_sec" ≤ 536870 ∧
        items.intD "network_snapshot_interval_sec" ≤ 536870 ∧
        items.intD "datetime_sync_interval_min" ≤ 8947) := by
  refine post_seq (requireTicksSafeInterval_post _ _ _) (fun _ h1 => ?_)
  refine post_seq (requireTicksSafeInterval_post _ _ _) (fun _ h2 => ?_)
  refine post_seq (requireTicksSafeInterval_post _ _ _) (fun _ h3 => ?_)
  refine post_seq (requireTicksSafeInterval_post _ _ _) (fun _ _ => ?_)
  refine post_seq (requireTicksSafeInterval_post _ _ _) (fun _ h4 => ?_)
  refine post_seq (requireTicksSafeInterval_post _ _ _) (fun _ _ => ?_)
  refine post_mono (requireTicksSafeInterval_post _ _ _) (fun _ _ => ?_) (fun _ h => h)
  simp only [MAX_TICKS_SAFE_INTERVAL_MS] at h1 h2 h3 h4
  omega

/-- When the scan can look every device type up, only refusals are left. -/
theorem checkConfig_post {items : PyDict} (h : scansUnhashable (.dict items) = false) :
    ConfigPost (checkConfig items) (fun _ => AcceptedConfig items) := by
  have hscan : ConfigPost (ConfigCheck.ofPython (unknownConfigPaths items))
      (fun names => names = [] → ∀ key ∈ items.keys, key ∈ REQUIRED_KEYS) := by
    refine post_mapError (post_mono (unknownConfigPaths_post items) (fun _ h => h.2)
      (fun _ h => h)) (fun _ hyes => ?_)
    rw [h] at hyes
    cases hyes
  refine post_seq hscan (fun names hkeys => ?_)
  refine post_ite (fun hempty => ?_) (fun _ => configRefusal (by decide))
  refine post_seq (post_forM REQUIRED_KEYS (fun key _ => requireKey_post items key))
    (fun _ hpresent => ?_)
  refine post_seq (requireSchemaVersion_post items) (fun _ hversion => ?_)
  refine post_seq (validateStrings_post items) (fun _ hstrings => ?_)
  refine post_seq (validateIntegers_post items) (fun _ hintegers => ?_)
  refine post_seq (validateIntervals_post items) (fun _ hintervals => ?_)
  refine post_seq (validateDelays_post items _) (fun _ hwifi => ?_)
  refine post_seq (validateDelays_post items _) (fun _ hmqtt => ?_)
  refine post_mono (validateDevices_post _) (fun _ hdevices => ?_) (fun _ h => h)
  obtain ⟨hpositive, hretry, hdelay, ⟨b1, b2, b3, b4⟩, b5, b6, b7, b8, b9⟩ := hintegers
  obtain ⟨c1, c2, c3, c4⟩ := hintervals
  refine ⟨hkeys (by simpa using hempty), hpresent, hversion, hstrings.1, hstrings.2.1,
    hstrings.2.2, ?_, hwifi, hmqtt, hdevices⟩
  intro bound hbound
  simp only [INTEGER_BOUNDS, List.mem_cons, List.not_mem_nil, or_false] at hbound
  rcases hbound with rfl | rfl | rfl | rfl | rfl | rfl | rfl | rfl | rfl | rfl | rfl | rfl | rfl
  · exact isIntBetween_of_intD (hpositive _ (by decide)) c1
  · exact isIntBetween_of_intD (hpositive _ (by decide)) b2
  · exact isIntBetween_of_intD (hpositive _ (by decide)) b8
  · exact isIntBetween_of_intD (hpositive _ (by decide)) b1
  · exact isIntBetween_of_intD (hpositive _ (by decide)) b6
  · exact isIntBetween_of_intD (hpositive _ (by decide)) b3
  · exact isIntBetween_of_intD (hpositive _ (by decide)) c4
  · exact isIntBetween_of_intD (hpositive _ (by decide)) c3
  · exact isIntBetween_of_intD (hpositive _ (by decide)) b4
  · exact isIntBetween_of_intD (hpositive _ (by decide)) c2
  · exact isIntBetween_of_intD (hpositive _ (by decide)) b9
  · exact isIntBetween_of_intD hretry b7
  · exact isIntBetween_of_intD hdelay b5

theorem validateConfig_post {config : PyValue} (h : scansUnhashable config = false) :
    ConfigPost (validateConfig config) (fun value => value = config ∧
      ∃ items, config = .dict items ∧ AcceptedConfig items) := by
  cases config with
  | dict items => exact post_seq (checkConfig_post h) (fun _ hitems => ⟨rfl, items, rfl, hitems⟩)
  | _ => exact configRefusal invalid_value_stable

theorem validateConfig_unhashable {config : PyValue} (h : scansUnhashable config = true) :
    ∃ e, validateConfig config = .error (.python e) := by
  cases config with
  | dict items =>
    cases hscan : unknownConfigPaths items with
    | ok names =>
      have hno := ((unknownConfigPaths_post items).of_ok hscan).1
      rw [h] at hno
      cases hno
    | error e =>
      refine ⟨e, ?_⟩
      simp [validateConfig, checkConfig, hscan, ConfigCheck.ofPython, Except.mapError, bind,
        Except.bind]
  | _ => cases h

/-- What an accepted configuration is known to be. -/
theorem AcceptedConfig.of_ok {config value : PyValue} (h : validateConfig config = .ok value) :
    ∃ items, config = .dict items ∧ AcceptedConfig items := by
  cases hscan : scansUnhashable config with
  | true =>
    obtain ⟨e, he⟩ := validateConfig_unhashable hscan
    rw [h] at he
    cases he
  | false => exact ((validateConfig_post hscan).of_ok h).2

/-- Validation returns the value that it was given. -/
theorem validateConfig_self {config : PyValue} (h : (validateConfig config).isOk = true) :
    validateConfig config = .ok config := by
  cases hv : validateConfig config with
  | error e =>
    rw [hv] at h
    cases h
  | ok value =>
    cases hscan : scansUnhashable config with
    | true =>
      obtain ⟨e, he⟩ := validateConfig_unhashable hscan
      rw [hv] at he
      cases he
    | false => rw [((validateConfig_post hscan).of_ok hv).1]

/-- Validation returns the value or refuses it with a stable code, unless a device entry with an
object for its configuration has a list or an object for its type. -/
theorem validateConfig_refuses_iff (config : PyValue) :
    (validateConfig config = .ok config ∨ ∃ error code,
      validateConfig config = .error (.config error) ∧ error.code = some code ∧
        code ∈ STABLE_CODES) ↔
    scansUnhashable config = false := by
  constructor
  · intro h
    cases hscan : scansUnhashable config with
    | false => rfl
    | true =>
      obtain ⟨e, he⟩ := validateConfig_unhashable hscan
      rw [he] at h
      rcases h with h | ⟨error, code, h, -⟩ <;> cases h
  · intro h
    have hpost := validateConfig_post h
    cases hv : validateConfig config with
    | ok value =>
      obtain ⟨rfl, -⟩ := hpost.of_ok hv
      exact .inl rfl
    | error e =>
      obtain ⟨error, code, rfl, hcode⟩ := hpost.of_error hv
      exact .inr ⟨error, code, rfl, hcode⟩

def listTyped : PyValue :=
  .dict [(.str "devices", .list [.dict [(.str "device_type", .list []), (.str "config", .dict [])]])]

theorem validateConfig_listTyped :
    ¬ (validateConfig listTyped = .ok listTyped ∨ ∃ error code,
      validateConfig listTyped = .error (.config error) ∧ error.code = some code ∧
        code ∈ STABLE_CODES) := by
  have hraise : validateConfig listTyped =
      .error (.python (.typeError "unsupported type for __hash__: 'list'")) := rfl
  rw [hraise]
  rintro (h | ⟨error, code, h, -⟩) <;> cases h

end PicoDualCore
