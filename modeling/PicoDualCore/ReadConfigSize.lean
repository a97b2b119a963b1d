import PicoDualCore.CommandResponse
import PicoDualCore.ConfigSize
set_option autoImplicit false

/-!
Whether an accepted configuration can be read back. The validators bound the bytes of a string;
the serializer writes some control characters as six bytes each.
-/

namespace PicoDualCore
open Json

/-- What Core 0 adds to a response: the time, the next sequence and its own identity. -/
structure WireContext where
  uptimeMs : Nat
  timestamp : Option String
  sequence : Nat
  runtimeId : String
  source : String
  timestamp_plain : ∀ t, timestamp = some t → escapesIn t = 0 ∧ t.utf8ByteSize ≤ 24
  runtimeId_plain : escapesIn runtimeId = 0 ∧ textSize 1 runtimeId ≤ 34
  source_short : source.utf8ByteSize ≤ MAX_SOURCE_LENGTH

section
variable (w : WireContext) (commandId : String) (targeted : Bool) (config : PyValue)
  (rebootRequired : Bool)

def readConfigMessage : PyDict :=
  (readConfigResponse commandId targeted config rebootRequired).message w.uptimeMs w.timestamp

/-- The response is serialized, and with the envelope spliced in it is within the ceiling. -/
def ReadConfigFits : Prop :=
  ∃ body, serializeAndValidateMessage
      (.dict (readConfigMessage w commandId targeted config rebootRequired)) = .ok body ∧
    wireLength body (envelopeFragment w.sequence w.runtimeId w.source) ≤ MAX_OUTBOUND_MESSAGE_BYTES

def READ_CONFIG_FRAME : Nat := 296

def timestampBytes : Option String → Nat
  | some t => textSize 1 t
  | none => 4

def boolBytes (b : Bool) : Nat := if b then 4 else 5

/-- The bytes of what comes in, each control character counted as one, on top of the frame. -/
def readConfigInputs : Nat :=
  READ_CONFIG_FRAME + size 1 config + textSize 1 commandId + textSize 1 w.source +
    textSize 1 w.runtimeId + timestampBytes w.timestamp + (intText w.uptimeMs).length +
    (intText w.sequence).length + boolBytes targeted + boolBytes rebootRequired

/-- The control characters of the strings that the response carries. -/
def readConfigEscapes : Nat := escapes config + escapesIn commandId + escapesIn w.source

end

variable {w : WireContext} {commandId : String} {targeted : Bool} {config : PyValue}
  {rebootRequired : Bool}

theorem length_envelopeFragment (sequence : Nat) (runtimeId source : String) :
    (envelopeFragment sequence runtimeId source).length + 2 =
      size 6 (.dict (envelope sequence runtimeId source)) := by
  rw [envelopeFragment_eq, length_utf8_dumpPairs, size, Nat.add_comm]

theorem escapesIn_eq_zero {s : String} (h : s.toList.any needsEscape = false) :
    escapesIn s = 0 :=
  List.countP_eq_zero.mpr (fun c hc => by simp [List.any_eq_false.mp h c hc])

theorem escapes_readConfig :
    escapes (.dict (readConfigMessage w commandId targeted config rebootRequired)) +
      escapes (.dict (envelope w.sequence w.runtimeId w.source)) =
        readConfigEscapes w commandId config := by
  have hruntime := w.runtimeId_plain.1
  have htime : escapes (timestampValue w.timestamp) = 0 := by
    cases ht : w.timestamp with
    | none => rfl
    | some t => exact (w.timestamp_plain t ht).1
  simp only [readConfigMessage, readConfigResponse, CommandResponse.message,
    CommandResponse.payload, envelope, Option.toList_some, List.map_cons, List.map_nil,
    List.cons_append, List.nil_append, if_true, escapes, pairsEscapes, PyKey.text,
    readConfigEscapes, hruntime, htime]
  simp (disch := decide) only [escapesIn_eq_zero]
  omega

theorem isJsonSafe_readConfig (hplain : plain config = true) :
    isJsonSafe (.dict (readConfigMessage w commandId targeted config rebootRequired)) = true := by
  have htime : isJsonSafe (timestampValue w.timestamp) = true := by
    cases w.timestamp <;> rfl
  simp [readConfigMessage, readConfigResponse, CommandResponse.message, CommandResponse.payload,
    isJsonSafe, pairsJsonSafe, htime, isJsonSafe_of_plain hplain]

/-- What goes out is the inputs in their frame; the closing brace is counted twice. -/
theorem size_readConfig :
    size 1 (.dict (readConfigMessage w commandId targeted config rebootRequired)) +
      size 1 (.dict (envelope w.sequence w.runtimeId w.source)) =
    readConfigInputs w commandId targeted config rebootRequired + 1 := by
  have htime : size 1 (timestampValue w.timestamp) = timestampBytes w.timestamp := by
    cases w.timestamp <;> rfl
  have htexts : textSize 1 "message_type" = 14 ∧ textSize 1 "command_response" = 18 ∧
      textSize 1 "uptime_ms" = 11 ∧ textSize 1 "timestamp" = 11 ∧ textSize 1 "payload" = 9 ∧
      textSize 1 "command_id" = 12 ∧ textSize 1 "command" = 9 ∧
      textSize 1 COMMAND_READ_CONFIG = 13 ∧ textSize 1 "targeted" = 10 ∧
      textSize 1 "success" = 9 ∧ textSize 1 "data" = 6 ∧ textSize 1 "config" = 8 ∧
      textSize 1 "reboot_required" = 17 ∧ textSize 1 "sequence" = 10 ∧
      textSize 1 "runtime_id" = 12 ∧ textSize 1 "source" = 8 ∧
      textSize 1 "firmware_version" = 18 ∧ textSize 1 FIRMWARE_VERSION = 9 ∧
      textSize 1 "message_schema_version" = 24 ∧ (intText MESSAGE_SCHEMA_VERSION).length = 1 := by
    decide
  simp only [readConfigMessage, readConfigResponse, CommandResponse.message,
    CommandResponse.payload, envelope, Option.toList_some, List.map_cons, List.map_nil,
    List.cons_append, List.nil_append, if_true, size, pairsSize, morePairsSize, PyKey.text, htime,
    htexts, readConfigInputs, READ_CONFIG_FRAME, boolBytes]
  omega

theorem readConfig_wire (hplain : plain config = true) :
    ReadConfigFits w commandId targeted config rebootRequired ↔
      size 6 (.dict (readConfigMessage w commandId targeted config rebootRequired)) +
        size 6 (.dict (envelope w.sequence w.runtimeId w.source)) ≤
          MAX_OUTBOUND_MESSAGE_BYTES + 1 := by
  have hsafe := @isJsonSafe_readConfig w commandId targeted config rebootRequired hplain
  have hfragment := length_envelopeFragment w.sequence w.runtimeId w.source
  have hbody := length_utf8_dumps
    (.dict (readConfigMessage w commandId targeted config rebootRequired))
  simp only [ReadConfigFits, serializeAndValidateMessage_ok_iff, serializeToBytes, wireLength]
  constructor
  · rintro ⟨_, ⟨-, rfl, -⟩, hwire⟩
    rw [hbody] at hwire
    omega
  · intro hfits
    refine ⟨_, ⟨hsafe, rfl, ?_⟩, ?_⟩ <;> rw [hbody] <;> omega

theorem readConfig_fits (hplain : plain config = true) :
    ReadConfigFits w commandId targeted config rebootRequired ↔
      readConfigInputs w commandId targeted config rebootRequired +
        5 * readConfigEscapes w commandId config ≤ MAX_OUTBOUND_MESSAGE_BYTES := by
  have hmessage :=
    size_escapes (.dict (readConfigMessage w commandId targeted config rebootRequired))
  have henvelope := size_escapes (.dict (envelope w.sequence w.runtimeId w.source))
  have hescapes := @escapes_readConfig w commandId targeted config rebootRequired
  have hinputs := @size_readConfig w commandId targeted config rebootRequired
  rw [readConfig_wire hplain]
  omega

def READ_CONFIG_SIZES : List (String × Nat) :=
  [("config", CONFIG_SIZE), ("reboot_required", 5)]

def PAYLOAD_SIZES : List (String × Nat) :=
  [("command_id", 514), ("command", 13), ("targeted", 5), ("success", 4),
    ("data", dictBound READ_CONFIG_SIZES)]

def RESPONSE_SIZES : List (String × Nat) :=
  [("message_type", 18), ("uptime_ms", 20), ("timestamp", 50), ("payload", dictBound PAYLOAD_SIZES)]

def ENVELOPE_SIZES : List (String × Nat) :=
  [("sequence", 20), ("runtime_id", 34), ("source", 130), ("firmware_version", 9),
    ("message_schema_version", 1)]

theorem size_bool_le (b : Bool) : size 1 (.bool b) ≤ 5 := by cases b <;> decide

theorem size_readConfigMessage_le (hconfig : size 1 config ≤ CONFIG_SIZE)
    (hid : commandId.toList.length ≤ MAX_COMMAND_ID_LENGTH) (huptime : w.uptimeMs < 10 ^ 20) :
    size 1 (.dict (readConfigMessage w commandId targeted config rebootRequired)) ≤
      dictBound RESPONSE_SIZES := by
  have hcommandId : size 1 (.str commandId) ≤ 514 := by
    have := textSize_le_length commandId
    simp only [MAX_COMMAND_ID_LENGTH] at hid
    rw [size]
    omega
  have htime : size 1 (timestampValue w.timestamp) ≤ 50 := by
    cases ht : w.timestamp with
    | none => exact (by decide : 4 ≤ 50)
    | some t =>
      have hbytes := (w.timestamp_plain t ht).2
      have := textSize_le t
      rw [timestampValue, size]
      omega
  have hdata : size 1 (readConfigResponse commandId targeted config rebootRequired).data ≤
      dictBound READ_CONFIG_SIZES :=
    size_members_le (.cons ⟨rfl, hconfig⟩ (.cons ⟨rfl, size_bool_le rebootRequired⟩ .nil))
  have hpayload :
      size 1 (.dict (readConfigResponse commandId targeted config rebootRequired).payload) ≤
        dictBound PAYLOAD_SIZES :=
    size_members_le (.cons ⟨rfl, hcommandId⟩ (.cons ⟨rfl, by decide⟩
      (.cons ⟨rfl, size_bool_le targeted⟩ (.cons ⟨rfl, Nat.le_refl 4⟩ (.cons ⟨rfl, hdata⟩ .nil)))))
  exact size_members_le (.cons ⟨rfl, by decide⟩
    (.cons ⟨rfl, size_nat_le (by decide) (by omega) (by simpa using huptime) 1⟩
      (.cons ⟨rfl, htime⟩ (.cons ⟨rfl, hpayload⟩ .nil))))

theorem size_envelope_le (hsequence : w.sequence < 10 ^ 20) :
    size 1 (.dict (envelope w.sequence w.runtimeId w.source)) ≤ dictBound ENVELOPE_SIZES := by
  have hruntime : size 1 (.str w.runtimeId) ≤ 34 := w.runtimeId_plain.2
  exact size_members_le
    (.cons ⟨rfl, size_nat_le (by decide) (by omega) (by simpa using hsequence) 1⟩
      (.cons ⟨rfl, hruntime⟩ (.cons ⟨rfl, size_shortText_le w.source_short⟩
        (.cons ⟨rfl, by decide⟩ (.cons ⟨rfl, by decide⟩ .nil)))))

/-- An accepted configuration can be read back exactly when the escapes of the inputs fit into what
their texts leave of the ceiling. Their texts alone always fit, and with four escapes they do. -/
theorem readConfig_fits_iff (w : WireContext) (targeted rebootRequired : Bool) {config : PyValue}
    {commandId : String} (haccepted : validateConfig config = .ok config)
    (hplain : plain config = true) (hid : boundedCommandId? (.str commandId) = some commandId) :
    (ReadConfigFits w commandId targeted config rebootRequired ↔
      readConfigInputs w commandId targeted config rebootRequired +
        5 * readConfigEscapes w commandId config ≤ MAX_OUTBOUND_MESSAGE_BYTES) ∧
    (floatsWithin FLOAT_TEXT config = true → w.uptimeMs < 10 ^ 20 → w.sequence < 10 ^ 20 →
      readConfigInputs w commandId targeted config rebootRequired ≤ MAX_OUTBOUND_MESSAGE_BYTES ∧
      (readConfigEscapes w commandId config ≤ 4 →
        ReadConfigFits w commandId targeted config rebootRequired)) := by
  have hfits := @readConfig_fits w commandId targeted config rebootRequired hplain
  refine ⟨hfits, fun hfloats huptime hsequence => ?_⟩
  obtain ⟨items, rfl, hitems⟩ := AcceptedConfig.of_ok haccepted
  have hconfig := hitems.size_le ⟨hplain, hfloats⟩
  have hmessage := @size_readConfigMessage_le w commandId targeted _ rebootRequired hconfig
    (boundedStr?_some hid).2.2 huptime
  have henvelope := size_envelope_le hsequence
  have hinputs := @size_readConfig w commandId targeted (.dict items) rebootRequired
  have htotal : dictBound RESPONSE_SIZES + dictBound ENVELOPE_SIZES + 20 ≤
    MAX_OUTBOUND_MESSAGE_BYTES + 1 := by decide
  refine ⟨by omega, fun hescapes => hfits.mpr ?_⟩
  omega

def shippedContext : WireContext where
  uptimeMs := 7250
  timestamp := some "2025-01-31T08:00:00Z"
  sequence := 12
  runtimeId := "runtime_e6614103e70a8b2f5d1c9a04"
  source := "Soil-1"
  timestamp_plain := by
    rintro _ ⟨rfl⟩
    decide
  runtimeId_plain := by decide
  source_short := by decide

theorem readConfig_fits_shipped :
    ReadConfigFits shippedContext "c-1" true (shippedConfig "Soil-1") false ∧
    readConfigInputs shippedContext "c-1" true (shippedConfig "Soil-1") false +
      5 * readConfigEscapes shippedContext "c-1" (shippedConfig "Soil-1") ≤
        MAX_OUTBOUND_MESSAGE_BYTES := by
  have hlaw := @readConfig_fits_iff shippedContext true false (shippedConfig "Soil-1") "c-1"
    (validateConfig_self (by decide)) (by decide) (by decide)
  have hfits := (hlaw.2 (by decide) (by decide) (by decide)).2 (by decide)
  exact ⟨hfits, hlaw.1.mp hfits⟩

def controlText (n : Nat) : String := String.ofList (List.replicate n (Char.ofNat 1))

def controlTopic (first : Char) : PyValue :=
  .str (String.ofList (first :: List.replicate 121 (Char.ofNat 1)))

def controlDevice (first : Char) : PyValue :=
  .dict [(.str "id", .str (String.ofList (first :: List.replicate 63 (Char.ofNat 1)))),
    (.str "name", .str (controlText 64)), (.str "device_type", .str "ds18b20"),
    (.str "config", .dict [(.str "pin", .int 16),
      (.str "rom", .str (String.ofList ('2' :: '8' :: first :: List.replicate 13 '0')))])]

def controlDevices : List Char :=
  ['0', '1', '2', '3', '4', '5', '6', '7', '8', '9', 'a', 'b', 'c', 'd', 'e', 'f']

def controlConfig : PyValue :=
  .dict [(.str "devices", .list (controlDevices.map controlDevice)),
    (.str "source", .str (controlText 64)), (.str "mqtt_topic_telemetry", controlTopic '0'),
    (.str "mqtt_topic_log", controlTopic '1'), (.str "mqtt_topic_command", .str "c"),
    (.str "mqtt_topic_command_response", .str "r"), (.str "mqtt_topic_info_request", .str "q"),
    (.str "mqtt_topic_info_response", .str "i"), (.str "mqtt_topic_network_probe", .str "p"),
    (.str "mqtt_topic_health", .str "h"), (.str "config_schema_version", .int 10),
    (.str "outbound_queue_max_messages", .int 32), (.str "read_loop_sec", .int 20),
    (.str "health_interval_sec", .int 60), (.str "datetime_sync_interval_min", .int 60),
    (.str "device_initialization_attempts", .int 3),
    (.str "device_initialization_retry_delay_ms", .int 250),
    (.str "device_read_failure_threshold", .int 3), (.str "network_snapshot_interval_sec", .int 5),
    (.str "network_probe_timeout_sec", .int 5), (.str "mqtt_broker_ip_address", .str "10.10.10.64"),
    (.str "mqtt_keepalive_sec", .int 30), (.str "mqtt_command_poll_ms", .int 100),
    (.str "mqtt_outbound_publish_delay_ms", .int 100),
    (.str "mqtt_broker_response_timeout_sec", .int 4),
    (.str "wifi_reconnect_delays_sec", .list [.int 2]),
    (.str "mqtt_reconnect_delays_sec", .list [.int 2])]

def controlContext : WireContext where
  uptimeMs := 0
  timestamp := none
  sequence := 0
  runtimeId := "runtime_e6614103e70a8b2f00000000"
  source := controlText 64
  timestamp_plain := by simp
  runtimeId_plain := by decide
  source_short := by decide

theorem textSize_ofList (escape : Nat) (text : List Char) :
    textSize escape (String.ofList text) = 2 + (text.map (charSize escape)).sum := by
  rw [textSize, String.toList_ofList]

theorem charSize_control : charSize 6 (Char.ofNat 1) = 6 := by decide

theorem textSize_controlText (n : Nat) : textSize 6 (controlText n) = 2 + n * 6 := by
  rw [controlText, textSize_ofList, List.map_replicate, List.sum_replicate_nat, charSize_control]

theorem size_controlTopic {first : Char} (h : charSize 6 first = 1) :
    size 6 (controlTopic first) = 729 := by
  simp only [controlTopic, size, textSize_ofList, List.map_cons, List.map_replicate, List.sum_cons,
    List.sum_replicate_nat, h, charSize_control]

theorem size_controlDevice {first : Char} (h : charSize 6 first = 1) :
    size 6 (controlDevice first) = 861 := by
  simp only [controlDevice, size, pairsSize, morePairsSize, textSize_controlText, textSize_ofList,
    List.map_cons, List.map_replicate, List.sum_cons, List.sum_replicate_nat, h, charSize_control,
    PyKey.text]
  decide

theorem size_list_map {α : Type} {f : α → PyValue} {escape n : Nat} {x : α} {xs : List α}
    (h : ∀ y ∈ x :: xs, size escape (f y) = n) :
    size escape (.list ((x :: xs).map f)) = (xs.length + 1) * (n + 2) := by
  have hmore : ∀ ys : List α, (∀ y ∈ ys, size escape (f y) = n) →
      moreItemsSize escape (ys.map f) = ys.length * (n + 2) := by
    intro ys
    induction ys with
    | nil => simp [moreItemsSize]
    | cons y rest ih =>
      intro h
      rw [List.map_cons, moreItemsSize, h y List.mem_cons_self,
        ih (fun z hz => h z (List.mem_cons_of_mem _ hz)), List.length_cons, Nat.succ_mul]
      omega
  rw [List.map_cons, size, itemsSize, h x List.mem_cons_self,
    hmore xs (fun y hy => h y (List.mem_cons_of_mem _ hy)), Nat.succ_mul]
  omega

theorem size_four_le (k₁ k₂ k₃ k₄ : PyKey) (v₁ v₂ v₃ v₄ : PyValue) (rest : PyDict) :
    size 6 v₁ + size 6 v₂ + size 6 v₃ + size 6 v₄ ≤
      size 6 (.dict ((k₁, v₁) :: (k₂, v₂) :: (k₃, v₃) :: (k₄, v₄) :: rest)) := by
  rw [size, pairsSize, morePairsSize, morePairsSize, morePairsSize]
  omega

theorem size_controlConfig : 15600 ≤ size 6 controlConfig := by
  have hall : controlDevices.all (fun first => charSize 6 first == 1) = true := by decide
  have hchars : ∀ first ∈ controlDevices, charSize 6 first = 1 :=
    fun first hfirst => eq_of_beq (List.all_eq_true.mp hall first hfirst)
  have hdevices : size 6 (.list (controlDevices.map controlDevice)) = 16 * 863 :=
    size_list_map (fun first hfirst => size_controlDevice (hchars first hfirst))
  have hsource : size 6 (.str (controlText 64)) = 2 + 64 * 6 := textSize_controlText 64
  have hfour := size_four_le (.str "devices") (.str "source") (.str "mqtt_topic_telemetry")
    (.str "mqtt_topic_log") (.list (controlDevices.map controlDevice)) (.str (controlText 64))
    (controlTopic '0') (controlTopic '1')
  rw [hdevices, hsource, size_controlTopic (hchars '0' (by decide)),
    size_controlTopic (hchars '1' (by decide))] at hfour
  exact Nat.le_trans (by decide) (hfour _)

theorem size_readConfig_ge (w : WireContext) (commandId : String) (targeted : Bool)
    (config : PyValue) (rebootRequired : Bool) :
    size 6 config + textSize 6 commandId + textSize 6 w.source + 20 ≤
      size 6 (.dict (readConfigMessage w commandId targeted config rebootRequired)) +
        size 6 (.dict (envelope w.sequence w.runtimeId w.source)) := by
  simp only [readConfigMessage, readConfigResponse, CommandResponse.message,
    CommandResponse.payload, envelope, Option.toList_some, List.map_cons, List.map_nil,
    List.cons_append, List.nil_append, if_true, size, pairsSize, morePairsSize]
  omega

theorem readConfig_controlConfig : ¬ ∀ (w : WireContext) (targeted rebootRequired : Bool)
    (config : PyValue) (commandId : String), validateConfig config = .ok config →
      plain config = true → boundedCommandId? (.str commandId) = some commandId →
        ReadConfigFits w commandId targeted config rebootRequired := by
  intro hall
  have haccepted : validateConfig controlConfig = .ok controlConfig :=
    validateConfig_self (by decide +kernel)
  have hplain : plain controlConfig = true := by decide
  have hfits := hall controlContext true false controlConfig (controlText 64) haccepted hplain
    (by decide)
  rw [readConfig_wire hplain] at hfits
  have hwire := size_readConfig_ge controlContext (controlText 64) true controlConfig false
  have htext : textSize 6 (controlText 64) = 2 + 64 * 6 := textSize_controlText 64
  have hsource : textSize 6 controlContext.source = 2 + 64 * 6 := htext
  rw [htext, hsource] at hwire
  have hroom : ∀ a b : Nat, 15600 ≤ a → a + (2 + 64 * 6) + (2 + 64 * 6) + 20 ≤ b →
      ¬ b ≤ MAX_OUTBOUND_MESSAGE_BYTES + 1 := by
    intro a b ha hb
    rw [MAX_OUTBOUND_MESSAGE_BYTES]
    omega
  exact hroom _ _ size_controlConfig hwire hfits

end PicoDualCore
