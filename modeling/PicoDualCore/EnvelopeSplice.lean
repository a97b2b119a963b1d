import PicoDualCore.MqttPublish
set_option autoImplicit false

namespace PicoDualCore

def FIRMWARE_VERSION : String := "0.4.158"
def MESSAGE_SCHEMA_VERSION : Int := 3

/-- The members that Core 0 owns. -/
def envelope (sequence : Nat) (runtimeId source : String) : PyDict :=
  [(.str "sequence", .int sequence),
    (.str "runtime_id", .str runtimeId),
    (.str "source", .str source),
    (.str "firmware_version", .str FIRMWARE_VERSION),
    (.str "message_schema_version", .int MESSAGE_SCHEMA_VERSION)]

def envelopeFragment (sequence : Nat) (runtimeId source : String) : Bytes :=
  utf8 (Json.dumps (.dict (envelope sequence runtimeId source))).tail.dropLast

/-- The payload that goes out for a serialized message. -/
def splicedPayload (body : Bytes) (sequence : Nat) (runtimeId source : String) : Bytes :=
  MqttClient.joined body (some (envelopeFragment sequence runtimeId source))

variable {sequence : Nat} {runtimeId source : String}

theorem envelopeFragment_eq :
    envelopeFragment sequence runtimeId source =
      utf8 (Json.dumpPairs (envelope sequence runtimeId source)) := by
  simp [envelopeFragment, Json.dumps]

theorem PyDict.has_eq_false_iff {d : PyDict} {key : String} :
    d.has key = false ↔ PyKey.str key ∉ d.map Prod.fst := by
  induction d with
  | nil => simp [PyDict.has, PyDict.get?]
  | cons item rest ih =>
    obtain ⟨k, v⟩ := item
    simp only [PyDict.has] at ih
    by_cases hk : k = .str key
    · simp [PyDict.has, PyDict.get?, hk]
    · simp [PyDict.has, PyDict.get?, hk, Ne.symm hk, ih]

end PicoDualCore
