import PicoDualCore.EnvelopeSplice
set_option autoImplicit false

namespace PicoDualCore

def COMMAND_REBOOT : String := "reboot"
def COMMAND_GET_DETAILS : String := "get-details"
def COMMAND_READ_CONFIG : String := "read-config"
def COMMAND_WRITE_CONFIG : String := "write-config"

def MAX_COMMAND_ID_LENGTH : Nat := 128
def MAX_COMMAND_LENGTH : Nat := 32
def MAX_TARGET_LENGTH : Nat := 128

def BROADCAST_TARGET : String := "*"

def COMMAND_ENVELOPE_KEYS : List String :=
  ["message_type", "message_schema_version", "target", "command_id", "command", "payload"]

def SUPPORTED_COMMANDS : List String :=
  [COMMAND_REBOOT, COMMAND_READ_CONFIG, COMMAND_WRITE_CONFIG, COMMAND_GET_DETAILS]

/-- A non-empty string of at most `limit` characters. -/
def boundedStr? (limit : Nat) : PyValue → Option String
  | .str s => if 0 < s.toList.length ∧ s.toList.length ≤ limit then some s else none
  | _ => none

def boundedCommandId? : PyValue → Option String := boundedStr? MAX_COMMAND_ID_LENGTH
def boundedCommand? : PyValue → Option String := boundedStr? MAX_COMMAND_LENGTH
def boundedTarget? : PyValue → Option String := boundedStr? MAX_TARGET_LENGTH

theorem boundedStr?_some {limit : Nat} {v : PyValue} {s : String}
    (h : boundedStr? limit v = some s) :
    v = .str s ∧ 0 < s.toList.length ∧ s.toList.length ≤ limit := by
  cases v with
  | str t =>
    simp only [boundedStr?, Option.ite_none_right_eq_some, Option.some.injEq] at h
    obtain ⟨hlength, rfl⟩ := h
    exact ⟨rfl, hlength⟩
  | _ => cases h

def unknownFieldNames (keys allowed : List String) : List String :=
  sortedSet (keys.filter (fun key => !allowed.contains key))

/-- A response as a handler builds it: `data` goes out on success, `error` otherwise. -/
structure CommandResponse where
  commandId : String
  command : Option String
  targeted : Bool
  success : Bool
  data : PyValue := .none
  error : PyValue := .none

def commandErrorObject (code message : String) (unknown : Option (List String) := none) : PyValue :=
  .dict ([(.str "code", .str code), (.str "message", .str message)] ++
    unknown.toList.map (fun names => (.str "unknown_fields", .list (names.map .str))))

def commandError (commandId : String) (targeted : Bool) (command error : PyValue) :
    CommandResponse :=
  { commandId, targeted, command := boundedCommand? command, success := false, error }

def unknownFieldsError (command commandId : String) (targeted : Bool) (payload : PyDict) :
    CommandResponse :=
  { commandId, targeted, command := some command, success := false,
    error := commandErrorObject "unknown_fields" s!"{command} payload contains unknown fields"
      (some (sortedSet payload.keys)) }

def readConfigResponse (commandId : String) (targeted : Bool) (config : PyValue)
    (rebootRequired : Bool) : CommandResponse :=
  { commandId, targeted, command := some COMMAND_READ_CONFIG, success := true,
    data := .dict [(.str "config", config), (.str "reboot_required", .bool rebootRequired)] }

def CommandResponse.payload (r : CommandResponse) : PyDict :=
  (.str "command_id", .str r.commandId) ::
    (r.command.toList.map (fun command => (PyKey.str "command", PyValue.str command)) ++
      [(.str "targeted", .bool r.targeted), (.str "success", .bool r.success),
        if r.success then (.str "data", r.data) else (.str "error", r.error)])

/-- `None` as long as the clock has not been set. -/
def timestampValue : Option String → PyValue
  | some timestamp => .str timestamp
  | none => .none

/-- The document of a response, with the uptime and the time at which it was built. -/
def CommandResponse.message (r : CommandResponse) (uptimeMs : Int) (timestamp : Option String) :
    PyDict :=
  [(.str "message_type", .str "command_response"),
    (.str "uptime_ms", .int uptimeMs),
    (.str "timestamp", timestampValue timestamp),
    (.str "payload", .dict r.payload)]

def wireLength (body fragment : Bytes) : Nat := body.length + fragment.length + 1

end PicoDualCore
