import PicoDualCore.Core0State
set_option autoImplicit false

/-!
Command ingress: the message callback of Core 0 with its gates, in their order, and the handlers
behind them.
-/

namespace PicoDualCore
open AtomicProgram

/-- `value == text` for a string `text`. -/
def PyValue.isText (value : PyValue) (text : String) : Bool :=
  match value with
  | .str s => s == text
  | _ => false

namespace EventQueue

def reserveRestored : BoardProg Bool :=
  .atomic (fun b i => (.ok (decide (b.events.minimumFreeHeapBytes ≤ i.memFree)), b))

def append (event : CommandEvent) : BoardProg Bool :=
  .atomic (fun b i =>
    let queue := b.events.queue ++ [event]
    if i.memoryError then (.error .memoryError, b)
    else if i.memFree < b.events.minimumFreeHeapBytes then (.ok false, b)
    else (.ok true, { b with
      events := { b.events with queue, highWatermark := max b.events.highWatermark queue.length }
      core0 := { b.core0 with toCommandState := b.command.record (.dispatched event) } }))

def countRejection : BoardProg Unit :=
  .atomic (fun b _ =>
    (.ok (), { b with events := { b.events with rejected := b.events.rejected + 1 } }))

def gcCollect : BoardProg Unit := look (fun _ => ())

def put (event : CommandEvent) : BoardProg Bool := do
  if !(← reserveRestored) then gcCollect
  if ← reserveRestored then
    if ← append event then pure true
    else do
      gcCollect
      countRejection
      pure false
  else do
    countRejection
    pure false

end EventQueue

def rebootAlreadyPending (commandId : String) (targeted : Bool) : CommandResponse :=
  { commandId, targeted, command := some COMMAND_REBOOT, success := false,
    error := commandErrorObject "reboot_already_pending" "A reboot is already pending" }

namespace CommandState

/-- The reboot request as the pending one. -/
def acceptReboot (k : CommandState) (commandId : String) (targeted : Bool) : CommandState :=
  { k with
    pendingReboot := some { uid := k.nextUid, commandId, targeted }
    nextUid := k.nextUid + 1
    history := k.history ++ [.rebootAccepted k.nextUid commandId] }

def handleRebootCommand (k : CommandState) (commandId : String) (targeted : Bool) (payload : PyDict) :
    CommandState :=
  if !payload.isEmpty then
    k.reply (unknownFieldsError COMMAND_REBOOT commandId targeted payload)
  else if k.pendingReboot.isSome then k.reply (rebootAlreadyPending commandId targeted)
  else k.acceptReboot commandId targeted

end CommandState

def handleGetDetailsCommand (commandId : String) (targeted : Bool) (payload : PyDict) :
    BoardProg Unit := do
  if !payload.isEmpty then
    reply (unknownFieldsError COMMAND_GET_DETAILS commandId targeted payload)
  else if !(← EventQueue.put { commandId, command := COMMAND_GET_DETAILS, targeted }) then
    reply { commandId, targeted, command := some COMMAND_GET_DETAILS, success := false,
            error := commandErrorObject "intercore_event_queue_memory_pressure"
              "Insufficient free heap to queue the Core 1 event" }

def handleReadConfigCommand (commandId : String) (targeted : Bool) (payload : PyDict) :
    BoardProg Unit := do
  if !payload.isEmpty then
    reply (unknownFieldsError COMMAND_READ_CONFIG commandId targeted payload)
  else match ← catchConfig (onDisk (readPersisted firmwareRules)) with
    | .error err =>
      reply (commandError commandId targeted (.str COMMAND_READ_CONFIG)
        (commandErrorObject "config_unavailable" err.message))
    | .ok config => do
      let rebootRequired ← look (fun b => b.disk.rebootRequired)
      reply (readConfigResponse commandId targeted config rebootRequired)

/-- `d[key] = value`. -/
def PyDict.put (d : PyDict) (key : PyKey) (value : PyValue) : PyDict :=
  match d with
  | [] => [(key, value)]
  | (k, v) :: rest => if k = key then (k, value) :: rest else (k, v) :: PyDict.put rest key value

/-- `d.update(more)`. -/
def PyDict.update (d more : PyDict) : PyDict :=
  more.foldl (fun d item => PyDict.put d item.1 item.2) d

def ConfigError.errorObject (err : ConfigError) : PyValue :=
  let error : PyDict := [(.str "code", .str (err.code.getD "invalid_config")),
    (.str "message", .str err.message)]
  let named := match err.unknownFields with
    | some (name :: names) => error ++ [(.str "unknown_fields", .list ((name :: names).map .str))]
    | _ => error
  .dict (PyDict.update named (err.details.getD []))

def Classification.text : Classification → String
  | .unchanged => "UNCHANGED"
  | .rebootRequired => "REBOOT_REQUIRED"

def writeConfigSuccess (commandId : String) (targeted : Bool) (result : WriteResult)
    (rebootRequired : Bool) : CommandResponse :=
  { commandId, targeted, command := some COMMAND_WRITE_CONFIG, success := true,
    data := .dict [
      (.str "configuration_changed", .bool (result.classification != .unchanged)),
      (.str "classification", .str result.classification.text),
      (.str "reboot_required", .bool rebootRequired),
      (.str "changes", result.changes)] }

/-- `begin_write`; the record keeps what it raises beyond a `ConfigError`. -/
def beginWriteCommand (candidate : PyValue) : BoardProg (Except ConfigError WriteResult) :=
  (catchConfig (onDisk (beginWriteResult firmwareRules candidate))).handle (fun e => do
    update (fun k => k.record (.writeRaised e))
    throw e)

def handleWriteConfigCommand (commandId : String) (targeted : Bool) (payload : PyDict) :
    BoardProg Unit := do
  let refuse (error : PyValue) : BoardProg Unit :=
    reply (commandError commandId targeted (.str COMMAND_WRITE_CONFIG) error)
  let unknown := sortedSet (payload.keys.filter (fun key => key != "config"))
  if !unknown.isEmpty then
    refuse (commandErrorObject "unknown_fields" "write-config payload contains unknown fields"
      (some unknown))
  else match payload.get? "config" with
    | none =>
      refuse (commandErrorObject "missing_key"
        "write-config payload is missing the required config key")
    | some candidate =>
      if !candidate.isDict then
        refuse (commandErrorObject "invalid_value" "write-config payload config must be an object")
      else match ← beginWriteCommand candidate with
        | .error err => refuse err.errorObject
        | .ok result => do
          let rebootRequired ← look (fun b => b.disk.rebootRequired)
          reply (writeConfigSuccess commandId targeted result rebootRequired)

def UTC_RETRY_INTERVAL_MS : Nat := 30000
def UTC_PROMPT_RETRY_DELAY_MS : Nat := 500

def Core0.utcClearPending (c : Core0) : Core0 :=
  { c with pendingUtcRequestId := none, utcRequestDeadlineMs := none }

def utcNoteReachableFailure : BoardProg Unit :=
  adjustAt (fun c nowMs =>
    let backdate : Int := (UTC_PROMPT_RETRY_DELAY_MS : Int) - UTC_RETRY_INTERVAL_MS
    { c.utcClearPending with
      utcLastAttemptMs := some (ticksAdd (nowMs % TICKS_PERIOD) backdate)
      timeline := { c.timeline with utcAttemptMs := some (nowMs + backdate) } })

def utcEpoch? (payload : PyDict) : Option Int :=
  match nonEmptyStr? (payload.getD "timestamp"), payload.getD "utc_epoch_ms" with
  | some _, .int epoch => if 0 < epoch then some epoch else none
  | _, _ => none

def setUtcSnapshot (snapshot : UtcSnapshot) : BoardProg Unit :=
  .atomic (fun b _ => (.ok (), { b with
    core0 := { b.core0.utcClearPending with utcSnapshot := some snapshot }
    mailboxes := { b.mailboxes with utcSnapshot := some snapshot } }))

def acceptUtc (boot : Boot) (epoch : Int) : BoardProg Unit := do
  match boot.formatUtcEpochMs epoch with
  | .error _ => utcNoteReachableFailure
  | .ok timestamp => do
    let sync ← uptimeMs
    setUtcSnapshot { timestamp, utcEpochMs := epoch, syncUptimeMs := sync,
                     runtimeStartEpochMs := epoch - sync }

def handleInfoResponse (boot : Boot) (doc : PyDict) : BoardProg Unit := do
  let source := doc.getD "source"
  if !(source.isText "server" || source.isText boot.config.source) then return
  if !(doc.getD "target").isText boot.config.source then return
  if !(doc.getD "request_type").isText "utc_time" then return
  match ← look (fun b => b.core0.pendingUtcRequestId) with
  | none => pure ()
  | some requestId =>
    if !(doc.getD "request_id").isText requestId then return
    match doc.getD "payload" with
    | .dict payload => match utcEpoch? payload with
      | some epoch => acceptUtc boot epoch
      | none => utcNoteReachableFailure
    | _ => utcNoteReachableFailure

def answerCommand (commandId : String) (targeted : Bool) (doc : PyDict) : BoardProg Unit := do
  let command := doc.getD "command"
  let refuse (error : PyValue) : BoardProg Unit :=
    reply (commandError commandId targeted command error)
  let unknown := unknownFieldNames doc.keys COMMAND_ENVELOPE_KEYS
  if !unknown.isEmpty then
    refuse (commandErrorObject "unknown_fields" "Message contains unknown fields" (some unknown))
  else match nonEmptyStr? command with
    | none => refuse (commandErrorObject "invalid_command" "Command must be a non-empty string")
    | some name => match doc.get? "payload" with
      | none => refuse (commandErrorObject "invalid_payload" "command payload is required")
      | some payload =>
        if MAX_COMMAND_LENGTH < name.toList.length then
          refuse (commandErrorObject "invalid_command"
            s!"Command name exceeds the {MAX_COMMAND_LENGTH} character bound")
        else match payload with
          | .dict payload => dispatch name payload
          | _ => refuse (commandErrorObject "invalid_payload" "command payload must be an object")
where
  dispatch (name : String) (payload : PyDict) : BoardProg Unit :=
    if !SUPPORTED_COMMANDS.contains name then
      reply (commandError commandId targeted (.str name)
        (commandErrorObject "unsupported_command" "Unsupported command"))
    else if name = COMMAND_WRITE_CONFIG ∧ targeted = false then
      -- never fleet-wide: no validation, no file operation, no response
      update (fun k => k.record (.silenced commandId))
    else if name = COMMAND_REBOOT then
      update (fun k => k.handleRebootCommand commandId targeted payload)
    else if name = COMMAND_GET_DETAILS then
      handleGetDetailsCommand commandId targeted payload
    else if name = COMMAND_READ_CONFIG then
      handleReadConfigCommand commandId targeted payload
    else if name = COMMAND_WRITE_CONFIG then
      handleWriteConfigCommand commandId targeted payload
    else pure ()

def targetMatches (boot : Boot) (target : PyValue) : BoardProg Bool := do
  match boundedTarget? target with
  | none => pure false
  | some target =>
    if target = BROADCAST_TARGET then return true
    if target.toLower = boot.config.source.toLower then return true
    match ← sense (fun i => if i.wifiConnected then i.ipAddress else none) with
    | none => pure false
    | some address => pure (target.toLower == address.toLower)

def onCommand (boot : Boot) (doc : PyDict) : BoardProg Unit := do
  let target := doc.getD "target"
  if !(← targetMatches boot target) then return
  match boundedCommandId? (doc.getD "command_id") with
  | none => pure ()
  | some commandId =>
    if ← look (fun b => b.command.isRecentCommandId commandId) then return
    -- a response slot must be free before the command may run
    if ← look (fun b => b.command.queueFull) then return
    update (fun k => k.rememberCommandId commandId)
    answerCommand commandId (!target.isText BROADCAST_TARGET) doc

/-- The topic as text and the document, of a frame that can be read. -/
def parseInbound (topic payload : Bytes) : BoardProg (Option (String × PyValue)) :=
  .atomic (fun b i =>
    if i.memoryError then (.error .memoryError, b)
    else match utf8Decode topic, loadsBytes payload with
      | some topic, .ok doc => (.ok (some (String.ofList topic, doc)), b)
      | _, _ => (.ok none, b))

/-- The message callback. -/
def onMqttMessage (boot : Boot) (topic payload : Bytes) : BoardProg Unit := do
  match ← parseInbound topic payload with
  | some (topic, .dict doc) =>
    match PyDict.getD doc "message_schema_version" with
    | .int version =>
      if version ≠ MESSAGE_SCHEMA_VERSION then return
      if topic = boot.config.topicInfoResponse then
        if (PyDict.getD doc "message_type").isText "info_response" then handleInfoResponse boot doc
        return
      if topic ≠ boot.config.topicCommand then return
      if !(PyDict.getD doc "message_type").isText "command" then return
      onCommand boot doc
    | _ => pure ()
  | _ => pure ()

end PicoDualCore
