import PicoDualCore.CommandResponse
import PicoDualCore.ConfigChanges
import PicoDualCore.OutboundQueue
set_option autoImplicit false

/-!
What Core 0 keeps: its own fields, the lanes it shares with Core 1, and a record of what has
happened that the code does not keep. Core 0 runs on one thread, so a stretch of code that only
touches its own fields is one atomic step.
-/

namespace PicoDualCore
open AtomicProgram

def TICKS_PERIOD : Nat := 2 ^ 30

def ticksDiff (a b : Nat) : Int :=
  ((a : Int) - b + TICKS_PERIOD / 2) % TICKS_PERIOD - TICKS_PERIOD / 2

def ticksAdd (a : Nat) (delta : Int) : Nat := (((a : Int) + delta) % TICKS_PERIOD).toNat

theorem ticksDiff_near {a b : Nat} (hlow : -2 ^ 29 ≤ (b : Int) - a) (hhigh : (b : Int) - a < 2 ^ 29) :
    ticksDiff (b % TICKS_PERIOD) (a % TICKS_PERIOD) = (b : Int) - a := by
  unfold ticksDiff TICKS_PERIOD
  omega

theorem ticksAdd_mod (a delta : Nat) :
    ticksAdd (a % TICKS_PERIOD) delta = (a + delta) % TICKS_PERIOD := by
  unfold ticksAdd TICKS_PERIOD
  omega

structure UptimeState where
  lastTicksMs : Nat
  accumulatedMs : Int := 0
  deriving DecidableEq, Repr

def createUptimeState (bootTicksMs : Nat) : UptimeState := { lastTicksMs := bootTicksMs }

/-- The state after a sample; the uptime is its accumulated part. -/
def currentUptimeMs (state : UptimeState) (nowMs : Nat) : UptimeState :=
  { lastTicksMs := nowMs
    accumulatedMs := state.accumulatedMs + ticksDiff nowMs state.lastTicksMs }

/-- The part of the configuration that Core 0 works with. -/
structure Core0Config where
  source : String
  topicTelemetry : String
  topicLog : String
  topicCommand : String
  topicCommandResponse : String
  topicInfoRequest : String
  topicInfoResponse : String
  topicNetworkProbe : String
  topicHealth : String
  wifiReconnectDelaysSec : List Nat
  mqttReconnectDelaysSec : List Nat
  mqttKeepaliveSec : Nat
  mqttCommandPollMs : Nat
  mqttOutboundPublishDelayMs : Nat
  mqttBrokerResponseTimeoutSec : Nat
  datetimeSyncIntervalMin : Nat
  networkSnapshotIntervalSec : Nat
  networkProbeTimeoutSec : Nat
  deriving DecidableEq, Repr

def PyValue.asNat : PyValue → Nat
  | .int n => n.toNat
  | _ => 0

/-- The Core 0 half of `split_config`, for a validated configuration. -/
def splitConfigCore0 (config : PyDict) : Core0Config where
  source := (config.getD "source").asStr
  topicTelemetry := (config.getD "mqtt_topic_telemetry").asStr
  topicLog := (config.getD "mqtt_topic_log").asStr
  topicCommand := (config.getD "mqtt_topic_command").asStr
  topicCommandResponse := (config.getD "mqtt_topic_command_response").asStr
  topicInfoRequest := (config.getD "mqtt_topic_info_request").asStr
  topicInfoResponse := (config.getD "mqtt_topic_info_response").asStr
  topicNetworkProbe := (config.getD "mqtt_topic_network_probe").asStr
  topicHealth := (config.getD "mqtt_topic_health").asStr
  wifiReconnectDelaysSec := (config.getD "wifi_reconnect_delays_sec").asList.map PyValue.asNat
  mqttReconnectDelaysSec := (config.getD "mqtt_reconnect_delays_sec").asList.map PyValue.asNat
  mqttKeepaliveSec := (config.getD "mqtt_keepalive_sec").asNat
  mqttCommandPollMs := (config.getD "mqtt_command_poll_ms").asNat
  mqttOutboundPublishDelayMs := (config.getD "mqtt_outbound_publish_delay_ms").asNat
  mqttBrokerResponseTimeoutSec := (config.getD "mqtt_broker_response_timeout_sec").asNat
  datetimeSyncIntervalMin := (config.getD "datetime_sync_interval_min").asNat
  networkSnapshotIntervalSec := (config.getD "network_snapshot_interval_sec").asNat
  networkProbeTimeoutSec := (config.getD "network_probe_timeout_sec").asNat

def hexBytes (bytes : Bytes) : String :=
  String.ofList (bytes.flatMap (fun b => [Json.hexDigit (b.toNat / 16), Json.hexDigit (b.toNat % 16)]))

/-- `_runtime_id`, from the unique id, when there is one, and a nonce of four bytes: random ones,
or those of the tick counter. -/
def runtimeIdOf (uid : Option Bytes) (nonce : Bytes) : String :=
  "runtime_" ++ (uid.map hexBytes).getD "unknown" ++ hexBytes nonce

/-- What a boot fixes. `formatUtcEpochMs` is the calendar of the port. -/
structure Boot where
  config : Core0Config
  runtimeId : String
  clientId : String
  formatUtcEpochMs : Int → Except PyError String

/-- Why a response can never be published as it is. -/
inductive PermanentFailure where
  | responseTooLarge
  | responseInvalid
  deriving DecidableEq, Repr

def PermanentFailure.code : PermanentFailure → String
  | .responseTooLarge => "response_too_large"
  | .responseInvalid => "response_invalid"

/-- `_SUBSTITUTE_ERROR_MESSAGES`. -/
def PermanentFailure.message : PermanentFailure → String
  | .responseTooLarge => "Command response exceeded the per-message size limit"
  | .responseInvalid => "Command response could not be serialized for transmission"

def PermanentFailure.errorObject (failure : PermanentFailure) : PyValue :=
  commandErrorObject failure.code failure.message

/-- What publishing leaves on the dict of a response or of a reboot request. -/
structure Stamps where
  wireSequence : Option Nat := none
  payloadBytes : Option Bytes := none
  permanentFailure : Option PermanentFailure := none
  deriving DecidableEq, Repr

/-- A pending response. `uid` is the identity of its dict. -/
structure PendingResponse where
  uid : Nat
  response : CommandResponse
  clearsPendingReboot : Bool := false
  stamps : Stamps := {}

structure RebootRequest where
  uid : Nat
  commandId : String
  targeted : Bool
  permanentFailureAnswerQueued : Bool := false
  stamps : Stamps := {}
  deriving DecidableEq, Repr

structure UtcSnapshot where
  timestamp : String
  utcEpochMs : Int
  syncUptimeMs : Int
  runtimeStartEpochMs : Int
  deriving DecidableEq, Repr

/-- One call of the client's `publish`. A spliced message carries its owner and its sequence. -/
structure Attempt where
  tag : Option (Owner × Nat)
  topic : String
  message : Payload
  fragment : Option Bytes
  startedMs : Nat
  deriving DecidableEq, Repr

/-- An event for Core 1, which owns the execution of its command. -/
structure CommandEvent where
  commandId : String
  command : String
  payload : PyDict := []
  targeted : Bool

inductive CoreEvent where
  | claimed (commandId : String)
  | responded (uid : Nat) (commandId : String)
  | dispatched (event : CommandEvent)
  | rebootAccepted (uid : Nat) (commandId : String)
  | silenced (commandId : String)
  | writeRaised (e : Exc)
  | attempt (a : Attempt)
  | published (tag : Option (Owner × Nat)) (completedMs : Nat)
  | answered (uid : Nat)
  | substituted (uid substitute : Nat)
  | rebootSubstituted (uid substitute : Nat)
  | discardAnswered (ref substitute : Nat)
  | entryReleased (ref : Nat) (discarded : Bool)
  | rebootReleased (uid : Nat)
  | rebooting (uid : Nat)
  | reset (request : Option Nat)

inductive DisconnectReason where
  | wifiLost
  | pingTimeout
  | publishFailure
  | checkMsgFailure
  deriving DecidableEq, Repr

/-- The fields of `Mqtt`. -/
structure MqttSession where
  client : Bool := false
  connected : Bool := false
  connectCount : Nat := 0
  disconnectCount : Nat := 0
  lastDisconnectReason : Option DisconnectReason := none
  lastActivityMs : Nat
  deriving DecidableEq, Repr

/-- The true times behind the tick stamps, when the latest PUBACK came, whether the latest publish
has been acknowledged and not been noted yet, whether `_utc_send_request` is under way, and whether
the PUBACK of the latest time request has come; the code keeps no such record. -/
structure Timeline where
  pubackMs : Option Nat := none
  unnoted : Bool := false
  publishCompletedMs : Option Nat := none
  commandPollMs : Nat
  utcAttemptMs : Option Int := none
  utcSending : Bool := false
  utcAcknowledged : Bool := false
  deriving DecidableEq, Repr

def Timeline.acknowledge (t : Timeline) (nowMs : Nat) : Timeline :=
  { t with
    pubackMs := some nowMs
    unnoted := true
    utcAcknowledged := t.utcAcknowledged || t.utcSending }

/-- What commands and publishing work on, and the record of what has happened. -/
structure CommandState where
  pendingReboot : Option RebootRequest := none
  recentCommandIds : List String := []
  pendingResponses : List PendingResponse := []
  nextSequence : Nat := 0
  nextUid : Nat := 0
  history : List CoreEvent := []

/-- The last heartbeat check and the last feed of the watchdog; the code keeps no such record. -/
structure Supervision where
  heartbeatAgeMs : Option Int := none
  fedMs : Option Nat := none
  deriving DecidableEq, Repr

structure Core0 extends CommandState where
  uptime : UptimeState
  mqtt : MqttSession
  utcRequestCounter : Nat := 0
  pendingUtcRequestId : Option String := none
  utcRequestDeadlineMs : Option Nat := none
  utcLastAttemptMs : Option Nat := none
  utcSnapshot : Option UtcSnapshot := none
  lastNetworkSnapshotMs : Option Nat := none
  lastMqttPublishCompletedMs : Option Nat := none
  lastCommandPollMs : Nat
  networkStackReady : Bool := false
  watchdogArmed : Bool := false
  supervision : Supervision := {}
  timeline : Timeline

structure EventQueue where
  minimumFreeHeapBytes : Nat
  queue : List CommandEvent := []
  highWatermark : Nat := 0
  rejected : Nat := 0

structure NetworkSnapshot where
  wifiConnected : Bool
  mqttConnected : Bool
  mqttConnectCount : Nat
  mqttDisconnectCount : Nat
  mqttLastDisconnectReason : Option DisconnectReason
  networkStackReady : Bool
  deriving DecidableEq, Repr

structure Mailboxes where
  networkSnapshot : Option NetworkSnapshot := none
  utcSnapshot : Option UtcSnapshot := none
  core1ActivityMs : Option Nat := none
  deriving DecidableEq, Repr

/-- `nowMs` is the true time, of which the tick counter shows the remainder. -/
structure Board where
  nowMs : Nat
  core0 : Core0
  outbound : OutboundQueue
  events : EventQueue
  mailboxes : Mailboxes := {}
  disk : FsState

def Board.ticksMs (b : Board) : Nat := b.nowMs % TICKS_PERIOD

/-- The board when Core 0's objects have just been made. `bootMs` is the true time of the boot
tick. -/
def Board.initial (bootMs nowMs minimumFreeHeapBytes preferredFreeHeapBytes : Nat)
    (maxMessages : Option Nat) (disk : FsState) : Board where
  nowMs
  core0 := {
    uptime := createUptimeState (bootMs % TICKS_PERIOD)
    mqtt := { lastActivityMs := nowMs % TICKS_PERIOD }
    lastCommandPollMs := nowMs % TICKS_PERIOD
    timeline := { commandPollMs := nowMs } }
  outbound := { minimumFreeHeapBytes, preferredFreeHeapBytes, maxMessages }
  events := { minimumFreeHeapBytes }
  disk

def Board.command (b : Board) : CommandState := b.core0.toCommandState

def Board.withCommand (b : Board) (k : CommandState) : Board :=
  { b with core0 := { b.core0 with toCommandState := k } }

/-- What one step reads besides the board: the heap, the Wi-Fi, and the faults of the flash. -/
structure CoreInput where
  memoryError : Bool := false
  memFree : Nat := 0
  wifiConnected : Bool := true
  ipAddress : Option String := none
  wifiSlices : Nat := 0
  plan : FaultPlan := FaultPlan.none

abbrev BoardProg (α : Type) := Proc Board CoreInput Exc α

/-- Core 0's programs with the sockets under them. -/
abbrev CoreProg (α : Type) := NetProg Board CoreInput α

section Steps

variable {α : Type}

/-- A stretch of code on the command state. -/
def onState (f : CommandState → α × CommandState) : BoardProg α :=
  .atomic (fun b _ => (.ok (f b.command).1, b.withCommand (f b.command).2))

def update (f : CommandState → CommandState) : BoardProg Unit := onState (fun k => ((), f k))

def adjust (f : Core0 → Nat → Core0) : BoardProg Unit :=
  .atomic (fun b _ => (.ok (), { b with core0 := f b.core0 b.ticksMs }))

def adjustAt (f : Core0 → Nat → Core0) : BoardProg Unit :=
  .atomic (fun b _ => (.ok (), { b with core0 := f b.core0 b.nowMs }))

def look (f : Board → α) : BoardProg α := .atomic (fun b _ => (.ok (f b), b))

def sense (f : CoreInput → α) : BoardProg α := .atomic (fun b i => (.ok (f i), b))

def allocate : BoardProg Unit :=
  .atomic (fun b i => (if i.memoryError then .error .memoryError else .ok (), b))

def BoardProg.ticksMs : BoardProg Nat := look Board.ticksMs

def BoardProg.sleepMs (ms : Nat) : BoardProg Unit :=
  .atomic (fun b _ => (.ok (), { b with nowMs := b.nowMs + ms }))

def FsError.raised : FsError → Exc
  | .memory => .memoryError
  | .os errno => .osError (osErrorText errno)
  | .config e => .config e
  | .python e => .python e

/-- A program of the configuration manager. -/
def onDisk (p : FsProg α) : BoardProg α :=
  p.zoom Board.disk (fun b disk => { b with disk := disk }) CoreInput.plan FsError.raised

/-- `except ConfigError`, around one call. -/
def catchConfig (p : BoardProg α) : BoardProg (Except ConfigError α) :=
  (p.bind (fun a => .ret (.ok a))).handle (fun e => match e with
    | .config err => .ret (.error err)
    | e => .raise e)

end Steps

def CommandState.record (k : CommandState) (event : CoreEvent) : CommandState :=
  { k with history := k.history ++ [event] }

def uptimeMs : BoardProg Int :=
  .atomic (fun b _ =>
    let uptime := currentUptimeMs b.core0.uptime b.ticksMs
    (.ok uptime.accumulatedMs, { b with core0 := { b.core0 with uptime := uptime } }))

def currentUtcTimestamp (boot : Boot) : BoardProg (Option String) := do
  match ← look (fun b => b.core0.utcSnapshot) with
  | none => pure none
  | some snapshot => do
    let uptime ← uptimeMs
    let timestamp ← .ofExcept ((boot.formatUtcEpochMs
      (snapshot.runtimeStartEpochMs + uptime)).mapError Exc.python)
    pure (some timestamp)

def MAX_PENDING_CORE0_RESPONSES : Nat := 4
def RECENT_COMMAND_ID_CAPACITY : Nat := 16

namespace CommandState

def queueFull (k : CommandState) : Bool :=
  decide (MAX_PENDING_CORE0_RESPONSES ≤ k.pendingResponses.length)

/-- `_queue_core0_response`: refused when four are pending. `note` is for the record. -/
def queueResponse (k : CommandState) (response : CommandResponse) (clearsPendingReboot : Bool)
    (note : Nat → CoreEvent) : Bool × CommandState :=
  if k.queueFull then (false, k)
  else (true, { k with
    pendingResponses :=
      k.pendingResponses ++ [{ uid := k.nextUid, response, clearsPendingReboot }]
    nextUid := k.nextUid + 1
    history := k.history ++ [note k.nextUid] })

def reply (k : CommandState) (response : CommandResponse) : CommandState :=
  (k.queueResponse response false (fun uid => .responded uid response.commandId)).2

def isRecentCommandId (k : CommandState) (commandId : String) : Bool :=
  k.recentCommandIds.contains commandId

def rememberCommandId (k : CommandState) (commandId : String) : CommandState :=
  let ids := k.recentCommandIds ++ [commandId]
  { k with
    recentCommandIds := if RECENT_COMMAND_ID_CAPACITY < ids.length then ids.drop 1 else ids
    history := k.history ++ [.claimed commandId] }

end CommandState

def reply (response : CommandResponse) : BoardProg Unit := update (fun k => k.reply response)

end PicoDualCore
