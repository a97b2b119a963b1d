import PicoDualCore.MqttSession
set_option autoImplicit false

/-!
What Core 0 publishes, and its startup and run loops. `rounds` bounds how many turns of each loop
are followed; the run stops there, as it does at `machine.reset()`.
-/

namespace PicoDualCore
open AtomicProgram

namespace CommandState

def stampsOf (k : CommandState) (uid : Nat) : Stamps :=
  match k.pendingResponses.find? (fun r => r.uid == uid) with
  | some r => r.stamps
  | none => match k.pendingReboot with
    | some request => if request.uid = uid then request.stamps else {}
    | none => {}

def modifyStamps (k : CommandState) (uid : Nat) (f : Stamps → Stamps) : CommandState :=
  { k with
    pendingResponses := k.pendingResponses.map (fun r =>
      if r.uid = uid then { r with stamps := f r.stamps } else r)
    pendingReboot := k.pendingReboot.map (fun request =>
      if request.uid = uid then { request with stamps := f request.stamps } else request) }

/-- Claimed once and never rolled back; a retry reuses it. -/
def claimWireSequence (k : CommandState) (uid : Nat) : Nat × CommandState :=
  match (k.stampsOf uid).wireSequence with
  | some sequence => (sequence, k)
  | none => (k.nextSequence,
    { k.modifyStamps uid (fun s => { s with wireSequence := some k.nextSequence }) with
      nextSequence := k.nextSequence + 1 })

def freezePayload (k : CommandState) (uid : Nat) (payload : Bytes) : CommandState :=
  k.modifyStamps uid (fun s => { s with payloadBytes := some payload })

def recordFailure (k : CommandState) (uid : Nat) (failure : PermanentFailure) : CommandState :=
  k.modifyStamps uid (fun s => { s with permanentFailure := some failure })

end CommandState

namespace OutboundQueue

def sequenceOf (q : OutboundQueue) (ref : Nat) : Option Nat :=
  q.inFlight.bind (fun e => if e.ref = ref then e.wireSequence else none)

def stamp (q : OutboundQueue) (ref sequence : Nat) : OutboundQueue :=
  { q with inFlight := q.inFlight.map (fun e =>
      if e.ref = ref then { e with wireSequence := some sequence } else e) }

end OutboundQueue

def claimEntrySequence (ref : Nat) : BoardProg Nat :=
  .atomic (fun b _ => match b.outbound.sequenceOf ref with
    | some sequence => (.ok sequence, b)
    | none => (.ok b.core0.nextSequence, { b with
      outbound := b.outbound.stamp ref b.core0.nextSequence
      core0 := { b.core0 with nextSequence := b.core0.nextSequence + 1 } }))

def Board.mqttPublishReady (boot : Boot) (b : Board) : Bool :=
  match b.core0.lastMqttPublishCompletedMs with
  | none => true
  | some completedMs => boot.config.mqttOutboundPublishDelayMs == 0 ||
    decide ((boot.config.mqttOutboundPublishDelayMs : Int) ≤ ticksDiff b.ticksMs completedMs)

def mqttPublishReady (boot : Boot) : BoardProg Bool := look (Board.mqttPublishReady boot)

def noteMqttPublishCompleted (tag : Option (Owner × Nat)) : BoardProg Unit :=
  .atomic (fun b _ => (.ok (), { b with core0 := { b.core0 with
    lastMqttPublishCompletedMs := some b.ticksMs
    timeline := { b.core0.timeline with publishCompletedMs := some b.nowMs, unnoted := false }
    history := b.core0.history ++ [.published tag b.nowMs] } }))

def waitForMqttPublishSlot (boot : Boot) : Nat → BoardProg Unit
  | 0 => .stop
  | rounds + 1 => do
    if ← mqttPublishReady boot then pure ()
    else do
      BoardProg.sleepMs 10
      waitForMqttPublishSlot boot rounds

def topicForKind (config : Core0Config) : Kind → String
  | .telemetry => config.topicTelemetry
  | .commandResponse => config.topicCommandResponse
  | .health => config.topicHealth
  | .log => config.topicLog

section Publishing

variable (boot : Boot) (rounds : Nat)

/-- What `_publish_entry` does with a claimed sequence: the ceiling is on the final length. -/
def publishSpliced (owner : Owner) (topic : String) (body : Bytes) (sequence : Nat) :
    CoreProg Unit :=
  let fragment := envelopeFragment sequence boot.runtimeId boot.config.source
  let size := wireLength body fragment
  if MAX_OUTBOUND_MESSAGE_BYTES < size then
    throw (.messageTooLarge
      s!"Outbound message too large after envelope splice: {size} > {MAX_OUTBOUND_MESSAGE_BYTES}")
  else do
    Mqtt.publishQos1 boot rounds (some (owner, sequence)) topic (.bytes body) (some fragment)
    onApp (noteMqttPublishCompleted (some (owner, sequence)))

/-- `claim` claims the sequence of the entry, or hands over the one it carries. -/
def publishEntry (owner : Owner) (topic : String) (body : Bytes) (claim : BoardProg Nat) :
    CoreProg Unit :=
  if body.getLast? ≠ some 0x7D then
    throw (.valueError "queued payload must be a serialized JSON object")
  else do
    let sequence ← onApp claim
    publishSpliced boot rounds owner topic body sequence

/-- The frozen bytes, or else those of the document as of now; `none` is a permanent failure. -/
def responsePayload (uid : Nat) (response : CommandResponse) : BoardProg (Option Bytes) := do
  match ← look (fun b => (b.command.stampsOf uid).payloadBytes) with
  | some payload => pure (some payload)
  | none => do
    let uptime ← uptimeMs
    let timestamp ← currentUtcTimestamp boot
    allocate
    match serializeAndValidateMessage (.dict (response.message uptime timestamp)) with
    | .ok payload => do
      update (fun k => k.freezePayload uid payload)
      pure (some payload)
    | .error (.messageTooLarge _) => do
      update (fun k => k.recordFailure uid .responseTooLarge)
      pure none
    | .error _ => do
      update (fun k => k.recordFailure uid .responseInvalid)
      pure none

/-- `False` on a permanent failure, whose cause is on the container. -/
def publishCore0CommandResponse (uid : Nat) (response : CommandResponse) (sequence : Nat) :
    CoreProg Bool := do
  match ← onApp (responsePayload boot uid response) with
  | none => pure false
  | some payload =>
    ((publishEntry boot rounds (.container uid) boot.config.topicCommandResponse payload
        (pure sequence)).bind (fun _ => pure true)).handle (fun err => match err with
      | .messageTooLarge _ => do
        onApp (update (fun k => k.recordFailure uid .responseTooLarge))
        pure false
      | err => throw err)

/-- Whether the response is already one of the bounded substitutes. -/
def isResponseSubstitute (response : CommandResponse) : Bool :=
  !response.success && match response.error with
    | .dict error => [PermanentFailure.responseTooLarge, .responseInvalid].any
      (fun failure => (PyDict.getD error "code").isText failure.code)
    | _ => false

def optionalText : Option String → PyValue
  | some s => .str s
  | none => .none

/-- The bounded error in place of a response that cannot go out. -/
def substituteFor (commandId : String) (targeted : Bool) (command : Option String)
    (failure : PermanentFailure) : CommandResponse :=
  commandError commandId targeted (optionalText command) failure.errorObject

namespace CommandState

def popPublished (k : CommandState) (pending : PendingResponse) : CommandState :=
  let popped := { k with
    pendingResponses := k.pendingResponses.drop 1
    history := k.history ++ [.answered pending.uid] }
  if pending.clearsPendingReboot then
    { popped with
      pendingReboot := none
      history := popped.history ++
        (k.pendingReboot.toList.map (fun request => .rebootReleased request.uid)) }
  else popped

/-- The head of the queue, answered by its substitute from now on. -/
def substituteHead (k : CommandState) (pending : PendingResponse) : CommandState :=
  match (k.stampsOf pending.uid).permanentFailure with
  | none => k
  | some failure =>
    if isResponseSubstitute pending.response then k
    else { k with
      pendingResponses := k.pendingResponses.set 0
        { uid := k.nextUid
          response := substituteFor pending.response.commandId pending.response.targeted
            pending.response.command failure }
      nextUid := k.nextUid + 1
      history := k.history ++ [.substituted pending.uid k.nextUid] }

end CommandState

def servicePendingCore0Response : CoreProg Unit := do
  match ← onApp (look (fun b => b.core0.pendingResponses.head?)) with
  | none => pure ()
  | some pending => do
    let sequence ← onApp (onState (fun k => k.claimWireSequence pending.uid))
    if ← publishCore0CommandResponse boot rounds pending.uid pending.response sequence then
      onApp (update (fun k => k.popPublished pending))
    else
      onApp (update (fun k => k.substituteHead pending))

def rebootAcknowledgement (request : RebootRequest) : CommandResponse :=
  { commandId := request.commandId, command := some COMMAND_REBOOT, targeted := request.targeted,
    success := true, data := .dict [(.str "rebooting", .bool true)] }

def rebootPublishDue : BoardProg Bool :=
  look (fun b => b.core0.pendingReboot.isSome && b.core0.mqtt.isConnected && b.mqttPublishReady boot)

/-- The substitute for an acknowledgement that cannot go out; the request is terminal only once
its substitute is queued. -/
def CommandState.answerUnsentReboot (k : CommandState) (request : RebootRequest) : CommandState :=
  match (k.stampsOf request.uid).permanentFailure with
  | none => k
  | some failure =>
    match k.queueResponse (substituteFor request.commandId request.targeted (some COMMAND_REBOOT)
        failure) true (fun uid => .rebootSubstituted request.uid uid) with
    | (false, k') => k'
    | (true, k') => { k' with pendingReboot := k'.pendingReboot.map (fun pending =>
        if pending.uid = request.uid then { pending with permanentFailureAnswerQueued := true }
        else pending) }

def CommandState.startReboot (k : CommandState) (request : RebootRequest) : CommandState :=
  { k with pendingReboot := none, history := k.history ++ [.rebooting request.uid] }

/-- `none` when the transport failed: the reboot stays pending. -/
def publishRebootAcknowledgement (request : RebootRequest) : CoreProg (Option Bool) :=
  (do let sequence ← onApp (onState (fun k => k.claimWireSequence request.uid))
      let published ← publishCore0CommandResponse boot rounds request.uid
        (rebootAcknowledgement request) sequence
      pure (some published)).handle (fun err => if err.transport then pure none else throw err)

def performReboot : CoreProg Unit := do
  match ← onApp (look (fun b => b.core0.pendingReboot)) with
  | none => pure ()
  | some request =>
    if ← onApp (look (fun b => b.outbound.hasInFlight)) then return
    if request.permanentFailureAnswerQueued then return
    match ← publishRebootAcknowledgement boot rounds request with
    | none => pure ()
    | some false => onApp (update (fun k => k.answerUnsentReboot request))
    | some true => do
      onApp (update (fun k => k.startReboot request))
      onApp (sleepSliced 5)
      onApp (machineReset (some request.uid))

def utcRequest (requestId : String) : PyDict :=
  [(.str "message_type", .str "info_request"),
    (.str "message_schema_version", .int MESSAGE_SCHEMA_VERSION),
    (.str "source", .str boot.config.source),
    (.str "request_id", .str requestId),
    (.str "request_type", .str "utc_time"),
    (.str "payload", .dict [])]

def armUtcRequest (runtimeId : String) : BoardProg String :=
  .atomic (fun b _ =>
    let counter := b.core0.utcRequestCounter + 1
    let requestId := s!"{runtimeId}_{counter}"
    (.ok requestId, { b with core0 := { b.core0 with
      utcRequestCounter := counter
      pendingUtcRequestId := some requestId
      timeline := { b.core0.timeline with utcSending := true, utcAcknowledged := false } } }))

def utcDisarm : BoardProg Unit :=
  adjust (fun c _ => { c with
    pendingUtcRequestId := none
    timeline := { c.timeline with utcSending := false } })

def utcNoteSent : BoardProg Unit :=
  adjustAt (fun c nowMs => { c with
    utcLastAttemptMs := some (nowMs % TICKS_PERIOD)
    utcRequestDeadlineMs := some (ticksAdd (nowMs % TICKS_PERIOD)
      (boot.config.mqttBrokerResponseTimeoutSec * 1000 : Nat))
    timeline := { c.timeline with utcAttemptMs := some nowMs, utcSending := false } })

def utcSendRequest : CoreProg Unit := do
  let requestId ← onApp (armUtcRequest boot.runtimeId)
  let sent ← ((Mqtt.publishQos1 boot rounds none boot.config.topicInfoRequest
      (.text (Json.dumps (.dict (utcRequest boot requestId)))) none).bind
        (fun _ => pure true)).handle (fun err => match err with
      | .memoryError => do
        onApp utcDisarm
        throw .memoryError
      | .osError _ | .mqttException _ => do
        onApp utcDisarm
        pure false
      | err => throw err)
  if sent then
    onApp (noteMqttPublishCompleted none)
    onApp (utcNoteSent boot)

def utcDeadlinePassed : BoardProg Bool :=
  .atomic (fun b _ => match b.core0.utcRequestDeadlineMs with
    | none => (.error (.python (.typeError "can't convert 'NoneType' object to int")), b)
    | some deadlineMs => (.ok (decide (0 ≤ ticksDiff b.ticksMs deadlineMs)), b))

def utcPump : Nat → CoreProg Unit
  | 0 => .stop
  | turns + 1 => do
    if (← onApp (look (fun b => b.core0.pendingUtcRequestId))).isNone then return
    if ← onApp utcDeadlinePassed then return
    let polled ← ((Mqtt.checkMsg boot).bind (fun _ => pure true)).handle (fun err =>
      if err.transport then pure false else throw err)
    if polled then
      onApp (BoardProg.sleepMs 20)
      utcPump turns

def utcWaitResponse : CoreProg Unit := do
  utcPump boot rounds
  onApp (adjust (fun c _ => c.utcClearPending))

def utcRequestExpired : BoardProg Unit := do
  if (← look (fun b => b.core0.pendingUtcRequestId)).isSome then
    if ← utcDeadlinePassed then adjust (fun c _ => c.utcClearPending)

def utcSyncDue : BoardProg Bool := do
  match ← look (fun b => b.core0.utcSnapshot) with
  | none => pure true
  | some snapshot => do
    let uptime ← uptimeMs
    pure (decide ((boot.config.datetimeSyncIntervalMin * 60 * 1000 : Nat) ≤
      uptime - snapshot.syncUptimeMs))

def Board.utcThrottled (b : Board) : Bool :=
  match b.core0.utcLastAttemptMs with
  | none => false
  | some attemptMs => decide (ticksDiff b.ticksMs attemptMs < UTC_RETRY_INTERVAL_MS)

def utcShouldSendRequest : BoardProg Bool := do
  if (← look (fun b => b.core0.pendingUtcRequestId)).isSome then pure false
  else if !(← utcSyncDue boot) then pure false
  else do
    let throttled ← look Board.utcThrottled
    pure (!throttled)

def UTC_STARTUP_MAX_ATTEMPTS : Nat := 3

/-- `attempts` are left. -/
def synchronizeUtcRequired : Nat → CoreProg Bool
  | 0 => pure false
  | attempts + 1 => do
    onApp (waitForMqttPublishSlot boot rounds)
    utcSendRequest boot rounds
    utcWaitResponse boot rounds
    if (← onApp (look (fun b => b.core0.utcSnapshot))).isSome then pure true
    else do
      onApp (BoardProg.sleepMs 500)
      synchronizeUtcRequired attempts

def networkProbeMessage (uptime : Int) (packetId : Nat) : PyDict :=
  [(.str "message_type", .str "network_probe"),
    (.str "runtime_id", .str boot.runtimeId),
    (.str "uptime_ms", .int uptime),
    (.str "packet_id", .int packetId)]

def performNetworkProbe : CoreProg Bool := do
  onApp (waitForMqttPublishSlot boot rounds)
  let packetId ← Mqtt.getNextPacketId
  let uptime ← onApp uptimeMs
  (do let published ← Mqtt.publishQos1WithPacketId boot rounds boot.config.topicNetworkProbe
        (.text (Json.dumps (.dict (networkProbeMessage boot uptime packetId)))) packetId
        (some (boot.config.networkProbeTimeoutSec * 1000))
      if published then onApp (noteMqttPublishCompleted none)
      pure published).handle (fun err => if err.transport then pure false else throw err)

def takeNetworkSnapshot : BoardProg Unit :=
  .atomic (fun b i =>
    let snapshot : NetworkSnapshot :=
      { wifiConnected := i.wifiConnected
        mqttConnected := b.core0.mqtt.isConnected
        mqttConnectCount := b.core0.mqtt.connectCount
        mqttDisconnectCount := b.core0.mqtt.disconnectCount
        mqttLastDisconnectReason := b.core0.mqtt.lastDisconnectReason
        networkStackReady := b.core0.networkStackReady }
    (.ok (), { b with
      mailboxes := { b.mailboxes with networkSnapshot := some snapshot }
      core0 := { b.core0 with lastNetworkSnapshotMs := some b.ticksMs } }))

def publishNetworkSnapshot (force : Bool) : BoardProg Unit := do
  let due ← look (fun b => match b.core0.lastNetworkSnapshotMs with
    | none => true
    | some lastMs => force || decide ((boot.config.networkSnapshotIntervalSec * 1000 : Nat) ≤
      ticksDiff b.ticksMs lastMs))
  if due then takeNetworkSnapshot

def wifiIsConnected : BoardProg Bool := sense CoreInput.wifiConnected

/-- The Wi-Fi attempts: slices of waiting, and their outcome. -/
def wifiConnect : BoardProg Bool := do
  allocate
  let slices ← sense CoreInput.wifiSlices
  serviceSlices slices
  wifiIsConnected

def establishWifi : Nat → BoardProg Unit
  | 0 => .stop
  | turns + 1 => do
    if ← wifiIsConnected then return
    if ← wifiConnect then return
    sleepSliced (boot.config.wifiReconnectDelaysSec.getLastD 0)
    establishWifi turns

def establishMqtt : Nat → CoreProg Unit
  | 0 => .stop
  | turns + 1 => do
    if ← onApp Mqtt.isConnected then return
    if ← Mqtt.connect boot rounds then return
    onApp (sleepSliced (boot.config.mqttReconnectDelaysSec.getLastD 0))
    establishMqtt turns

def establishNetwork : CoreProg Unit := do
  onApp (establishWifi boot rounds)
  establishMqtt boot rounds rounds

def networkIsUp : BoardProg Bool := do
  if ← wifiIsConnected then Mqtt.isConnected else pure false

def setNetworkStackReady (ready : Bool) : BoardProg Unit :=
  adjust (fun c _ => { c with networkStackReady := ready })

def recoverNetworkIfNeeded : CoreProg Unit := do
  if ← onApp networkIsUp then return
  onApp (setNetworkStackReady false)
  if !(← onApp wifiIsConnected) then onApp (Mqtt.markDisconnected (some .wifiLost))
  onApp (publishNetworkSnapshot boot true)
  establishNetwork boot rounds
  onApp (setNetworkStackReady true)
  onApp (publishNetworkSnapshot boot true)

inductive Publication where
  | completed
  | tooLarge
  | failed
  deriving DecidableEq, Repr

def takeEntry : BoardProg (Option Entry) :=
  .atomic (fun b _ => (.ok b.outbound.take.1, { b with outbound := b.outbound.take.2 }))

def QueueError.raised : QueueError → Exc
  | .memoryError => .memoryError
  | .typeError m => .python (.typeError m)
  | .valueError m => .valueError m
  | .messageTooLarge m => .messageTooLarge m
  | .serialization e => .valueError e.message

def completeInFlight (ref : Nat) (discarded : Bool) : BoardProg Unit :=
  .atomic (fun b _ =>
    let result := b.outbound.completeInFlight (some ref) discarded
    ((result.1.mapError QueueError.raised).map (fun _ => ()), { b with
      outbound := result.2
      core0 := { b.core0 with toCommandState := b.command.record (.entryReleased ref discarded) } }))

/-- The payload of a command response that can still be answered, read back from its bytes. -/
def discardedPayload? (body : Bytes) : Option (String × PyDict) :=
  match loadsBytes body with
  | .ok (.dict doc) => match PyDict.getD doc "payload" with
    | .dict payload => (boundedCommandId? (PyDict.getD payload "command_id")).map
      (fun commandId => (commandId, payload))
    | _ => none
  | _ => none

def answerDiscardedCommandResponse (entry : Entry) : BoardProg Unit := do
  allocate
  match discardedPayload? entry.payloadBytes with
  | none => pure ()
  | some (commandId, payload) =>
    let targeted := match PyDict.getD payload "targeted" with
      | .bool b => b
      | _ => false
    let substitute := commandError commandId targeted (PyDict.getD payload "command")
      PermanentFailure.responseTooLarge.errorObject
    update (fun k => (k.queueResponse substitute false (fun uid => .discardAnswered entry.ref uid)).2)

/-- A transport failure keeps the entry in flight; anything unforeseen escapes. -/
def publishQueued (entry : Entry) : CoreProg Publication :=
  ((publishEntry boot rounds (.entry entry.ref) (topicForKind boot.config entry.kind)
      entry.payloadBytes (claimEntrySequence entry.ref)).bind
        (fun _ => pure .completed)).handle (fun err => match err with
      | .messageTooLarge _ => pure .tooLarge
      | .osError _ | .mqttException _ => pure .failed
      | err => throw err)

def serviceEntry (entry : Entry) : CoreProg Unit := do
  match ← publishQueued boot rounds entry with
  | .completed => onApp (completeInFlight entry.ref false)
  | .tooLarge => do
    onApp (completeInFlight entry.ref true)
    if entry.kind = .commandResponse then onApp (answerDiscardedCommandResponse entry)
  | .failed => pure ()

/-- `except (OSError, MQTTException): pass`. -/
def ignoreTransport (p : CoreProg Unit) : CoreProg Unit :=
  p.handle (fun err => if err.transport then pure () else throw err)

def rebootIfDue : CoreProg Unit := do
  if ← onApp (rebootPublishDue boot) then performReboot boot rounds

def noteCommandPolled (nowMs : Nat) : BoardProg Unit :=
  adjust (fun c _ => { c with
    lastCommandPollMs := nowMs % TICKS_PERIOD
    timeline := { c.timeline with commandPollMs := nowMs } })

def Board.commandPollDue (b : Board) : Bool :=
  decide ((boot.config.mqttCommandPollMs : Int) ≤ ticksDiff b.ticksMs b.core0.lastCommandPollMs)

def pollCommands : CoreProg Unit := do
  let (nowMs, due) ← onApp (look (fun b => (b.nowMs, b.commandPollDue boot)))
  if due then
    ignoreTransport (Mqtt.checkMsg boot)
    onApp (noteCommandPolled nowMs)

def serviceResponses : CoreProg Unit := do
  if ← onApp (look (fun b => b.core0.mqtt.isConnected && !b.core0.pendingResponses.isEmpty &&
      !b.outbound.hasInFlight && b.mqttPublishReady boot)) then
    ignoreTransport (servicePendingCore0Response boot rounds)

def serviceOutbound : CoreProg Unit := do
  if ← onApp Mqtt.isConnected then
    let entry ← do
      if ← onApp (mqttPublishReady boot) then onApp takeEntry else pure none
    match entry with
    | some entry => serviceEntry boot rounds entry
    | none => if ← onApp (Mqtt.pingDue boot) then ignoreTransport (Mqtt.ping boot rounds)

def serviceUtc : CoreProg Unit := do
  onApp utcRequestExpired
  if ← onApp Mqtt.isConnected then
    if ← onApp (utcShouldSendRequest boot) then
      if ← onApp (mqttPublishReady boot) then utcSendRequest boot rounds

def runOnce : CoreProg Unit := do
  onApp serviceWait
  rebootIfDue boot rounds
  recoverNetworkIfNeeded boot rounds
  pollCommands boot
  rebootIfDue boot rounds
  serviceResponses boot rounds
  serviceOutbound boot rounds
  onApp (publishNetworkSnapshot boot false)
  serviceUtc boot rounds
  onApp (BoardProg.sleepMs 10)

def runLoop : Nat → CoreProg Unit
  | 0 => .stop
  | turns + 1 => do
    runOnce boot rounds
    runLoop turns

def verifyStartupContract : CoreProg Bool := do
  if !(← performNetworkProbe boot rounds) then return false
  onApp (BoardProg.sleepMs 5000)
  if !(← performNetworkProbe boot rounds) then return false
  synchronizeUtcRequired boot rounds UTC_STARTUP_MAX_ATTEMPTS

def verifyUntilClean : Nat → CoreProg Unit
  | 0 => .stop
  | turns + 1 => do
    if ← verifyStartupContract boot rounds then return
    onApp (sleepSliced (boot.config.mqttReconnectDelaysSec.getLastD 0))
    onApp (Mqtt.markDisconnected none)
    establishNetwork boot rounds
    verifyUntilClean turns

def publishUtcSnapshot : BoardProg Unit :=
  .atomic (fun b _ => (.ok (), match b.core0.utcSnapshot with
    | none => b
    | some snapshot => { b with mailboxes := { b.mailboxes with utcSnapshot := some snapshot } }))

def start : CoreProg Unit := do
  establishNetwork boot rounds
  verifyUntilClean boot rounds rounds
  onApp publishUtcSnapshot
  onApp (setNetworkStackReady true)
  onApp (publishNetworkSnapshot boot true)
  onApp (adjust (fun c _ => { c with watchdogArmed := true }))

/-- `core0.start()` and `core0.run()`. -/
def core0Main : CoreProg Unit := do
  start boot rounds
  runLoop boot rounds rounds

end Publishing

def shippedItems : PyDict := match shippedConfig "Soil-1" with
  | .dict items => items
  | _ => []

def shippedBoot : Boot where
  config := splitConfigCore0 shippedItems
  runtimeId := "runtime_e66141040396962a0badf00d"
  clientId := "pico_e66141040396962a"
  formatUtcEpochMs := fun _ => .ok "2023-11-14T22:13:20Z"

end PicoDualCore
