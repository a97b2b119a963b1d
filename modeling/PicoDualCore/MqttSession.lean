import PicoDualCore.Core0Ingress
import PicoDualCore.MqttPublish
set_option autoImplicit false

/-!
Core 0's servicing hook and its MQTT owner: sessions with retries, publishes, polls and pings on
top of the wire client. `rounds` bounds how many turns of each wait loop are followed.
-/

namespace PicoDualCore
open AtomicProgram

def CORE_1_HEARTBEAT_STALE_TIMEOUT_MS : Nat := 30000

/-- `machine.reset()`, for the reboot request it carries out or for a dead Core 1. -/
def machineReset (request : Option Nat) : BoardProg Unit := do
  update (fun k => k.record (.reset request))
  .stop

def Board.checked (b : Board) (heartbeatAgeMs : Option Int) : Board :=
  { b with core0 := { b.core0 with supervision := { b.core0.supervision with heartbeatAgeMs } } }

/-- `get_core_1_activity_ms`, with which the record of the check starts anew. -/
def core1Activity : BoardProg (Option Nat) :=
  .atomic (fun b _ => (.ok b.mailboxes.core1ActivityMs, b.checked none))

/-- `time.ticks_diff(time.ticks_ms(), last_activity_ms)`, which the record keeps. -/
def heartbeatAge (lastActivityMs : Nat) : BoardProg Int :=
  .atomic (fun b _ =>
    let ageMs := ticksDiff b.ticksMs lastActivityMs
    (.ok ageMs, b.checked (some ageMs)))

/-- No-op before Core 1's first stamp. -/
def watchCore1Heartbeat : BoardProg Unit := do
  match ← core1Activity with
  | none => pure ()
  | some lastActivityMs =>
    let ageMs ← heartbeatAge lastActivityMs
    if (CORE_1_HEARTBEAT_STALE_TIMEOUT_MS : Int) ≤ ageMs then machineReset none

/-- No-op until armed; the record keeps the time. -/
def feedWatchdog : BoardProg Unit :=
  adjustAt (fun c nowMs =>
    if c.watchdogArmed then { c with supervision := { c.supervision with fedMs := some nowMs } }
    else c)

def serviceWait : BoardProg Unit := do
  watchCore1Heartbeat
  feedWatchdog

def serviceSlices : Nat → BoardProg Unit
  | 0 => pure ()
  | slices + 1 => do
    serviceWait
    BoardProg.sleepMs 100
    serviceSlices slices

def sleepSliced (delaySec : Nat) : BoardProg Unit := serviceSlices (delaySec * 10)

def MqttSession.isConnected (m : MqttSession) : Bool := m.connected && m.client

def MqttSession.markDisconnected (m : MqttSession) (reason : Option DisconnectReason) :
    MqttSession :=
  { m with
    disconnectCount := if m.connected then m.disconnectCount + 1 else m.disconnectCount
    connected := false
    lastDisconnectReason := reason.or m.lastDisconnectReason }

/-- A stretch of code on the fields of `Mqtt`. -/
def session (f : MqttSession → Nat → MqttSession) : BoardProg Unit :=
  adjust (fun c nowMs => { c with mqtt := f c.mqtt nowMs })

namespace Mqtt

variable (boot : Boot) (rounds : Nat)

def host : Host Board CoreInput := ⟨onMqttMessage boot, serviceWait⟩

def ackTimeoutMs : Nat := boot.config.mqttBrokerResponseTimeoutSec * 1000

def isConnected : BoardProg Bool := look (fun b => b.core0.mqtt.isConnected)

def touch : BoardProg Unit := session (fun m nowMs => { m with lastActivityMs := nowMs })

def touchPublished : BoardProg Unit :=
  adjustAt (fun c nowMs => { c with
    mqtt := { c.mqtt with lastActivityMs := nowMs % TICKS_PERIOD }
    timeline := c.timeline.acknowledge nowMs })

def markDisconnected (reason : Option DisconnectReason) : BoardProg Unit :=
  session (fun m _ => m.markDisconnected reason)

/-- The direct close is best-effort but for a `MemoryError`. -/
def closeOldClient : CoreProg Unit := do
  let hadClient ← onApp (look (fun b => b.core0.mqtt.client))
  onApp (session (fun m _ => { m with client := false }))
  if hadClient && (← inspect (fun s => s.net.sock.isSome)) then
    (onNet Network.close).handle (fun err => match err with
      | .memoryError => throw .memoryError
      | _ => pure ())

def newClient : CoreProg Unit := do
  onNet (fun n _ => (.ok (), { n with sock := none, pid := 0 }))
  onApp (session (fun m _ => { m with client := true }))

/-- One attempt: both subscriptions are part of it, and so is the return to blocking mode. -/
def connectOnce : CoreProg Unit := do
  closeOldClient
  newClient
  let _ ← MqttClient.connect (host boot) boot.clientId.toList boot.config.mqttKeepaliveSec
    (some (ackTimeoutMs boot))
  MqttClient.subscribe (host boot) rounds boot.config.topicCommand.toList
  MqttClient.subscribe (host boot) rounds boot.config.topicInfoResponse.toList
  onNet (Network.settimeout none)
  onApp (session (fun m nowMs => { m with
    connected := true, connectCount := m.connectCount + 1, lastActivityMs := nowMs }))

def attemptConnect : CoreProg Bool :=
  ((connectOnce boot rounds).bind (fun _ => pure true)).handle (fun err =>
    if err.transport then do
      onApp (session (fun m _ => m.markDisconnected none))
      pure false
    else throw err)

def connectAfter : List Nat → CoreProg Bool
  | [] => pure false
  | delaySec :: rest => do
    if ← attemptConnect boot rounds then pure true
    else do
      if !rest.isEmpty then onApp (sleepSliced delaySec)
      connectAfter rest

def connect : CoreProg Bool := connectAfter boot rounds boot.config.mqttReconnectDelaysSec

/-- A transport failure marks the session down and goes on to the caller. -/
def orDisconnect {α : Type} (reason : DisconnectReason) (exchange : CoreProg α) : CoreProg α :=
  exchange.handle (fun err => do
    if err.transport then onApp (markDisconnected (some reason))
    throw err)

def checkMsg : CoreProg Unit := do
  if ← onApp isConnected then
    orDisconnect .checkMsgFailure (do
      let _ ← MqttClient.checkMsg (host boot) (ackTimeoutMs boot))

/-- The record of a call of the client's `publish`. -/
def attempting (tag : Option (Owner × Nat)) (topic : String) (message : Payload)
    (fragment : Option Bytes) : BoardProg Unit :=
  .atomic (fun b _ =>
    let attempt : Attempt := { tag, topic, message, fragment, startedMs := b.nowMs }
    (.ok (), { b with core0 := { b.core0 with
      toCommandState := b.command.record (.attempt attempt)
      timeline := { b.core0.timeline with unnoted := false } } }))

def publishQos1 (tag : Option (Owner × Nat)) (topic : String) (message : Payload)
    (fragment : Option Bytes) : CoreProg Unit := do
  if !(← onApp isConnected) then throw (.osError "MQTT is not connected")
  else do
    orDisconnect .publishFailure (do
      onApp (attempting tag topic message fragment)
      MqttClient.publish (host boot) rounds (tag.map Prod.fst) topic.toList message none
        (some (ackTimeoutMs boot)) fragment)
    onApp touchPublished

/-- A transport failure answers `False`. -/
def publishQos1WithPacketId (topic : String) (message : Payload) (packetId : Nat)
    (timeoutMs : Option Nat) : CoreProg Bool := do
  if !(← onApp isConnected) then throw (.osError "MQTT is not connected")
  else (do
    onApp (attempting none topic message none)
    MqttClient.publish (host boot) rounds none topic.toList message (some packetId) timeoutMs none
    onApp touchPublished
    pure true : CoreProg Bool).handle (fun err =>
      if err.transport then do
        onApp (markDisconnected (some .publishFailure))
        pure false
      else throw err)

def MAX_PINGRESP_WAIT_SEC : Nat := 5

def pingIntervalSec : Nat := max (boot.config.mqttKeepaliveSec / 2) 1

def pingDue : BoardProg Bool :=
  look (fun b => b.core0.mqtt.isConnected && decide (0 < boot.config.mqttKeepaliveSec) &&
    decide ((pingIntervalSec boot * 1000 : Nat) ≤ ticksDiff b.ticksMs b.core0.mqtt.lastActivityMs))

def ping : CoreProg Unit := do
  if !(← onApp isConnected) then throw (.osError "MQTT is not connected")
  else do
    orDisconnect .pingTimeout
      (MqttClient.ping (host boot) rounds
        (some (min MAX_PINGRESP_WAIT_SEC (pingIntervalSec boot) * 1000)))
    onApp touch

def getNextPacketId : CoreProg Nat := do
  if ← onApp (look (fun b => b.core0.mqtt.client)) then MqttClient.nextPacketId else pure 1

end Mqtt
end PicoDualCore
