import PicoDualCore.Base128
import PicoDualCore.Network
set_option autoImplicit false

/-!
The low-level MQTT wire protocol client. `rounds` bounds how many turns of its wait loops are
followed. The poller that tells whether a packet has started is an input.
-/

namespace PicoDualCore
open AtomicProgram

/-- Inbound remaining-length bound. -/
def MAX_INBOUND_PACKET_BYTES : Nat := 20 * 1024

/-- What a caller hands over as a message: a `str` has as many characters as `len` says and is
written as its UTF-8 bytes. -/
inductive Payload where
  | text (s : List Char)
  | bytes (b : Bytes)
  deriving DecidableEq, Repr

def Payload.len : Payload → Nat
  | .text s => s.length
  | .bytes b => b.length

def Payload.wire : Payload → Bytes
  | .text s => utf8 s
  | .bytes b => b

/-- `struct.pack("!H", n)`. -/
def be16 (n : Nat) : Bytes := [UInt8.ofNat (n / 256), UInt8.ofNat n]

def be16Value : Bytes → Nat
  | high :: low :: _ => high.toNat <<< 8 ||| low.toNat
  | _ => 0

/-- The message callback and the servicing hook that the client is given. -/
structure Host (σ κ : Type) where
  callback : Bytes → Bytes → Proc σ κ Exc Unit
  service : Proc σ κ Exc Unit

namespace MqttClient

variable {σ κ : Type} (host : Host σ κ)

/-- The record keeps that the hook has run. -/
def service : NetProg σ κ Unit := do
  onApp host.service
  onNet (fun n _ => (.ok (), { n with serviced := true }))

def write (owner : Option Owner) (bytes : Bytes) : NetProg σ κ Unit := do
  service host
  onNet (Network.write owner bytes)

/-- `sock.write(struct.pack("!H", len(s)))` and `sock.write(s)`. -/
def sendStr (owner : Option Owner) (s : List Char) : NetProg σ κ Unit := do
  write host owner (be16 s.length)
  write host owner (utf8 s)

/-- The close is best-effort but for a `MemoryError`. -/
def abortCorruptInbound {α : Type} (reason : String) : NetProg σ κ α := do
  (onNet Network.close).handle (fun err => match err with
    | .memoryError => throw .memoryError
    | _ => pure ())
  throw (.mqttException reason)

def readRequired (size : Nat) : NetProg σ κ Bytes := do
  service host
  match ← onNet (Network.read size) with
  | none => throw (.osError "-1")
  | some data => if data.length ≠ size then throw (.osError "-1") else pure data

def readByte : NetProg σ κ Nat := do
  match ← readRequired host 1 with
  | b :: _ => pure b.toNat
  | [] => throw (.osError "-1")

/-- `left` counts the length bytes that may still be read. -/
def recvLenFrom : Nat → Nat → Nat → NetProg σ κ Nat
  | 0, _, _ => abortCorruptInbound "Remaining length exceeds four bytes"
  | left + 1, n, sh => do
    let b ← readByte host
    let n := n ||| (b &&& 0x7F) <<< sh
    if b &&& 0x80 = 0 then pure n else recvLenFrom left n (sh + 7)

def recvLen : NetProg σ κ Nat := recvLenFrom host 4 0 0

def nextPacketId : NetProg σ κ Nat :=
  onNet (fun n _ =>
    let pid := if 65535 < n.pid + 1 then 1 else n.pid + 1
    (.ok pid, { n with pid := pid }))

def hex2 (n : Nat) : String := String.ofList [Json.hexDigit (n / 16), Json.hexDigit (n % 16)]

def receivePublish (op : UInt8) : NetProg σ κ (Option UInt8) := do
  let sz ← recvLen host
  if MAX_INBOUND_PACKET_BYTES < sz then
    abortCorruptInbound s!"Inbound packet remaining length {sz} exceeds {MAX_INBOUND_PACKET_BYTES}"
  if sz < 2 then
    abortCorruptInbound "Inbound packet too short for a topic length field"
  let topicLen := be16Value (← readRequired host 2)
  if sz - 2 < topicLen then
    let remaining := sz - 2
    abortCorruptInbound s!"Inbound topic length {topicLen} exceeds remaining length {remaining}"
  let topic ← readRequired host topicLen
  let remaining := sz - 2 - topicLen
  if op &&& 6 ≠ 0 then
    if remaining < 2 then
      abortCorruptInbound "Inbound packet too short for a packet identifier"
    let pid ← readRequired host 2
    let msg ← readRequired host (remaining - 2)
    deliver topic msg
    if op &&& 6 = 2 then
      write host none ([0x40, 0x02] ++ be16 (be16Value pid))
    pure (some op)
  else
    let msg ← readRequired host remaining
    deliver topic msg
    pure (some op)
where
  deliver (topic msg : Bytes) : NetProg σ κ Unit := do
    onNet (fun n _ => (.ok (), n.record (.delivered topic msg)))
    onApp (host.callback topic msg)

def dispatch (op : UInt8) : NetProg σ κ (Option UInt8) := do
  if op = 0xD0 then
    if (← readByte host) ≠ 0 then
      abortCorruptInbound "PINGRESP with non-zero remaining length"
    pure none
  else if op &&& 0xF0 ≠ 0x30 then
    -- the bodies of PUBACK and SUBACK are left to the wait loops
    if op = 0x40 ∨ op = 0x90 then pure (some op)
    else if op = 0xE0 then abortCorruptInbound "Broker DISCONNECT"
    else
      let shown := hex2 op.toNat
      abortCorruptInbound s!"Unexpected inbound opcode 0x{shown}"
  else if op &&& 6 = 4 then abortCorruptInbound "Inbound QoS 2 is not supported"
  else if op &&& 6 = 6 then abortCorruptInbound "Invalid PUBLISH QoS"
  else receivePublish host op

/-- Process one inbound packet. -/
def waitMsg : NetProg σ κ (Option UInt8) := do
  service host
  match ← onNet (Network.read 1) with
  | none => pure none
  | some [] => throw (.osError "-1")
  | some (op :: _) => dispatch host op

def socketReady : NetProg σ κ Bool :=
  onNet (fun n a => n.onSocket "poll" (fun _ _ => match a with
    | .memory => (.error .memoryError, n)
    | .fail _ => (.error (.osError "poll"), n)
    | .nothing => (.ok false, n)
    | _ => (.ok true, n)))

def checkMsg (timeoutMs : Nat) : NetProg σ κ (Option UInt8) := do
  if !(← socketReady) then pure none
  else
    onNet (Network.settimeout (some timeoutMs))
    (waitMsg host).finish (onNet (Network.settimeout none))

/-- The remaining length that `publish` announces. -/
def publishSize (topic : List Char) (msg : Payload) (fragment : Option Bytes) : Nat :=
  2 + topic.length + msg.len + 2 + (match fragment with
    | none => 0
    | some fragment => fragment.length + 1)

/-- The buffers that `publish` writes after the fixed header, in order. -/
def bodySegments (topic : List Char) (msg : Payload) (pid : Nat) (fragment : Option Bytes) :
    List Bytes :=
  [be16 topic.length, utf8 topic, be16 pid] ++ (match fragment with
    | none => [msg.wire]
    | some fragment => [msg.wire.take (msg.len - 1), [0x2C], fragment, [0x7D]])

def frameSegments (topic : List Char) (msg : Payload) (pid : Nat) (fragment : Option Bytes) :
    List Bytes :=
  (0x32 :: Base128.encode (publishSize topic msg fragment)) :: bodySegments topic msg pid fragment

def awaitPuback (pid : Nat) : Nat → NetProg σ κ Unit
  | 0 => .stop
  | rounds + 1 => do
    if (← waitMsg host) = some 0x40 then
      let sz ← readRequired host 1
      if sz ≠ [0x02] then abortCorruptInbound "PUBACK with unexpected remaining length"
      let rcvPid ← readRequired host 2
      if pid = be16Value rcvPid then return
    awaitPuback pid rounds

def MAX_PUBLISH_SIZE : Nat := 2097151

/-- An exchange bounded by a timeout, which is taken off again on every way out. -/
def timed {α : Type} (timeoutMs : Option Nat) (exchange : NetProg σ κ α) : NetProg σ κ α :=
  match timeoutMs with
  | none => exchange
  | some t => do
    onNet (Network.settimeout (some t))
    exchange.finish (onNet (Network.settimeout none))

def publish (rounds : Nat) (owner : Option Owner) (topic : List Char) (msg : Payload)
    (packetId timeoutMs : Option Nat) (fragment : Option Bytes) : NetProg σ κ Unit := do
  if MAX_PUBLISH_SIZE < publishSize topic msg fragment then
    throw (.mqttException "Publish size exceeds this client's remaining-length encoding limit")
  let pid ← match packetId with
    | none => nextPacketId
    | some pid => pure pid
  timed timeoutMs (do
    (frameSegments topic msg pid fragment).forM (write host owner)
    awaitPuback host pid rounds)

def awaitSuback (pid : Nat) : Nat → NetProg σ κ Unit
  | 0 => .stop
  | rounds + 1 => do
    if (← waitMsg host) = some 0x90 then
      let sz ← readRequired host 1
      if sz ≠ [0x03] then abortCorruptInbound "SUBACK with unexpected remaining length"
      let resp ← readRequired host 3
      if resp.take 2 ≠ be16 pid then throw (.mqttException "Invalid SUBACK packet identifier")
      if resp.drop 2 = [0x80] then throw (.mqttException "128")
      if resp.drop 2 ≠ [0x00] ∧ resp.drop 2 ≠ [0x01] then
        abortCorruptInbound "Invalid SUBACK return code"
    else awaitSuback pid rounds

def subscribe (rounds : Nat) (topic : List Char) : NetProg σ κ Unit := do
  if 122 < topic.length then
    throw (.mqttException "Subscribe topic exceeds the single-byte remaining-length bound")
  let pid ← nextPacketId
  write host none ([0x82, UInt8.ofNat (2 + 2 + topic.length + 1)] ++ be16 pid)
  sendStr host none topic
  write host none [0x01]
  awaitSuback host pid rounds

def awaitPingresp : Nat → NetProg σ κ Unit
  | 0 => .stop
  | rounds + 1 => do
    if (← waitMsg host) = none then return
    awaitPingresp rounds

def ping (rounds : Nat) (timeoutMs : Option Nat) : NetProg σ κ Unit :=
  timed timeoutMs (do
    write host none [0xC0, 0x00]
    awaitPingresp host rounds)

def connectHeader (keepalive : Nat) : Bytes :=
  [0x04, 0x4D, 0x51, 0x54, 0x54, 0x04, 0x02] ++ be16 keepalive

def connect (clientId : List Char) (keepalive : Nat) (timeoutMs : Option Nat) :
    NetProg σ κ Nat := do
  onNet Network.openSocket
  onNet (Network.settimeout timeoutMs)
  service host
  onNet Network.getaddrinfo
  service host
  onNet Network.connectSocket
  if 65535 < keepalive then
    throw (.mqttException "Keepalive exceeds the 65535-second MQTT maximum")
  -- the write of the header takes the first byte of the protocol name along
  write host none (0x10 :: Base128.encode (10 + 2 + clientId.length) ++ [0x00])
  write host none (connectHeader keepalive)
  sendStr host none clientId
  match ← readRequired host 4 with
  | [kind, size, flags, code] =>
    if kind ≠ 0x20 ∨ size ≠ 0x02 then throw (.mqttException "Invalid CONNACK")
    let shown := code.toNat
    if code ≠ 0 then throw (.mqttException s!"{shown}")
    pure (flags &&& 1).toNat
  | _ => throw (.osError "-1")

end MqttClient
end PicoDualCore
