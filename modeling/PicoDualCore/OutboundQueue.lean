import PicoDualCore.AtomicProgram
import PicoDualCore.MessageSerializer
set_option autoImplicit false

/-!
The Core 1 -> Core 0 queue of MQTT-bound messages. Every block under the queue lock, every heap
reading and every collection is one atomic step; the readings and the serializer's memory errors
are inputs, and what was reclaimed shows only in the readings that follow.
-/

namespace PicoDualCore
open AtomicProgram

inductive Kind where
  | telemetry
  | commandResponse
  | health
  | log
  deriving DecidableEq, Repr

def Kind.name : Kind → String
  | .telemetry => "telemetry"
  | .commandResponse => "command_response"
  | .health => "health"
  | .log => "log"

def KNOWN_KINDS : List Kind := [.telemetry, .commandResponse, .health, .log]

def RETENTION_PRIORITY_CRITICAL : Int := 10
def RETENTION_PRIORITY_ERROR : Int := 20
def RETENTION_PRIORITY_WARN : Int := 30
def RETENTION_PRIORITY_TELEMETRY : Int := 40
def RETENTION_PRIORITY_INFO : Int := 50
def RETENTION_PRIORITY_HEALTH : Int := 70

def RETENTION_PRIORITY_MIN : Int := RETENTION_PRIORITY_CRITICAL
def RETENTION_PRIORITY_MAX : Int := RETENTION_PRIORITY_HEALTH

/-- A validated retention priority; lower numbers are more important. -/
structure Priority where
  value : Int
  inRange : RETENTION_PRIORITY_MIN ≤ value ∧ value ≤ RETENTION_PRIORITY_MAX
  deriving DecidableEq, Repr

def Priority.health : Priority := ⟨RETENTION_PRIORITY_HEALTH, by decide⟩

/-- A queued message. `ref` is the identity of the dict, `wireSequence` the stamp of Core 0. -/
structure Entry where
  ref : Nat
  kind : Kind
  retentionPriority : Priority
  payloadBytes : Bytes
  wireSequence : Option Nat := none
  deriving DecidableEq, Repr

def Entry.size (e : Entry) : Int := e.payloadBytes.length

/-- What has happened to entries; the code keeps no such record. -/
inductive QueueEvent where
  | admitted (e : Entry)
  | evicted (e : Entry)
  | taken (e : Entry)
  | completed (e : Entry)
  | discarded (e : Entry)
  deriving DecidableEq, Repr

structure OutboundQueue where
  minimumFreeHeapBytes : Nat
  preferredFreeHeapBytes : Nat
  maxMessages : Option Nat := none
  queue : List Entry := []
  inFlight : Option Entry := none
  highWatermark : Nat := 0
  highWatermarkBytes : Int := 0
  queuedBytes : Int := 0
  messagesEvicted : Nat := 0
  telemetryEvicted : Nat := 0
  messagesRejected : Nat := 0
  oversizedRejected : Nat := 0
  oversizedDiscarded : Nat := 0
  nextRef : Nat := 0
  history : List QueueEvent := []
  deriving DecidableEq, Repr

inductive QueueError where
  | memoryError
  | typeError (message : String)
  | valueError (message : String)
  | messageTooLarge (message : String)
  | serialization (e : SerializationError)
  deriving DecidableEq, Repr

/-- What one step reads: `gc.mem_free()`, and whether the serializer runs out of memory. -/
structure HeapInput where
  memFree : Nat
  memoryError : Bool

abbrev QueueProg (α : Type) := Proc OutboundQueue HeapInput QueueError α

namespace OutboundQueue

def requirePositive (value : Int) (name : String) : Except QueueError Nat :=
  if 0 < value then .ok value.toNat
  else .error (.valueError s!"{name} must be a positive integer")

def new (minimumFreeHeapBytes : Int) (preferredFreeHeapBytes maxMessages : Option Int) :
    Except QueueError OutboundQueue := do
  let minimum ← requirePositive minimumFreeHeapBytes "minimum_free_heap_bytes"
  let preferred ← requirePositive (preferredFreeHeapBytes.getD minimumFreeHeapBytes)
    "preferred_free_heap_bytes"
  if preferred < minimum then
    throw (.valueError "preferred_free_heap_bytes must be >= minimum_free_heap_bytes")
  let ceiling ← maxMessages.mapM (fun m => requirePositive m "max_messages")
  pure { minimumFreeHeapBytes := minimum, preferredFreeHeapBytes := preferred
         maxMessages := ceiling }

def depth (q : OutboundQueue) : Nat := q.queue.length + (if q.inFlight.isSome then 1 else 0)

def record (q : OutboundQueue) (event : QueueEvent) : OutboundQueue :=
  { q with history := q.history ++ [event] }

def belowCountLimit (q : OutboundQueue) : Bool :=
  match q.maxMessages with
  | none => true
  | some ceiling => decide (q.depth < ceiling)

def evictOldestByPriority (q : OutboundQueue) (priority : Int) : Bool × OutboundQueue :=
  match q.queue.find? (fun e => e.retentionPriority.value == priority) with
  | none => (false, q)
  | some evicted =>
    (true, { q with
      queue := q.queue.eraseP (fun e => e.retentionPriority.value == priority)
      queuedBytes := q.queuedBytes - evicted.size
      messagesEvicted := q.messagesEvicted + 1
      telemetryEvicted := q.telemetryEvicted + (if evicted.kind = .telemetry then 1 else 0)
      history := q.history ++ [.evicted evicted] })

/-- Append an entry, and undo it when the append itself crosses the hard floor. -/
def append (q : OutboundQueue) (kind : Kind) (payload : Bytes) (priority : Priority)
    (i : HeapInput) : Bool × OutboundQueue :=
  let entry : Entry := ⟨q.nextRef, kind, priority, payload, none⟩
  let appended := { q with queue := q.queue ++ [entry], nextRef := q.nextRef + 1 }
  if i.memFree < q.minimumFreeHeapBytes then
    (false, { appended with queue := appended.queue.dropLast })
  else
    let queuedBytes := q.queuedBytes + entry.size
    (true, { appended with
      queuedBytes := queuedBytes
      highWatermark := if q.highWatermark < appended.depth then appended.depth else q.highWatermark
      highWatermarkBytes :=
        if q.highWatermarkBytes < queuedBytes then queuedBytes else q.highWatermarkBytes
      history := q.history ++ [.admitted entry] })

inductive Refusal where
  | memoryPressure
  | lowerPriorityThanQueued
  | criticalNotEvictable
  deriving DecidableEq, Repr

def worstPriority (queue : List Entry) : Int :=
  queue.foldl (fun worst e => if worst < e.retentionPriority.value then e.retentionPriority.value
    else worst) RETENTION_PRIORITY_MIN

/-- Evict the oldest entry of the least important class that this priority may displace. -/
def evictOneEligible (q : OutboundQueue) (priority : Priority) :
    Except Refusal Int × OutboundQueue :=
  if q.queue.isEmpty then (.error .memoryPressure, q)
  else if worstPriority q.queue < priority.value then (.error .lowerPriorityThanQueued, q)
  else if worstPriority q.queue = RETENTION_PRIORITY_CRITICAL ∧
      priority.value = RETENTION_PRIORITY_CRITICAL then
    (.error .criticalNotEvictable, q)
  else
    (.ok (worstPriority q.queue), (q.evictOldestByPriority (worstPriority q.queue)).2)

inductive Gate where
  | tried (appended : Bool)
  | relieved
  | refused
  deriving DecidableEq, Repr

def countGate (kind : Kind) (payload : Bytes) (priority : Priority) (q : OutboundQueue)
    (i : HeapInput) : Gate × OutboundQueue :=
  if q.belowCountLimit then
    (.tried (q.append kind payload priority i).1, (q.append kind payload priority i).2)
  else match q.evictOneEligible priority with
    | (.ok _, q') => (.relieved, q')
    | (.error _, q') => (.refused, q')

def evictOrReject (priority : Priority) (q : OutboundQueue) : Bool × OutboundQueue :=
  match q.evictOneEligible priority with
  | (.ok _, q') => (true, q')
  | (.error _, q') => (false, { q' with messagesRejected := q'.messagesRejected + 1 })

def take (q : OutboundQueue) : Option Entry × OutboundQueue :=
  match q.inFlight with
  | some entry => (some entry, q)
  | none => match q.queue with
    | [] => (none, q)
    | entry :: rest => (some entry,
      { q with queue := rest, inFlight := some entry, history := q.history ++ [.taken entry] })

/-- `entry` is the identity of the caller's dict, or its `None`. -/
def completeInFlight (q : OutboundQueue) (entry : Option Nat) (discarded : Bool) :
    Except QueueError Bool × OutboundQueue :=
  match q.inFlight, entry with
  | none, none => (.error (.typeError "'NoneType' object isn't subscriptable"), q)
  | some e, some ref =>
    if e.ref = ref then
      (.ok true, { q with
        inFlight := none
        queuedBytes := q.queuedBytes - e.size
        oversizedDiscarded := q.oversizedDiscarded + (if discarded then 1 else 0)
        history := q.history ++ [if discarded then .discarded e else .completed e] })
    else (.ok false, q)
  | _, _ => (.ok false, q)

def hasInFlight (q : OutboundQueue) : Bool := q.inFlight.isSome

def locked {α : Type} (block : OutboundQueue → HeapInput → α × OutboundQueue) : QueueProg α :=
  .atomic (fun q i => (.ok (block q i).1, (block q i).2))

def gcCollect : QueueProg Unit := locked (fun q _ => ((), q))

def reserveRestored : QueueProg Bool :=
  locked (fun q i => (decide (q.minimumFreeHeapBytes ≤ i.memFree), q))

def preferredRestored : QueueProg Bool :=
  locked (fun q i => (decide (q.preferredFreeHeapBytes ≤ i.memFree), q))

section Admission

variable (kind : Kind) (payload : Bytes) (priority : Priority)

def collectUnless (appended : Bool) : QueueProg Bool := do
  if !appended then gcCollect
  pure appended

def tryAppendWithCountGate : QueueProg Bool := do
  match ← locked (countGate kind payload priority) with
  | .refused => pure false
  | .tried appended => collectUnless appended
  | .relieved =>
    gcCollect
    collectUnless (← locked (fun q i => q.append kind payload priority i))

def evictOne : QueueProg Bool :=
  locked (fun q _ => ((q.evictOneEligible priority).1.isOk, (q.evictOneEligible priority).2))

/-- The attempt that the pressure band allows before anything is displaced for the floor. -/
def admitInBand : QueueProg Bool := do
  if ← preferredRestored then tryAppendWithCountGate kind payload priority
  else if ← reserveRestored then
    if ← evictOne priority then gcCollect
    tryAppendWithCountGate kind payload priority
  else pure false

def appendAboveFloor : QueueProg Bool := do
  if ← reserveRestored then tryAppendWithCountGate kind payload priority else pure false

/-- The displacement loop, with a bound on how many rounds are followed. -/
def displace : Nat → QueueProg Bool
  | 0 => .stop
  | rounds + 1 => do
    if ← appendAboveFloor kind payload priority then pure true
    else if ← locked (fun q _ => evictOrReject priority q) then
      gcCollect
      displace rounds
    else pure false

def admitHeapGoverned (rounds : Nat) : QueueProg Bool := do
  if !(← preferredRestored) then gcCollect
  if ← admitInBand kind payload priority then pure true else displace kind payload priority rounds

end Admission

def serializeAttempt (message : PyValue) : QueueProg Bytes :=
  .atomic (fun q i =>
    if i.memoryError then (.error .memoryError, q)
    else ((serializeAndValidateMessage message).mapError .serialization, q))

def countOversized : QueueProg Unit :=
  locked (fun q _ => ((), { q with oversizedRejected := q.oversizedRejected + 1 }))

def refuseSerialization (e : SerializationError) : QueueProg Bytes :=
  match e with
  | .unsupportedValue m | .nonStringKey m | .nonFiniteFloat m =>
    throw (.valueError s!"Message validation failed: {m}")
  | .messageTooLarge m => do
    countOversized
    throw (.messageTooLarge s!"Message too large: {m}")

def serializeWithRecovery (message : PyValue) (priority : Priority) :
    Nat → Bool → QueueProg Bytes
  | 0, _ => .stop
  | rounds + 1, gcAttempted => (serializeAttempt message).handle fun
    | .memoryError =>
      if !gcAttempted then do
        gcCollect
        serializeWithRecovery message priority rounds true
      else do
        if ← evictOne priority then
          gcCollect
          serializeWithRecovery message priority rounds true
        else throw .memoryError
    | .serialization e => refuseSerialization e
    | e => throw e

def knownKind? : PyValue → Option Kind
  | .str s => KNOWN_KINDS.find? (fun kind => kind.name == s)
  | _ => none

def validateAdmissionMetadata (kind retentionPriority : PyValue) :
    Except QueueError (Kind × Priority) :=
  match knownKind? kind with
  | none =>
    let shown := kind.text
    .error (.valueError s!"Unsupported outbound message kind: {shown}")
  | some kind => match retentionPriority with
    | .int n =>
      if h : RETENTION_PRIORITY_MIN ≤ n ∧ n ≤ RETENTION_PRIORITY_MAX then .ok (kind, ⟨n, h⟩)
      else .error (.valueError (s!"retention_priority must be between {RETENTION_PRIORITY_MIN} "
        ++ s!"and {RETENTION_PRIORITY_MAX}"))
    | _ => .error (.valueError "retention_priority must be an integer")

/-- `rounds` bounds how many rounds of its two recovery loops are followed. -/
def put (rounds : Nat) (kind message retentionPriority : PyValue) : QueueProg Bool := do
  let (kind, priority) ← Proc.ofExcept (validateAdmissionMetadata kind retentionPriority)
  if !message.isDict then throw (.valueError "outbound message must be a dictionary")
  let payload ← serializeWithRecovery message priority rounds false
  admitHeapGoverned kind payload priority rounds

/-- What a caller can hand over as payload bytes. -/
inductive PayloadArgument where
  | bytes (b : Bytes)
  | bytearray (b : Bytes)
  | other (value : PyValue)

def admitBounded (rounds : Nat) (kind : Kind) (priority : Priority) (payload : Bytes) :
    QueueProg Bool := do
  let size := payload.length
  if MAX_OUTBOUND_MESSAGE_BYTES < size then
    countOversized
    throw (.messageTooLarge (s!"Message too large: {size} bytes exceeds the "
      ++ s!"{MAX_OUTBOUND_MESSAGE_BYTES} byte per-message limit"))
  admitHeapGoverned kind payload priority rounds

def putWithKind (rounds : Nat) (kind : PyValue) (payload : PayloadArgument)
    (retentionPriority : PyValue) : QueueProg Bool := do
  let (kind, priority) ← Proc.ofExcept (validateAdmissionMetadata kind retentionPriority)
  match payload with
  | .other _ => throw (.valueError "payload_bytes must be bytes")
  | .bytes b | .bytearray b => admitBounded rounds kind priority b

end OutboundQueue
end PicoDualCore
