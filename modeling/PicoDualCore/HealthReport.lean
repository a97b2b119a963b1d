import PicoDualCore.CommandResponse
import PicoDualCore.Core0State
import PicoDualCore.DeviceLifecycle
import PicoDualCore.QueueArrivals
import PicoDualCore.WifiLink
set_option autoImplicit false

/-!
The health reports of Core 1: what a report tells, when one is attempted, and what its admission may
displace.
-/

namespace PicoDualCore
open AtomicProgram OutboundQueue

/-- What Core 1 reads of the network snapshot. -/
structure NetworkReport where
  wifi : WifiSnapshot
  networkStackReady : Bool

/-- What a report reads besides the queue. The network snapshot is looked at twice, and Core 0 may
have set another one between. A free heap or a floor that cannot be read is `none`. -/
structure HealthSources where
  network : Option NetworkReport
  networkAgain : Option NetworkReport
  utc : Option UtcSnapshot
  core1ActivityMs : Option Nat
  nowMs : Nat
  uptimeMs : Int
  manager : Option DeviceManager
  cpuTemperatureC : PyValue
  memFree : Option Int
  minimumFreeHeapBytes : Option Int

namespace HealthReport

def FALLBACK_MIN_FREE_HEAP_BYTES : Int := 60 * 1024

section Report

variable (config : Core1Config) (formatUtcEpochMs : Int → Except PyError String)
  (s : HealthSources) (network : NetworkReport)

def core1ActivityAgeMs : Option Int := s.core1ActivityMs.map (ticksDiff s.nowMs)

/-- Three read intervals, a minute at least, and a tick difference at most. -/
def core1ActivityThresholdMs : Int :=
  let readLoopMs : Int := config.readLoopSec * 1000
  if MAX_TICKS_SAFE_INTERVAL_MS / 3 < readLoopMs then MAX_TICKS_SAFE_INTERVAL_MS
  else max (readLoopMs * 3) 60000

def core1Active : Bool :=
  (core1ActivityAgeMs s).any (fun ageMs => decide (ageMs ≤ core1ActivityThresholdMs config))

/-- `get_device_counts`, also without a manager. -/
def deviceCounts : PyDict :=
  match s.manager with
  | some m => m.getDeviceCounts config
  | none => [(.str "configured", .int 0), (.str "active", .int 0),
      (.str "initialization_failed", .int 0)]

def devicesConfigured : Nat := ((deviceCounts config s).getD "configured").asNat

def devicesActive : Nat := ((deviceCounts config s).getD "active").asNat

def freeHeap : Int := s.memFree.getD 0

def minimumFreeHeap : Int := s.minimumFreeHeapBytes.getD FALLBACK_MIN_FREE_HEAP_BYTES

def utcSyncAgeSec : PyValue :=
  match s.utc with
  | some snapshot => .int ((s.uptimeMs - snapshot.syncUptimeMs) / 1000)
  | none => .none

def healthTimestamp : Except PyError (Option String) :=
  match s.utc with
  | none => .ok none
  | some snapshot => (formatUtcEpochMs (snapshot.runtimeStartEpochMs + s.uptimeMs)).map some

/-- The seven findings in the order of the report, each with what makes it one. -/
def findings : List (Bool × String) :=
  [(!network.networkStackReady, "network_stack_not_ready"),
    (!network.wifi.wifiConnected, "wifi_not_connected"),
    (!network.wifi.mqttConnected, "mqtt_not_connected"),
    (!core1Active config s, "core_1_inactive"),
    (decide (freeHeap s < minimumFreeHeap s), "low_free_heap"),
    (decide (devicesActive config s ≠ devicesConfigured config s), "device_count_mismatch"),
    (s.utc.isNone, "utc_not_valid")]

def degradedReasons : List String :=
  ((findings config s network).filter Prod.fst).map Prod.snd

def healthStatus : String :=
  if (degradedReasons config s network).isEmpty then "healthy" else "degraded"

def healthDocument (timestamp : Option String) (depth evicted rejected : Nat) : PyDict :=
  [(.str "uptime_ms", .int s.uptimeMs),
    (.str "timestamp", timestampValue timestamp),
    (.str "message_type", .str "health"),
    (.str "payload", .dict [(.str "status", .str (healthStatus config s network)),
      (.str "degraded_reasons", .list ((degradedReasons config s network).map .str)),
      (.str "cpu_temperature_c", s.cpuTemperatureC),
      (.str "network_stack_ready", .bool network.networkStackReady),
      (.str "wifi_connected", .bool network.wifi.wifiConnected),
      (.str "wifi_rssi_dbm", match network.wifi.rssi with
        | some rssi => .int rssi
        | none => .none),
      (.str "mqtt_connected", .bool network.wifi.mqttConnected),
      (.str "core_1_active", .bool (core1Active config s)),
      (.str "free_heap_bytes", .int (freeHeap s)),
      (.str "minimum_free_heap_bytes", .int (minimumFreeHeap s)),
      (.str "devices_configured", .int (devicesConfigured config s)),
      (.str "devices_active", .int (devicesActive config s)),
      (.str "outbound_queue_depth", .int depth), (.str "outbound_evicted", .int evicted),
      (.str "outbound_rejected", .int rejected), (.str "utc_valid", .bool s.utc.isSome),
      (.str "utc_sync_age_sec", utcSyncAgeSec s)])]

/-- `_build_health_payload` once there is a network snapshot; the time stamp can raise. -/
def buildHealthPayload (depth evicted rejected : Nat) : Except PyError PyDict := do
  let timestamp ← healthTimestamp formatUtcEpochMs s
  pure (healthDocument config s network timestamp depth evicted rejected)

end Report

inductive HealthError where
  | queue (e : QueueError)
  | python (e : PyError)
  deriving DecidableEq, Repr

section Queueing

variable (config : Core1Config) (formatUtcEpochMs : Int → Except PyError String) (rounds : Nat)

end Queueing

section Findings

variable {config : Core1Config} {s : HealthSources} {network : NetworkReport}

end Findings

def OnlyReportsEvicted (events : List QueueEvent) : Prop :=
  ∀ e, QueueEvent.evicted e ∈ events → e.retentionPriority.value = RETENTION_PRIORITY_HEALTH

def Spares (start q : OutboundQueue) : Prop :=
  ∃ new, q.history = start.history ++ new ∧ OnlyReportsEvicted new

section Sparing

variable {start q t : OutboundQueue}

theorem onlyReportsEvicted_append {events events' : List QueueEvent} :
    OnlyReportsEvicted (events ++ events') ↔
      OnlyReportsEvicted events ∧ OnlyReportsEvicted events' := by
  simp only [OnlyReportsEvicted, List.mem_append, or_imp, forall_and]

theorem Spares.refl (q : OutboundQueue) : Spares q q :=
  ⟨[], (List.append_nil _).symm, by simp [OnlyReportsEvicted]⟩

theorem Spares.add (h : Spares start q) {events : List QueueEvent}
    (ht : t.history = q.history ++ events) (hevents : OnlyReportsEvicted events) :
    Spares start t := by
  obtain ⟨new, hnew, honly⟩ := h
  exact ⟨new ++ events, by rw [ht, hnew, List.append_assoc],
    onlyReportsEvicted_append.mpr ⟨honly, hevents⟩⟩

end Sparing

section Attempt

variable {q : OutboundQueue} {message : PyDict}

/-- What an attempt for one message does to the queue. -/
def Attempted (message : PyDict) (q t : OutboundQueue) : Prop :=
  Spares q t ∧ LetsIn .health (serializeToBytes (.dict message)) q t

end Attempt

structure Reports (config : Core1Config) (formatUtcEpochMs : Int → Except PyError String)
    (s : HealthSources) (message : Kind × Bytes) : Prop where
  ready : ∃ network, s.network = some network ∧ network.networkStackReady = true ∧
    network.wifi.mqttConnected = true
  built : ∃ network depth evicted rejected document, s.networkAgain = some network ∧
    buildHealthPayload config formatUtcEpochMs s network depth evicted rejected = .ok document ∧
    message = (.health, serializeToBytes (.dict document))

/-- What the boundaries so far have done to the queue. -/
def Reported (config : Core1Config) (formatUtcEpochMs : Int → Except PyError String)
    (q : OutboundQueue) (boundaries : List HealthSources) (t : OutboundQueue) : Prop :=
  ∃ new reported, t.history = q.history ++ new ∧ OnlyReportsEvicted new ∧
    reported.Sublist boundaries ∧
      List.Forall₂ (Reports config formatUtcEpochMs) reported (new.filterMap message?)

/-- What can come out: want of memory, or what formatting the time of one of the boundaries
raises. -/
def Expected (formatUtcEpochMs : Int → Except PyError String) (boundaries : List HealthSources)
    (e : HealthError) : Prop :=
  e = .queue .memoryError ∨
    ∃ s ∈ boundaries, ∃ snapshot err, s.utc = some snapshot ∧
      formatUtcEpochMs (snapshot.runtimeStartEpochMs + s.uptimeMs) = .error err ∧ e = .python err

section Runs

variable {config : Core1Config} {formatUtcEpochMs : Int → Except PyError String}
  {q t u : OutboundQueue} {s : HealthSources} {boundaries : List HealthSources}

theorem Reported.skip (h : Spares q t) (hsame : letIn t = letIn q) :
    Reported config formatUtcEpochMs q boundaries t := by
  obtain ⟨new, hnew, honly⟩ := h
  have hnone : new.filterMap message? = [] := by
    rw [letIn, hnew, List.filterMap_append] at hsame
    exact List.append_right_eq_self.mp hsame
  exact ⟨new, [], hnew, honly, List.nil_sublist _, by rw [hnone]; exact .nil⟩

theorem Reported.append {earlier later : List HealthSources}
    (h : Reported config formatUtcEpochMs q earlier t)
    (h' : Reported config formatUtcEpochMs t later u) :
    Reported config formatUtcEpochMs q (earlier ++ later) u := by
  obtain ⟨new, reported, hnew, honly, hsub, hreports⟩ := h
  obtain ⟨new', reported', hnew', honly', hsub', hreports'⟩ := h'
  refine ⟨new ++ new', reported ++ reported', by rw [hnew', hnew, List.append_assoc],
    onlyReportsEvicted_append.mpr ⟨honly, honly'⟩, hsub.append hsub', ?_⟩
  rw [List.filterMap_append]
  exact List.rel_append hreports hreports'

theorem Expected.more {boundaries' : List HealthSources} {e : HealthError}
    (h : Expected formatUtcEpochMs boundaries e) (hmore : boundaries ⊆ boundaries') :
    Expected formatUtcEpochMs boundaries' e :=
  h.imp id (fun ⟨s, hs, hraised⟩ => ⟨s, hmore hs, hraised⟩)

end Runs

end HealthReport

end PicoDualCore
