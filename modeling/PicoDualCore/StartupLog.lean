import PicoDualCore.ChangeSummary
import PicoDualCore.Core0Ingress
import PicoDualCore.DeviceInvariant
import PicoDualCore.QueueArrivals
import PicoDualCore.ReadConfigSize
set_option autoImplicit false

/-!
The startup log of Core 1: what it reports of the devices, and its admission to the outbound queue,
in full or in the bounded form that leaves the devices out.
-/

namespace PicoDualCore
open AtomicProgram OutboundQueue

/-- The constants of `machine` by name, and the label of each. -/
def RESET_CAUSE_LABELS : List (String × String) :=
  [("WDT_RESET", "wdt"), ("PWRON_RESET", "poweron")]

/-- `constant` reads the `machine` module; the cause may be unreadable. -/
def getResetCause (constant : String → Option Int) (cause : Option Int) : String :=
  match cause with
  | none => "unknown"
  | some cause =>
    match RESET_CAUSE_LABELS.find? (fun label => constant label.1 == some cause) with
    | some label => label.2
    | none => "unknown"

namespace StartupLog

def statusDict (status : String) : PyValue := .dict [(.str "status", .str status)]

def startupSummary (deviceStatus : PyDict) (startupDurationMs : Int) (resetCause : String) :
    PyDict :=
  let devices := (deviceStatus.getD "devices").asDict
  [(.str "duration_ms", .int startupDurationMs), (.str "reset_cause", .str resetCause),
    (.str "hardware", statusDict "ready"), (.str "wifi", statusDict "ready"),
    (.str "mqtt", statusDict "ready"), (.str "subscriptions", statusDict "ready"),
    (.str "utc", statusDict "synchronized"), (.str "core_0", statusDict "running"),
    (.str "core_1", statusDict "running"),
    (.str "devices_configured", devices.getD "configured"),
    (.str "devices_ready", devices.getD "active"),
    (.str "devices_failed", (devices.get? "initialization_failed").getD (.int 0))]

def startupLogMessage (timestamp : Option String) (startupDurationMs : Int) (summary : PyDict) :
    PyDict :=
  [(.str "message_type", .str "log"), (.str "uptime_ms", .int startupDurationMs),
    (.str "timestamp", timestampValue timestamp),
    (.str "payload", .dict [(.str "level", .str "info"),
      (.str "event", .str "system_startup_completed"), (.str "module", .str "system"),
      (.str "message", .str "System startup completed"),
      (.str "data", .dict [(.str "startup", .dict summary)])])]

def deviceInfo (status : PyDict) : PyDict :=
  let name := status.getD "name"
  [(.str "device", (status.get? "device").getD (.str "unknown")),
    (.str "name", if name.truthy then name else (status.get? "id").getD (.str "unknown"))]

/-- One turn of the loop over the devices: the ready ones and the failed ones so far. -/
def sortDevice (lists : List PyValue × List PyValue) (status : PyValue) :
    List PyValue × List PyValue :=
  let info := deviceInfo status.asDict
  let state := status.asDict.getD "state"
  if state.isText DeviceState.ready.text then (lists.1 ++ [.dict info], lists.2)
  else if state.isText DeviceState.initializationFailed.text then
    (lists.1, lists.2 ++
      [.dict (info ++ [(.str "failure_reason", status.asDict.getD "failure_reason")])])
  else lists

section Messages

variable (config : Core1Config) (m : DeviceManager) (now : Int) (timestamp : Option String)
  (startupDurationMs : Int) (resetCause : String)

def deviceLists : List PyValue × List PyValue :=
  (m.deviceStatus config (some now)).foldl sortDevice ([], [])

def buildStartupLog : PyDict :=
  startupLogMessage timestamp startupDurationMs
    (startupSummary (m.getStatusSnapshot config (some now)) startupDurationMs resetCause ++
      [(.str "ready_devices", .list (deviceLists config m now).1),
        (.str "failed_devices", .list (deviceLists config m now).2)])

def buildStartupLogBounded : PyDict :=
  startupLogMessage timestamp startupDurationMs
    (startupSummary (m.getStatusSnapshot config (some now)) startupDurationMs resetCause)

end Messages

/-- A log over the ceiling is told apart from what the queue raises. -/
inductive StartupLogError where
  | tooLarge (message : String)
  | queue (e : QueueError)

abbrev StartupProg (α : Type) := Proc OutboundQueue HeapInput StartupLogError α

def queueing {α : Type} (p : QueueProg α) : StartupProg α :=
  p.zoom id (fun _ q => q) id .queue

def tryQueueStartupLog (rounds : Nat) (message : PyDict) (retentionPriority : Int) :
    StartupProg Bool := do
  let payload ← (queueing (OutboundQueue.serializeAttempt (.dict message))).handle fun
    | .queue (.serialization (.messageTooLarge text)) =>
      throw (.tooLarge s!"Startup log too large: {text}")
    | .queue (.serialization e) =>
      let text := e.message
      throw (.queue (.valueError s!"Startup log validation failed: {text}"))
    | e => throw e
  queueing (OutboundQueue.putWithKind rounds (.str Kind.log.name) (.bytes payload)
    (.int retentionPriority))

def pause : StartupProg Unit := queueing OutboundQueue.gcCollect

def admitStartupLog (rounds : Nat) (message : PyDict) : StartupProg Bool := do
  if ← tryQueueStartupLog rounds message RETENTION_PRIORITY_INFO then pure true
  else do
    pause
    tryQueueStartupLog rounds message RETENTION_PRIORITY_INFO

def admitStartupLogWithFallback (rounds : Nat) (message fallback : PyDict) : StartupProg Bool :=
  (admitStartupLog rounds message).handle fun
    | .tooLarge _ => admitStartupLog rounds fallback
    | .queue .memoryError => admitStartupLog rounds fallback
    | e => throw e

structure Booted (devices : List DeviceDefinition) (m : DeviceManager) : Prop where
  ready : ∀ d ∈ m.active, d.state = .ready
  named : ∀ d ∈ m.active, ∃ definition ∈ devices, d.name = definition.name
  failed : ∀ f ∈ m.failed, f.state = .initializationFailed

section Boot

variable {world : DriverWorld} {config : Core1Config} {devices : List DeviceDefinition}
  {m : DeviceManager} {definition : DeviceDefinition}

theorem Booted.recordFailure (h : Booted devices m) {info : FailedDevice} {calls : List DriverCall}
    (hinfo : info.state = .initializationFailed) :
    Booted devices ({ m with calls }.recordFailure info) := by
  refine ⟨h.ready, h.named, fun f hf => ?_⟩
  simp only [DeviceManager.recordFailure, recordFailed] at hf
  split at hf
  · obtain ⟨f₀, hf₀, rfl⟩ := List.mem_map.mp hf
    by_cases hid : f₀.id = info.id
    · simpa only [hid, if_true] using hinfo
    · simpa only [hid, if_false] using h.failed f₀ hf₀
  · rcases List.mem_append.mp hf with hold | hnew
    · exact h.failed f hold
    · rw [List.mem_singleton.mp hnew]
      exact hinfo

theorem Booted.recordSuccess (h : Booted devices m) (hdefinition : definition ∈ devices)
    {calls : List DriverCall} (attempts : Nat) :
    Booted devices ({ m with calls }.recordSuccess definition attempts) := by
  refine ⟨fun d hd => ?_, fun d hd => ?_, h.failed⟩
  · rcases List.mem_append.mp hd with hold | hnew
    · exact h.ready d hold
    · rw [List.mem_singleton.mp hnew]
  · rcases List.mem_append.mp hd with hold | hnew
    · exact h.named d hold
    · rw [List.mem_singleton.mp hnew]
      exact ⟨definition, hdefinition, rfl⟩

theorem Booted.initializeSingleDevice (h : Booted devices m) (hdefinition : definition ∈ devices) :
    Booted devices (m.initializeSingleDevice world config definition).2 := by
  unfold DeviceManager.initializeSingleDevice DeviceManager.call
  generalize world.error definition.id .construction _ = error
  cases error with
  | some err => exact h.recordFailure rfl
  | none =>
    dsimp only
    obtain ⟨errors, ⟨err, hattempts⟩ | hattempts⟩ := @initializeDriverWithRetries_cases world config
      (m.called definition.id .construction [none]) definition.id
    · rw [hattempts]
      exact h.recordFailure rfl
    · rw [hattempts]
      exact h.recordSuccess hdefinition _

theorem Booted.initializeDevicesFrom {rest : List DeviceDefinition} (h : Booted devices m)
    (hrest : ∀ definition ∈ rest, definition ∈ devices) :
    Booted devices (m.initializeDevicesFrom world config rest) := by
  induction rest generalizing m with
  | nil => exact h
  | cons definition rest ih =>
    exact ih (h.initializeSingleDevice (hrest definition List.mem_cons_self))
      (fun d hd => hrest d (List.mem_cons_of_mem _ hd))

theorem booted (world : DriverWorld) (config : Core1Config) :
    Booted config.devices (ManagerRun.booted world config).manager :=
  Booted.initializeDevicesFrom ⟨by simp, by simp, by simp⟩ (fun _ hd => hd)

end Boot

def asReady? (status : PyValue) : Option PyValue :=
  if (status.asDict.getD "state").isText DeviceState.ready.text then
    some (.dict (deviceInfo status.asDict)) else none

def asFailed? (status : PyValue) : Option PyValue :=
  if (status.asDict.getD "state").isText DeviceState.ready.text then none
  else if (status.asDict.getD "state").isText DeviceState.initializationFailed.text then
    some (.dict (deviceInfo status.asDict ++
      [(.str "failure_reason", status.asDict.getD "failure_reason")]))
  else none

def readyEntry (d : ManagedDevice Unit) : PyValue :=
  .dict [(.str "device", .str d.deviceType),
    (.str "name", if d.name.truthy then d.name else .str d.deviceId)]

def failedEntry (f : FailedDevice) : PyValue :=
  .dict [(.str "device", .str f.device), (.str "name", .str f.id),
    (.str "failure_reason", match f.failureReason with
      | some reason => .str reason
      | none => .none)]

section Lists

variable {config : Core1Config} {m : DeviceManager} {now : Int}

theorem foldl_sortDevice (statuses : List PyValue) (lists : List PyValue × List PyValue) :
    statuses.foldl sortDevice lists =
      (lists.1 ++ statuses.filterMap asReady?, lists.2 ++ statuses.filterMap asFailed?) := by
  induction statuses generalizing lists with
  | nil => simp
  | cons status rest ih =>
    rw [List.foldl_cons, ih, List.filterMap_cons, List.filterMap_cons]
    unfold sortDevice asReady? asFailed?
    by_cases hready : (status.asDict.getD "state").isText DeviceState.ready.text = true
    · simp [hready]
    · by_cases hfailed :
        (status.asDict.getD "state").isText DeviceState.initializationFailed.text = true
      · simp [hready, hfailed]
      · simp [hready, hfailed]

theorem get?_foldl_store {α : Type} {key : α → String} {value : α → PyValue} (xs : List α)
    (snapshots : PyDict) (hn : (xs.map key).Nodup) :
    (∀ x ∈ xs, (xs.foldl (fun snapshots x => Json.store snapshots (key x) (value x)) snapshots).get?
      (key x) = some (value x)) ∧
    ∀ id, id ∉ xs.map key →
      (xs.foldl (fun snapshots x => Json.store snapshots (key x) (value x)) snapshots).get? id =
        snapshots.get? id := by
  induction xs generalizing snapshots with
  | nil => exact ⟨by simp, fun _ _ => rfl⟩
  | cons x xs ih =>
    rw [List.map_cons, List.nodup_cons] at hn
    obtain ⟨hfound, hother⟩ := ih (Json.store snapshots (key x) (value x)) hn.2
    refine ⟨fun y hy => ?_, fun id hid => ?_⟩
    · rcases List.mem_cons.mp hy with rfl | hy
      · rw [List.foldl_cons, hother _ hn.1, PyDict.get?_store, if_pos rfl]
      · exact hfound y hy
    · rw [List.map_cons, List.mem_cons, not_or] at hid
      rw [List.foldl_cons, hother id hid.2, PyDict.get?_store, if_neg (Ne.symm hid.1)]

/-- The status list is the snapshots of all devices. -/
theorem deviceStatus_perm (hids : (config.devices.map DeviceDefinition.id).Nodup)
    (hm : (m.active.map ManagedDevice.deviceId ++ m.failed.map FailedDevice.id).Perm
      (config.devices.map DeviceDefinition.id)) :
    (m.deviceStatus config (some now)).Perm
      (m.active.map (fun d => .dict (d.getStatusSnapshot (some now))) ++
        m.failed.map (fun f => .dict f.statusSnapshot)) := by
  have hnodup := hm.nodup_iff.mpr hids
  obtain ⟨hactive, hfailed, hapart⟩ := List.nodup_append.mp hnodup
  have hlate := @get?_foldl_store _ FailedDevice.id (fun f => .dict f.statusSnapshot) m.failed
  have hearly := @get?_foldl_store (ManagedDevice Unit) ManagedDevice.deviceId
    (fun d => .dict (d.getStatusSnapshot (some now))) m.active [] hactive
  have hlookup : (config.devices.map DeviceDefinition.id).filterMap
      (fun id => (m.deviceSnapshots (some now)).get? id) = m.deviceStatus config (some now) := by
    rw [List.filterMap_map]
    rfl
  rw [← hlookup]
  refine (hm.symm.filterMap _).trans (List.Perm.of_eq ?_)
  rw [List.filterMap_append, List.filterMap_map, List.filterMap_map]
  refine congrArg₂ (· ++ ·) ?_ ?_
  · rw [← List.filterMap_eq_map]
    refine List.filterMap_congr (fun d hd => ?_)
    have hnot : d.deviceId ∉ m.failed.map FailedDevice.id := fun hmem =>
      hapart _ (List.mem_map_of_mem hd) _ hmem rfl
    exact ((hlate _ hfailed).2 _ hnot).trans (hearly.1 d hd)
  · rw [← List.filterMap_eq_map]
    exact List.filterMap_congr (fun f hf => (hlate _ hfailed).1 f hf)

theorem asReady?_active (d : ManagedDevice Unit) (h : d.state = .ready) :
    asReady? (.dict (d.getStatusSnapshot (some now))) = some (readyEntry d) := by
  cases hname : d.name <;>
    simp [asReady?, readyEntry, deviceInfo, ManagedDevice.getStatusSnapshot, statusFields, h, hname,
      ageFields, PyValue.asDict, PyDict.getD, PyDict.get?, PyValue.isText, DeviceState.text,
      PyValue.truthy]

theorem asFailed?_active (d : ManagedDevice Unit) (h : d.state = .ready) :
    asFailed? (.dict (d.getStatusSnapshot (some now))) = none := by
  simp [asFailed?, ManagedDevice.getStatusSnapshot, statusFields, h, PyValue.asDict, PyDict.getD,
    PyDict.get?, PyValue.isText, DeviceState.text]

theorem asReady?_failed (f : FailedDevice) (h : f.state = .initializationFailed) :
    asReady? (.dict f.statusSnapshot) = none := by
  simp [asReady?, FailedDevice.statusSnapshot, statusFields, h, PyValue.asDict, PyDict.getD,
    PyDict.get?, PyValue.isText, DeviceState.text]

theorem asFailed?_failed (f : FailedDevice) (h : f.state = .initializationFailed) :
    asFailed? (.dict f.statusSnapshot) = some (failedEntry f) := by
  cases hreason : f.failureReason <;>
    simp [asFailed?, failedEntry, deviceInfo, FailedDevice.statusSnapshot, statusFields, h, hreason,
      PyValue.asDict, PyDict.getD, PyDict.get?, PyValue.isText, DeviceState.text, PyValue.truthy]

/-- After boot the log shows every device once, as ready or as failed. -/
theorem deviceLists_perm (hids : (config.devices.map DeviceDefinition.id).Nodup)
    (hm : (m.active.map ManagedDevice.deviceId ++ m.failed.map FailedDevice.id).Perm
      (config.devices.map DeviceDefinition.id)) (h : Booted config.devices m) :
    (deviceLists config m now).1.Perm (m.active.map readyEntry) ∧
      (deviceLists config m now).2.Perm (m.failed.map failedEntry) := by
  have hperm := @deviceStatus_perm config m now hids hm
  rw [deviceLists, foldl_sortDevice]
  simp only [List.nil_append]
  constructor
  · refine (hperm.filterMap asReady?).trans (List.Perm.of_eq ?_)
    have hfailed : (m.failed.map (fun f => PyValue.dict f.statusSnapshot)).filterMap asReady? =
        [] := by
      rw [List.filterMap_map, List.filterMap_eq_nil_iff]
      exact fun f hf => asReady?_failed f (h.failed f hf)
    rw [List.filterMap_append, hfailed, List.append_nil, List.filterMap_map,
      ← List.filterMap_eq_map]
    exact List.filterMap_congr (fun d hd => asReady?_active d (h.ready d hd))
  · refine (hperm.filterMap asFailed?).trans (List.Perm.of_eq ?_)
    have hactive : (m.active.map (fun d => PyValue.dict (d.getStatusSnapshot (some now)))).filterMap
        asFailed? = [] := by
      rw [List.filterMap_map, List.filterMap_eq_nil_iff]
      exact fun d hd => asFailed?_active d (h.ready d hd)
    rw [List.filterMap_append, hactive, List.nil_append, List.filterMap_map,
      ← List.filterMap_eq_map]
    exact List.filterMap_congr (fun f hf => asFailed?_failed f (h.failed f hf))

end Lists

theorem allJsonSafe_of {items : List PyValue} (h : ∀ v ∈ items, isJsonSafe v = true) :
    allJsonSafe items = true := by
  induction items with
  | nil => rfl
  | cons v rest ih =>
    rw [allJsonSafe, h v List.mem_cons_self, ih (fun w hw => h w (List.mem_cons_of_mem _ hw))]
    rfl

section Text

open Json

variable {config : Core1Config} {m : DeviceManager} {now durationMs : Int}
  {timestamp : Option String} {resetCause : String} {items : PyDict}

theorem startupSummary_snapshot : startupSummary (m.getStatusSnapshot config (some now)) durationMs
    resetCause =
      [(.str "duration_ms", .int durationMs), (.str "reset_cause", .str resetCause),
        (.str "hardware", statusDict "ready"), (.str "wifi", statusDict "ready"),
        (.str "mqtt", statusDict "ready"), (.str "subscriptions", statusDict "ready"),
        (.str "utc", statusDict "synchronized"), (.str "core_0", statusDict "running"),
        (.str "core_1", statusDict "running"),
        (.str "devices_configured", .int config.devices.length),
        (.str "devices_ready", .int (m.active.countP (fun d => d.state = .ready))),
        (.str "devices_failed",
          .int (m.failed.countP (fun f => f.state = .initializationFailed)))] :=
  rfl

theorem isJsonSafe_timestamp : isJsonSafe (timestampValue timestamp) = true := by
  cases timestamp <;> rfl

theorem isJsonSafe_startupLogMessage {summary : PyDict} (h : pairsJsonSafe summary = true) :
    isJsonSafe (.dict (startupLogMessage timestamp durationMs summary)) = true := by
  simp [startupLogMessage, isJsonSafe, pairsJsonSafe, isJsonSafe_timestamp, h]

theorem isJsonSafe_buildStartupLogBounded : isJsonSafe (.dict (buildStartupLogBounded config m now
    timestamp durationMs resetCause)) = true := by
  refine isJsonSafe_startupLogMessage ?_
  simp [startupSummary_snapshot, pairsJsonSafe, isJsonSafe, statusDict]

theorem isJsonSafe_buildStartupLog (hready : allJsonSafe (deviceLists config m now).1 = true)
    (hfailed : allJsonSafe (deviceLists config m now).2 = true) :
    isJsonSafe (.dict (buildStartupLog config m now timestamp durationMs resetCause)) = true := by
  refine isJsonSafe_startupLogMessage ?_
  simp [startupSummary_snapshot, pairsJsonSafe, isJsonSafe, statusDict, hready, hfailed]

theorem isJsonSafe_readyEntry {d : ManagedDevice Unit} (h : isJsonSafe d.name = true) :
    isJsonSafe (readyEntry d) = true := by
  by_cases hname : d.name.truthy = true <;> simp [readyEntry, isJsonSafe, pairsJsonSafe, hname, h]

theorem isJsonSafe_failedEntry (f : FailedDevice) : isJsonSafe (failedEntry f) = true := by
  cases hreason : f.failureReason <;> simp [failedEntry, isJsonSafe, pairsJsonSafe, hreason]

def SUMMARY_SIZES : List (String × Nat) :=
  [("duration_ms", 20), ("reset_cause", 9), ("hardware", 19), ("wifi", 19), ("mqtt", 19),
    ("subscriptions", 19), ("utc", 26), ("core_0", 21), ("core_1", 21), ("devices_configured", 2),
    ("devices_ready", 2), ("devices_failed", 2)]

def LOG_PAYLOAD_SIZES : List (String × Nat) :=
  [("level", 6), ("event", 26), ("module", 8), ("message", 26),
    ("data", dictBound [("startup", dictBound SUMMARY_SIZES)])]

def LOG_SIZES : List (String × Nat) :=
  [("message_type", 5), ("uptime_ms", 20), ("timestamp", 50),
    ("payload", dictBound LOG_PAYLOAD_SIZES)]

/-- A cause that `get_reset_cause` can report. -/
def ResetCause (resetCause : String) : Prop := resetCause ∈ ["unknown", "wdt", "poweron"]

theorem getResetCause_known (constant : String → Option Int) (cause : Option Int) :
    ResetCause (getResetCause constant cause) := by
  unfold getResetCause ResetCause
  cases cause with
  | none => simp
  | some cause =>
    dsimp only
    cases hfind : RESET_CAUSE_LABELS.find? (fun label => constant label.1 == some cause) with
    | none => simp
    | some label =>
      have hmem := List.mem_of_find?_eq_some hfind
      simp only [RESET_CAUSE_LABELS, List.mem_cons, List.not_mem_nil, or_false] at hmem
      rcases hmem with rfl | rfl <;> simp

theorem size_bounded_le (hdevices : config.devices.length < 100)
    (hactive : m.active.length < 100) (hfailed : m.failed.length < 100)
    (hduration : 0 ≤ durationMs ∧ durationMs.natAbs < 10 ^ 20) (hcause : ResetCause resetCause)
    (htime : ∀ t, timestamp = some t → t.utf8ByteSize ≤ 24) :
    size 1 (.dict (buildStartupLogBounded config m now timestamp durationMs resetCause)) ≤
      dictBound LOG_SIZES := by
  have hcauseSize : size 1 (.str resetCause) ≤ 9 := by
    simp only [ResetCause, List.mem_cons, List.not_mem_nil, or_false] at hcause
    rcases hcause with rfl | rfl | rfl <;> decide
  have htimeSize : size 1 (timestampValue timestamp) ≤ 50 := by
    cases ht : timestamp with
    | none => exact (by decide : 4 ≤ 50)
    | some t =>
      have hbytes := htime t ht
      have := textSize_le t
      rw [timestampValue, size]
      omega
  have hcount : ∀ n : Nat, n < 100 → size 1 (.int n) ≤ 2 := fun n hn =>
    size_nat_le (by decide) (by omega) (by simpa using hn) 1
  have hready := List.countP_le_length (p := fun d : ManagedDevice Unit => d.state = .ready)
    (l := m.active)
  have hgone := List.countP_le_length (p := fun f : FailedDevice => f.state = .initializationFailed)
    (l := m.failed)
  have hsummary : size 1 (.dict (startupSummary (m.getStatusSnapshot config (some now)) durationMs
      resetCause)) ≤ dictBound SUMMARY_SIZES := by
    rw [startupSummary_snapshot]
    refine size_members_le (.cons ⟨rfl, size_nat_le (by decide) hduration.1 hduration.2 1⟩
      (.cons ⟨rfl, hcauseSize⟩ (.cons ⟨rfl, by decide⟩ (.cons ⟨rfl, by decide⟩
        (.cons ⟨rfl, by decide⟩ (.cons ⟨rfl, by decide⟩ (.cons ⟨rfl, by decide⟩
          (.cons ⟨rfl, by decide⟩ (.cons ⟨rfl, by decide⟩ (.cons ⟨rfl, hcount _ hdevices⟩
            (.cons ⟨rfl, hcount _ ?_⟩ (.cons ⟨rfl, hcount _ ?_⟩ .nil))))))))))))
    · exact Nat.lt_of_le_of_lt hready hactive
    · exact Nat.lt_of_le_of_lt hgone hfailed
  have hdata : size 1 (.dict [(.str "startup", .dict (startupSummary
      (m.getStatusSnapshot config (some now)) durationMs resetCause))]) ≤
        dictBound [("startup", dictBound SUMMARY_SIZES)] :=
    size_members_le (.cons ⟨rfl, hsummary⟩ .nil)
  exact size_members_le (.cons ⟨rfl, by decide⟩
    (.cons ⟨rfl, size_nat_le (by decide) hduration.1 hduration.2 1⟩ (.cons ⟨rfl, htimeSize⟩
      (.cons ⟨rfl, size_members_le (.cons ⟨rfl, by decide⟩ (.cons ⟨rfl, by decide⟩
        (.cons ⟨rfl, by decide⟩ (.cons ⟨rfl, by decide⟩ (.cons ⟨rfl, hdata⟩ .nil)))))⟩ .nil))))

theorem escapes_bounded (hcause : ResetCause resetCause)
    (htime : ∀ t, timestamp = some t → escapesIn t = 0) :
    escapes (.dict (buildStartupLogBounded config m now timestamp durationMs resetCause)) = 0 := by
  have hcauseEscapes : escapesIn resetCause = 0 := by
    simp only [ResetCause, List.mem_cons, List.not_mem_nil, or_false] at hcause
    rcases hcause with rfl | rfl | rfl <;> decide
  have htimeEscapes : escapes (timestampValue timestamp) = 0 := by
    cases ht : timestamp with
    | none => rfl
    | some t => exact htime t ht
  simp only [buildStartupLogBounded, startupLogMessage, startupSummary_snapshot, statusDict,
    escapes, pairsEscapes, PyKey.text, hcauseEscapes, htimeEscapes]
  simp (disch := decide) only [escapesIn_eq_zero]

end Text

def Fits (message : PyDict) : Prop :=
  (serializeToBytes (.dict message)).length ≤ MAX_OUTBOUND_MESSAGE_BYTES

instance (message : PyDict) : Decidable (Fits message) := inferInstanceAs (Decidable (_ ≤ _))

def HeapShort (A : HeapInput → Prop) : Prop := ∃ i, A i ∧ i.memoryError = true

def GivenUp (A : HeapInput → Prop) (message : PyDict) : StartupLogError → Prop
  | .tooLarge _ => ¬ Fits message
  | .queue e => e = .memoryError ∧ HeapShort A

section Admission

variable {A : HeapInput → Prop} {α : Type} {base : List (Kind × Bytes)} {message fallback : PyDict}
  {q : OutboundQueue}

theorem wp_queueing {R G : OutboundQueue → OutboundQueue → Prop} {Q : α → OutboundQueue → Prop}
    {X : StartupLogError → OutboundQueue → Prop} {p : QueueProg α}
    (h : p.wp A R G Q (fun e => X (.queue e)) q) : (queueing p).wp A R G Q X q := by
  unfold queueing
  refine Proc.wp_zoom (A := A) (R := R) (G := G) (J := fun _ => True) (Q := Q)
    (X := fun e => X (.queue e)) ?_ ?_ ?_ ?_ ?_ trivial h
  · exact fun _ hi => hi
  · exact fun _ _ _ hR => ⟨hR, trivial⟩
  · exact fun _ _ _ hG => ⟨hG, trivial, rfl⟩
  · exact fun _ _ _ hQ => hQ
  · exact fun _ _ _ hX => hX

theorem serializeAndValidateMessage_safe (hsafe : isJsonSafe (.dict message) = true) :
    (Fits message ∧
      serializeAndValidateMessage (.dict message) = .ok (serializeToBytes (.dict message))) ∨
    (¬ Fits message ∧
      ∃ text, serializeAndValidateMessage (.dict message) = .error (.messageTooLarge text)) := by
  by_cases hfits : Fits message
  · exact .inl ⟨hfits, serializeAndValidateMessage_ok_iff.mpr ⟨hsafe, rfl, hfits⟩⟩
  · refine .inr ⟨hfits, ?_⟩
    unfold serializeAndValidateMessage
    rw [hsafe]
    exact ⟨_, if_pos (Nat.lt_of_not_le hfits)⟩

def Tried (base : List (Kind × Bytes)) (message : PyDict) (admitted : Bool) (t : OutboundQueue) :
    Prop :=
  Fits message ∧ PutAnswered base .log (serializeToBytes (.dict message)) admitted t

theorem tryQueueStartupLog_tried (rounds : Nat) (hsafe : isJsonSafe (.dict message) = true)
    (h : letIn q = base) :
    (tryQueueStartupLog rounds message RETENTION_PRIORITY_INFO).wp A Consumed (fun _ _ => True)
      (Tried base message) (fun e t => GivenUp A message e ∧ letIn t = base) q := by
  unfold tryQueueStartupLog
  rw [Proc.wp_seq, Proc.wp_handle]
  refine wp_queueing (Proc.wp_atomic (fun t ht i hi => ⟨trivial, ?_⟩))
  have hbase : letIn t = base := Eq.trans ht h
  by_cases hshort : i.memoryError = true
  · rw [if_pos hshort]
    exact ⟨⟨rfl, i, hi, hshort⟩, hbase⟩
  · rw [if_neg hshort]
    rcases serializeAndValidateMessage_safe hsafe with ⟨hfits, hok⟩ | ⟨hlarge, text, herror⟩
    · rw [hok]
      exact wp_queueing (Proc.wp_mono (admitBounded_answered rounds hfits hbase)
        (fun _ _ hG => hG) (fun _ _ hQ => ⟨hfits, hQ⟩) (fun _ _ hX => hX.elim))
    · rw [herror]
      exact ⟨hlarge, hbase⟩

theorem admitStartupLog_tried (rounds : Nat) (hsafe : isJsonSafe (.dict message) = true)
    (h : letIn q = base) :
    (admitStartupLog rounds message).wp A Consumed (fun _ _ => True) (Tried base message)
      (fun e t => GivenUp A message e ∧ letIn t = base) q := by
  unfold admitStartupLog
  rw [Proc.wp_seq]
  refine Proc.wp_mono (tryQueueStartupLog_tried rounds hsafe h) (fun _ _ hG => hG) ?_
    (fun _ _ hX => hX)
  intro admitted t ht
  cases admitted with
  | true => exact ht
  | false =>
    -- what Core 0 takes during the pause was let in before
    have hpause : (pause : StartupProg Unit).wp A Consumed (fun _ _ => True)
        (fun _ u => letIn u = base) (fun e u => GivenUp A message e ∧ letIn u = base) t :=
      wp_queueing (Proc.wp_atomic (fun u hu _ _ => ⟨trivial, Eq.trans hu ht.2⟩))
    exact (Proc.wp_seq _ _ _).mpr (Proc.wp_mono hpause (fun _ _ hG => hG)
      (fun _ u hu => tryQueueStartupLog_tried rounds hsafe hu) (fun _ _ hX => hX))

/-- What an admission with a fallback can leave. -/
def Settled (A : HeapInput → Prop) (base : List (Kind × Bytes)) (message fallback : PyDict)
    (admitted : Bool) (t : OutboundQueue) : Prop :=
  if admitted then
    Fits message ∧ letIn t = base ++ [(.log, serializeToBytes (.dict message))] ∨
      (¬ Fits message ∨ HeapShort A) ∧
        letIn t = base ++ [(.log, serializeToBytes (.dict fallback))]
  else letIn t = base

theorem admitStartupLogWithFallback_settled (rounds : Nat)
    (hsafe : isJsonSafe (.dict message) = true) (hfallback : isJsonSafe (.dict fallback) = true)
    (hfits : Fits fallback) :
    (admitStartupLogWithFallback rounds message fallback).wp A Consumed (fun _ _ => True)
      (Settled A (letIn q) message fallback)
      (fun e t => e = .queue .memoryError ∧ HeapShort A ∧ letIn t = letIn q) q := by
  unfold admitStartupLogWithFallback
  rw [Proc.wp_handle]
  refine Proc.wp_mono (admitStartupLog_tried rounds hsafe rfl) (fun _ _ hG => hG) ?_ ?_
  · rintro admitted t ⟨hmessage, ht⟩
    cases admitted with
    | true => exact .inl ⟨hmessage, ht⟩
    | false => exact ht
  · rintro e t ⟨hgiven, ht⟩
    have hsecond : (¬ Fits message ∨ HeapShort A) → (admitStartupLog rounds fallback).wp A Consumed
        (fun _ _ => True) (Settled A (letIn q) message fallback)
        (fun e t => e = .queue .memoryError ∧ HeapShort A ∧ letIn t = letIn q) t := by
      intro hwhy
      refine Proc.wp_mono (admitStartupLog_tried rounds hfallback ht) (fun _ _ hG => hG) ?_ ?_
      · rintro admitted u ⟨-, hu⟩
        cases admitted with
        | true => exact .inr ⟨hwhy, hu⟩
        | false => exact hu
      · rintro e u ⟨hgiven, hu⟩
        cases e with
        | tooLarge text => exact absurd hfits hgiven
        | queue e =>
          obtain ⟨rfl, hshort⟩ := hgiven
          exact ⟨rfl, hshort, hu⟩
    cases e with
    | tooLarge text => exact hsecond (.inl hgiven)
    | queue e =>
      obtain ⟨rfl, hshort⟩ := hgiven
      exact hsecond (.inr hshort)

end Admission

section Boot

variable {items : PyDict} {world : DriverWorld} {now durationMs : Int} {timestamp : Option String}
  {resetCause : String}

theorem ids_nodup (h : Document items) :
    ((splitConfigCore1 items).devices.map DeviceDefinition.id).Nodup := by
  rw [splitConfigCore1, List.map_map]
  exact h.devices.ids

theorem booted_members (h : Document items) :
    let m := (ManagerRun.booted world (splitConfigCore1 items)).manager
    (m.active.map ManagedDevice.deviceId ++ m.failed.map FailedDevice.id).Perm
      ((splitConfigCore1 items).devices.map DeviceDefinition.id) := by
  have hids := ids_nodup h
  have hempty : ({} : DeviceManager).Sound 1 [] [] := ⟨List.Perm.refl _, by simp, by simp, by simp⟩
  exact (initializeDevicesFrom_sound (by decide) (by simpa using hids) hempty).members

theorem booted_lengths (h : Document items) :
    let m := (ManagerRun.booted world (splitConfigCore1 items)).manager
    m.active.length + m.failed.length = (splitConfigCore1 items).devices.length ∧
      (splitConfigCore1 items).devices.length ≤ MAX_DEVICES := by
  have hcount := (@booted_members items world h).length_eq
  obtain ⟨devices, hdevices, -, hmax, -⟩ := h.config.devices
  refine ⟨by simpa using hcount, ?_⟩
  rw [splitConfigCore1, hdevices]
  simpa [PyValue.asList] using hmax

theorem isJsonSafe_name (h : Document items) :
    ∀ definition ∈ (splitConfigCore1 items).devices, isJsonSafe definition.name = true := by
  intro definition hdefinition
  obtain ⟨device, hdevice, rfl⟩ := List.mem_map.mp hdefinition
  have hplain := plainItems_mem h.devices.plain device hdevice
  obtain ⟨fields, -, rfl, -⟩ := h.devices.named device hdevice
  exact isJsonSafe_of_plain (plain_getD hplain "name")

theorem fits_bounded (h : Document items) (hduration : 0 ≤ durationMs ∧ durationMs.natAbs < 10 ^ 20)
    (hcause : ResetCause resetCause)
    (htime : ∀ t, timestamp = some t → Json.escapesIn t = 0 ∧ t.utf8ByteSize ≤ 24) :
    Fits (buildStartupLogBounded (splitConfigCore1 items)
      (ManagerRun.booted world (splitConfigCore1 items)).manager now timestamp durationMs
        resetCause) := by
  obtain ⟨hsum, hmax⟩ := @booted_lengths items world h
  simp only [MAX_DEVICES] at hmax
  have hsize := @size_bounded_le (splitConfigCore1 items)
    (ManagerRun.booted world (splitConfigCore1 items)).manager now durationMs timestamp resetCause
    (by omega) (by omega) (by omega) hduration hcause (fun t ht => (htime t ht).2)
  have hescapes := Json.size_escapes (.dict (buildStartupLogBounded (splitConfigCore1 items)
    (ManagerRun.booted world (splitConfigCore1 items)).manager now timestamp durationMs resetCause))
  rw [escapes_bounded hcause (fun t ht => (htime t ht).1)] at hescapes
  have hbound : Json.dictBound LOG_SIZES ≤ MAX_OUTBOUND_MESSAGE_BYTES := by decide
  rw [Fits, serializeToBytes, Json.length_utf8_dumps]
  omega

def bootSummary (durationMs : Int) (resetCause : String) (ready failed : Nat) : PyDict :=
  [(.str "duration_ms", .int durationMs), (.str "reset_cause", .str resetCause),
    (.str "hardware", statusDict "ready"), (.str "wifi", statusDict "ready"),
    (.str "mqtt", statusDict "ready"), (.str "subscriptions", statusDict "ready"),
    (.str "utc", statusDict "synchronized"), (.str "core_0", statusDict "running"),
    (.str "core_1", statusDict "running"), (.str "devices_configured", .int (ready + failed : Nat)),
    (.str "devices_ready", .int ready), (.str "devices_failed", .int failed)]

theorem startupSummary_booted (h : Document items) :
    let m := (ManagerRun.booted world (splitConfigCore1 items)).manager
    startupSummary (m.getStatusSnapshot (splitConfigCore1 items) (some now)) durationMs resetCause =
      bootSummary durationMs resetCause m.active.length m.failed.length := by
  intro m
  have hbooted := booted world (splitConfigCore1 items)
  have hready : m.active.countP (fun d => d.state = .ready) = m.active.length :=
    List.countP_eq_length.mpr (fun d hd => by simpa using hbooted.ready d hd)
  have hfailed : m.failed.countP (fun f => f.state = .initializationFailed) = m.failed.length :=
    List.countP_eq_length.mpr (fun f hf => by simpa using hbooted.failed f hf)
  rw [startupSummary_snapshot, hready, hfailed, ← (@booted_lengths items world h).1]
  rfl

/-- After boot each device is told of once, as ready or as failed, and the log is admitted once, in
full or bounded, unless the queue refuses it or the heap is exhausted. -/
theorem startup_log_admitted (h : Document items) (world : DriverWorld)
    (constant : String → Option Int) (cause : Option Int) (now now' : Int)
    (timestamp timestamp' : Option String)
    (htime : ∀ t, timestamp' = some t → Json.escapesIn t = 0 ∧ t.utf8ByteSize ≤ 24)
    (durationMs : Int) (hduration : 0 ≤ durationMs ∧ durationMs.natAbs < 10 ^ 20)
    (A : HeapInput → Prop) (rounds : Nat) (q : OutboundQueue) :
    let config := splitConfigCore1 items
    let m := (ManagerRun.booted world config).manager
    let resetCause := getResetCause constant cause
    let full := buildStartupLog config m now timestamp durationMs resetCause
    let bounded := buildStartupLogBounded config m now' timestamp' durationMs resetCause
    let summary := bootSummary durationMs resetCause m.active.length m.failed.length
    (m.active.map ManagedDevice.deviceId ++ m.failed.map FailedDevice.id).Perm
        (config.devices.map DeviceDefinition.id) ∧
      (∃ ready failed, ready.Perm (m.active.map readyEntry) ∧
        failed.Perm (m.failed.map failedEntry) ∧
        full = startupLogMessage timestamp durationMs (summary ++
          [(.str "ready_devices", .list ready), (.str "failed_devices", .list failed)])) ∧
      bounded = startupLogMessage timestamp' durationMs summary ∧ Fits bounded ∧
      (admitStartupLogWithFallback rounds full bounded).wp A
        (Relation.ReflTransGen OutboundQueue.ConsumerStep) (fun _ _ => True)
        (Settled A (letIn q) full bounded)
        (fun e t => e = .queue .memoryError ∧ HeapShort A ∧ letIn t = letIn q) q := by
  intro config m resetCause full bounded summary
  have hmembers := @booted_members items world h
  have hbooted := booted world config
  obtain ⟨hready, hfailed⟩ := @deviceLists_perm config m now (ids_nodup h) hmembers hbooted
  have hcause := getResetCause_known constant cause
  have hsafe : isJsonSafe (.dict full) = true := by
    refine isJsonSafe_buildStartupLog (allJsonSafe_of fun v hv => ?_)
      (allJsonSafe_of fun v hv => ?_)
    · obtain ⟨d, hd, rfl⟩ := List.mem_map.mp (hready.subset hv)
      obtain ⟨definition, hdefinition, hname⟩ := hbooted.named d hd
      exact isJsonSafe_readyEntry (by rw [hname]; exact isJsonSafe_name h definition hdefinition)
    · obtain ⟨f, -, rfl⟩ := List.mem_map.mp (hfailed.subset hv)
      exact isJsonSafe_failedEntry f
  have hfits : Fits bounded := fits_bounded h hduration hcause htime
  refine ⟨hmembers, ⟨_, _, hready, hfailed, ?_⟩, ?_, hfits, ?_⟩
  · exact congrArg (fun summary => startupLogMessage timestamp durationMs (summary ++ _))
      (startupSummary_booted h)
  · exact congrArg (startupLogMessage timestamp' durationMs) (startupSummary_booted h)
  · exact Proc.wp_rely (admitStartupLogWithFallback_settled rounds hsafe
      isJsonSafe_buildStartupLogBounded hfits) (fun _ hi => hi) (fun _ _ hR => consumed_steps hR)

/-- A watchdog reset of a node whose heap is never short. -/
theorem startup_log_admitted_shipped :
    let config := splitConfigCore1 (shippedConfig "Soil-1").asDict
    let m := (ManagerRun.booted lateWorld config).manager
    let full := buildStartupLog config m 5000 none 5000 "wdt"
    let bounded := buildStartupLogBounded config m 5100 (some "2025-03-01T06:30:00Z") 5000 "wdt"
    (admitStartupLogWithFallback 3 full bounded).wp (fun i => i.memoryError = false)
      (Relation.ReflTransGen OutboundQueue.ConsumerStep) (fun _ _ => True)
      (fun admitted t => letIn t = if admitted then
        [(.log, serializeToBytes (.dict (if Fits full then full else bounded)))] else [])
      (fun _ _ => False)
      { minimumFreeHeapBytes := 100, preferredFreeHeapBytes := 100, maxMessages := some 2 } := by
  have hnever : ¬ HeapShort (fun i => i.memoryError = false) := by
    rintro ⟨i, hno, hyes⟩
    rw [hno] at hyes
    cases hyes
  obtain ⟨-, -, -, -, hadmission⟩ := startup_log_admitted document_shipped_1 lateWorld
    (fun name => if name = "WDT_RESET" then some 3 else none) (some 3) 5000 5100 none
    (some "2025-03-01T06:30:00Z") (by rintro t ⟨⟩; decide) 5000 (by decide)
    (fun i => i.memoryError = false) 3
    { minimumFreeHeapBytes := 100, preferredFreeHeapBytes := 100, maxMessages := some 2 }
  have hcause : getResetCause (fun name => if name = "WDT_RESET" then some 3 else none) (some 3) =
      "wdt" := by decide
  rw [hcause] at hadmission
  refine Proc.wp_mono hadmission (fun _ _ hG => hG) ?_ (fun _ _ hX => hnever hX.2.1)
  intro admitted t ht
  cases admitted with
  | false => exact ht
  | true =>
    rcases ht with ⟨hfits, ht⟩ | ⟨hwhy, ht⟩
    · rw [if_pos rfl, if_pos hfits]
      exact ht
    · rw [if_pos rfl, if_neg (hwhy.resolve_right hnever)]
      exact ht

end Boot

end StartupLog

end PicoDualCore
