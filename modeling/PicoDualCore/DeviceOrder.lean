import PicoDualCore.DeviceInvariant
import Mathlib.Data.List.Induction
set_option autoImplicit false

namespace PicoDualCore

def Core1Config.ids (config : Core1Config) : List String := config.devices.map DeviceDefinition.id

def Core1Config.Before (config : Core1Config) (a b : String) : Prop :=
  config.ids.idxOf a < config.ids.idxOf b

instance (config : Core1Config) : DecidableRel config.Before :=
  fun a b => inferInstanceAs (Decidable (config.ids.idxOf a < config.ids.idxOf b))

def InConfigurationOrder (config : Core1Config) (m : DeviceManager) : Prop :=
  (m.getActiveDevices.map ManagedDevice.deviceId).Pairwise config.Before

instance (config : Core1Config) (m : DeviceManager) : Decidable (InConfigurationOrder config m) :=
  inferInstanceAs (Decidable (List.Pairwise _ _))

def DriverWorld.recovers (world : DriverWorld) (calls : List DriverCall) (deviceId : String) :
    Bool :=
  (world.error deviceId .construction (callErrors calls deviceId .construction).length).isNone &&
    (world.error deviceId .initialization
      (callErrors calls deviceId .initialization).length).isNone

/-- No device that has failed will recover from behind one that is active. -/
def RecoversInOrder (world : DriverWorld) (config : Core1Config) (m : DeviceManager) : Prop :=
  ∀ id ∈ config.ids, id ∈ m.failed.map FailedDevice.id → world.recovers m.calls id = true →
    ∀ d ∈ m.active, config.Before d.deviceId id

instance (world : DriverWorld) (config : Core1Config) (m : DeviceManager) :
    Decidable (RecoversInOrder world config m) :=
  inferInstanceAs (Decidable (∀ id ∈ _, id ∈ _ → _ = true → ∀ d ∈ m.active, _))

section Order

variable {world : DriverWorld} {config : Core1Config} {m : DeviceManager}

theorem ids_pairwise (hids : config.ids.Nodup) : config.ids.Pairwise config.Before := by
  rw [List.pairwise_iff_getElem]
  intro i j hi hj hij
  unfold Core1Config.Before
  rwa [hids.idxOf_getElem, hids.idxOf_getElem]

theorem initializeSingleDevice_active (definition : DeviceDefinition) :
    ∃ more, (m.initializeSingleDevice world config definition).2.active.map ManagedDevice.deviceId =
      m.active.map ManagedDevice.deviceId ++ more ∧ more.Sublist [definition.id] := by
  unfold DeviceManager.initializeSingleDevice DeviceManager.call
  generalize world.error definition.id .construction _ = error
  cases error with
  | some err => exact ⟨[], by simp [DeviceManager.recordDriverFailure,
      DeviceManager.recordFailure, DeviceManager.called], List.nil_sublist _⟩
  | none =>
    obtain ⟨errors, ⟨err, hattempts⟩ | hattempts⟩ := @initializeDriverWithRetries_cases world config
      (m.called definition.id .construction [none]) definition.id
    · refine ⟨[], ?_, List.nil_sublist _⟩
      dsimp only
      rw [hattempts, List.append_nil]
      rfl
    · refine ⟨[definition.id], ?_, List.Sublist.refl _⟩
      dsimp only
      rw [hattempts]
      exact List.map_append

theorem initializeDevicesFrom_active (devices : List DeviceDefinition) :
    ∃ more, (m.initializeDevicesFrom world config devices).active.map ManagedDevice.deviceId =
      m.active.map ManagedDevice.deviceId ++ more ∧
        more.Sublist (devices.map DeviceDefinition.id) := by
  induction devices generalizing m with
  | nil => exact ⟨[], by simp [DeviceManager.initializeDevicesFrom], List.Sublist.refl _⟩
  | cons definition rest ih =>
    obtain ⟨first, hfirst, hsublist⟩ :=
      @initializeSingleDevice_active world config m definition
    obtain ⟨more, hmore, hrest⟩ := @ih (m.initializeSingleDevice world config definition).2
    refine ⟨first ++ more, ?_, hsublist.append hrest⟩
    rw [DeviceManager.initializeDevicesFrom, hmore, hfirst, List.append_assoc]

theorem booted_inOrder (hids : config.ids.Nodup) :
    InConfigurationOrder config (ManagerRun.booted world config).manager := by
  obtain ⟨more, hactive, hsublist⟩ := @initializeDevicesFrom_active world config {} config.devices
  show List.Pairwise _ (List.map _ _)
  rw [ManagerRun.booted, DeviceManager.getActiveDevices, DeviceManager.initializeDevices, hactive]
  exact (ids_pairwise hids).sublist hsublist

theorem processDevice_active {index : Nat} {d : ManagedDevice Unit}
    (hd : m.active[index]? = some d) :
    (m.processDevice world config index d).2.active.map ManagedDevice.deviceId =
      m.active.map ManagedDevice.deviceId := by
  unfold DeviceManager.processDevice
  split
  · unfold DeviceManager.processReinitialization
    split
    · rfl
    · obtain ⟨errors, ⟨err, hattempts⟩ | hattempts⟩ :=
        @initializeDriverWithRetries_cases world config m d.deviceId
      · rw [hattempts]
        exact map_set_eq hd rfl
      · rw [hattempts]
        exact map_set_eq hd rfl
  · unfold DeviceManager.processNormalRead DeviceManager.nowMs DeviceManager.call
    dsimp only
    generalize world.error (d.readStarted _).deviceId .read _ = error
    cases error with
    | none => exact map_set_eq hd rfl
    | some err =>
      refine map_set_eq hd ?_
      unfold ManagedDevice.readFailed
      dsimp only
      split <;> rfl

theorem recovers_called {deviceId id : String} (hne : id ≠ deviceId) (operation : DriverOperation)
    (errors : List (Option String)) :
    world.recovers (m.called deviceId operation errors).calls id = world.recovers m.calls id := by
  have hcalls : ∀ op, callErrors (m.called deviceId operation errors).calls id op =
      callErrors m.calls id op := by
    intro op
    rw [callErrors_called, if_neg (fun hand => hne hand.1.symm), List.append_nil]
  rw [DriverWorld.recovers, hcalls, hcalls]
  rfl

/-- A retry appends its device if that recovers, and changes nothing for any other. -/
theorem retryFailedDevice_active (definition : DeviceDefinition) (info : FailedDevice) :
    (m.retryFailedDevice world definition info).2.active.map ManagedDevice.deviceId =
        m.active.map ManagedDevice.deviceId ++
          (if world.recovers m.calls definition.id then [definition.id] else []) ∧
      ∀ id, id ≠ definition.id →
        (id ∈ (m.retryFailedDevice world definition info).2.failed.map FailedDevice.id ↔
          id ∈ m.failed.map FailedDevice.id) ∧
        world.recovers (m.retryFailedDevice world definition info).2.calls id =
          world.recovers m.calls id := by
  have hcount : callErrors (m.called definition.id .construction [none]).calls definition.id
      .initialization = callErrors m.calls definition.id .initialization :=
    initializations_construction _ _
  unfold DeviceManager.retryFailedDevice DeviceManager.call
  cases hconstruction : world.error definition.id .construction
      (callErrors m.calls definition.id .construction).length with
  | some err =>
    have hno : world.recovers m.calls definition.id = false := by
      simp [DriverWorld.recovers, hconstruction]
    rw [hno]
    refine ⟨by simp [DeviceManager.lateRetryFailure, DeviceManager.called], fun id hne => ⟨?_, ?_⟩⟩
    · exact Eq.to_iff (congrArg (id ∈ ·) (replaceFailed_ids _ _))
    · exact recovers_called hne _ _
  | none =>
    dsimp only
    rw [hcount]
    cases hinitialization : world.error definition.id .initialization
        (callErrors m.calls definition.id .initialization).length with
    | some err =>
      have hno : world.recovers m.calls definition.id = false := by
        simp [DriverWorld.recovers, hinitialization]
      rw [hno]
      refine ⟨by simp [DeviceManager.lateRetryFailure, DeviceManager.called],
        fun id hne => ⟨?_, ?_⟩⟩
      · exact Eq.to_iff (congrArg (id ∈ ·) (replaceFailed_ids _ _))
      · exact (recovers_called hne _ _).trans (recovers_called hne _ _)
    | none =>
      have hyes : world.recovers m.calls definition.id = true := by
        simp [DriverWorld.recovers, hconstruction, hinitialization]
      rw [hyes, if_pos rfl]
      refine ⟨List.map_append, fun id hne => ⟨?_, ?_⟩⟩
      · show id ∈ (m.failed.eraseP _).map _ ↔ _
        rw [deleteFailed_ids, List.mem_erase_of_ne hne]
      · exact (recovers_called hne _ _).trans (recovers_called hne _ _)

/-- The pass appends the devices that recover, in their order. -/
theorem retryFailedFrom_active {devices : List DeviceDefinition}
    (hids : (devices.map DeviceDefinition.id).Nodup) :
    (m.retryFailedFrom world devices).2.active.map ManagedDevice.deviceId =
      m.active.map ManagedDevice.deviceId ++ (devices.map DeviceDefinition.id).filter (fun id =>
        id ∈ m.failed.map FailedDevice.id && world.recovers m.calls id) := by
  induction devices generalizing m with
  | nil => simp [DeviceManager.retryFailedFrom]
  | cons definition rest ih =>
    rw [List.map_cons, List.nodup_cons] at hids
    unfold DeviceManager.retryFailedFrom
    cases hfind : m.failed.find? (fun f => f.id == definition.id) with
    | none =>
      have habsent : definition.id ∉ m.failed.map FailedDevice.id := by
        intro hmem
        obtain ⟨f, hf, hid⟩ := List.mem_map.mp hmem
        exact List.find?_eq_none.mp hfind f hf (beq_iff_eq.mpr hid)
      dsimp only
      rw [ih hids.2, List.map_cons, List.filter_cons_of_neg]
      simp [habsent]
    | some info =>
      have hpresent : definition.id ∈ m.failed.map FailedDevice.id :=
        List.mem_map.mpr ⟨info, List.mem_of_find?_eq_some hfind, by
          simpa using List.find?_some hfind⟩
      obtain ⟨hactive, hothers⟩ := @retryFailedDevice_active world m definition info
      have hrest : (rest.map DeviceDefinition.id).filter (fun id =>
          id ∈ (m.retryFailedDevice world definition info).2.failed.map FailedDevice.id &&
            world.recovers (m.retryFailedDevice world definition info).2.calls id) =
          (rest.map DeviceDefinition.id).filter (fun id =>
            id ∈ m.failed.map FailedDevice.id && world.recovers m.calls id) := by
        refine List.filter_congr (fun id hid => ?_)
        have hne : id ≠ definition.id := by
          rintro rfl
          exact hids.1 hid
        rw [(hothers id hne).2, decide_eq_decide.mpr (hothers id hne).1]
      dsimp only
      rw [ih hids.2, hrest, hactive, List.map_cons, List.append_assoc]
      congr 1
      by_cases hrecovers : world.recovers m.calls definition.id = true
      · rw [List.filter_cons_of_pos (by simpa [hrecovers] using hpresent), if_pos hrecovers]
        rfl
      · rw [List.filter_cons_of_neg (by simp [hrecovers]), if_neg hrecovers]
        rfl

theorem retryFailedDevices_inOrder (hids : config.ids.Nodup)
    (h : InConfigurationOrder config m) :
    InConfigurationOrder config (m.retryFailedDevices world config).2 ↔
      RecoversInOrder world config m := by
  have hactive := @retryFailedFrom_active world m config.devices hids
  have hrecovered : (config.ids.filter (fun id =>
      id ∈ m.failed.map FailedDevice.id && world.recovers m.calls id)).Pairwise config.Before :=
    (ids_pairwise hids).sublist List.filter_sublist
  rw [InConfigurationOrder, DeviceManager.getActiveDevices, DeviceManager.retryFailedDevices,
    hactive, List.pairwise_append]
  constructor
  · rintro ⟨-, -, hcross⟩ id hid hfailed hrecovers d hd
    refine hcross _ (List.mem_map_of_mem hd) id (List.mem_filter.mpr ⟨hid, ?_⟩)
    simpa [hrecovers] using hfailed
  · intro hin
    refine ⟨h, hrecovered, fun a ha b hb => ?_⟩
    obtain ⟨d, hd, rfl⟩ := List.mem_map.mp ha
    obtain ⟨hid, hboth⟩ := List.mem_filter.mp hb
    rw [Bool.and_eq_true, decide_eq_true_eq] at hboth
    exact hin b hid hboth.1 hboth.2 d hd

theorem after_append (calls : List ManagerCall) (call : ManagerCall) :
    ManagerRun.after world config (calls ++ [call]) =
      (ManagerRun.after world config calls).step world config call := by
  rw [ManagerRun.after, List.foldl_append]
  rfl

theorem step_inOrder (hids : config.ids.Nodup) (run : ManagerRun) (call : ManagerCall)
    (h : InConfigurationOrder config run.manager) :
    InConfigurationOrder config (run.step world config call).manager ↔
      (call = .retryFailedDevices → RecoversInOrder world config run.manager) := by
  cases call with
  | retryFailedDevices =>
    refine (retryFailedDevices_inOrder hids h).trans ?_
    exact ⟨fun hin _ => hin, fun hin => hin rfl⟩
  | processDevice index =>
    have hsame : InConfigurationOrder config
        (run.step world config (.processDevice index)).manager := by
      cases hd : run.manager.active[index]? with
      | none => simpa only [ManagerRun.step, hd] using h
      | some device =>
        have hactive := @processDevice_active world config run.manager index device hd
        have hkept : InConfigurationOrder config
            (run.manager.processDevice world config index device).2 := by
          rw [InConfigurationOrder, DeviceManager.getActiveDevices, hactive]
          exact h
        simp only [ManagerRun.step, hd]
        split
        · rename_i hprocessed
          rwa [hprocessed] at hkept
        · rename_i hprocessed
          rwa [hprocessed] at hkept
    exact ⟨fun _ hcall => (by cases hcall), fun _ => hsame⟩

/-- The active devices are in the order of the configuration throughout a run if and only if every
retry recovers devices that are configured behind those active before it. -/
theorem active_inOrder_iff (world : DriverWorld) (config : Core1Config) (hids : config.ids.Nodup)
    (calls : List ManagerCall) :
    (∀ before, before <+: calls →
        InConfigurationOrder config (ManagerRun.after world config before).manager) ↔
      ∀ before, before ++ [.retryFailedDevices] <+: calls →
        RecoversInOrder world config (ManagerRun.after world config before).manager := by
  constructor
  · intro h before hbefore
    have hin := h before ((List.prefix_append _ _).trans hbefore)
    have hnext := h _ hbefore
    rw [after_append] at hnext
    exact (step_inOrder hids _ _ hin).mp hnext rfl
  · intro h before
    induction before using List.reverseRecOn with
    | nil => exact fun _ => booted_inOrder hids
    | append_singleton before call ih =>
      intro hbefore
      have hin := ih ((List.prefix_append _ _).trans hbefore)
      rw [after_append]
      refine (step_inOrder hids _ _ hin).mpr ?_
      rintro rfl
      exact h before hbefore

end Order

/-- The sensor configured first recovers behind the other one. -/
theorem active_not_inOrder : ¬ InConfigurationOrder twoSensors
    (ManagerRun.after lateWorld twoSensors [.retryFailedDevices, .retryFailedDevices]).manager := by
  decide

def lastWorld : DriverWorld where
  error id operation n :=
    if id = "outdoor" ∧ operation = .initialization ∧ n < 3 then some "[Errno 5] EIO" else none
  nowMs n := 1000 * n

/-- The retries break the order when the first sensor recovers, and keep it when the last does. -/
theorem active_inOrder_late :
    (¬ ∀ before, before ++ [.retryFailedDevices] <+: [.retryFailedDevices, .retryFailedDevices] →
      RecoversInOrder lateWorld twoSensors
        (ManagerRun.after lateWorld twoSensors before).manager) ∧
    (ManagerRun.after lastWorld twoSensors
      [.retryFailedDevices, .retryFailedDevices]).manager.active.map ManagedDevice.deviceId =
        ["indoor", "outdoor"] ∧
    ∀ before, before <+: [.retryFailedDevices, .retryFailedDevices] →
      InConfigurationOrder twoSensors
        (ManagerRun.after lastWorld twoSensors before).manager := by
  refine ⟨fun h => ?_, by decide, ?_⟩
  · have hlast := (active_inOrder_iff lateWorld twoSensors (by decide) _).mpr h _
      (List.prefix_refl _)
    exact absurd hlast (by decide)
  · refine (active_inOrder_iff lastWorld twoSensors (by decide) _).mpr (fun before hbefore => ?_)
    obtain ⟨rest, hrest⟩ := hbefore
    rcases before with _ | ⟨first, _ | ⟨second, others⟩⟩
    · decide
    · obtain ⟨rfl, -⟩ := List.cons.inj hrest
      decide
    · simpa using congrArg List.length hrest

end PicoDualCore
