import PicoDualCore.DeviceLifecycle
import Mathlib.Data.List.Nodup
set_option autoImplicit false

namespace PicoDualCore

def untilReady : List (Option String) → Nat
  | [] => 0
  | none :: _ => 1
  | some _ :: rest => untilReady rest + 1

theorem untilReady_ready {errors : List (Option String)} (h : none ∈ errors)
    (more : List (Option String)) : untilReady (errors ++ more) = untilReady errors := by
  induction errors with
  | nil => cases h
  | cons error rest ih =>
    cases error with
    | none => rfl
    | some e => simpa [untilReady] using ih (by simpa using h)

theorem untilReady_failed {errors : List (Option String)} (h : none ∉ errors)
    (more : List (Option String)) :
    untilReady (errors ++ more) = errors.length + untilReady more := by
  induction errors with
  | nil => simp
  | cons error rest ih =>
    cases error with
    | none => simp at h
    | some e =>
      have hrest := ih (by simpa using h)
      simp only [List.cons_append, untilReady, List.length_cons, hrest]
      omega

theorem untilReady_of_failed {errors : List (Option String)} (h : none ∉ errors) :
    untilReady errors = errors.length := by
  simpa [untilReady] using untilReady_failed h []

namespace DeviceResult

def recovers (deviceId : String) : DeviceResult → Bool
  | .reinitialized id _ _ => id = deviceId
  | .bootRecovered id _ _ => id = deviceId
  | _ => false

def fails (deviceId : String) : DeviceResult → Bool
  | .reinitializationFailed id _ _ _ _ _ _ => id = deviceId
  | .bootRecoveryFailed id _ _ _ _ => id = deviceId
  | _ => false

def logFailureWarning? : DeviceResult → Option (String × Bool)
  | .reinitializationFailed id _ _ _ _ _ warning => some (id, warning)
  | .bootRecoveryFailed id _ _ _ warning => some (id, warning)
  | _ => none

end DeviceResult

def failedSinceRecovery (deviceId : String) (results : List DeviceResult) : Bool :=
  (results.reverse.takeWhile (fun r => !r.recovers deviceId)).any (fun r => r.fails deviceId)

theorem failedSinceRecovery_append (deviceId : String) (results : List DeviceResult)
    (r : DeviceResult) :
    failedSinceRecovery deviceId (results ++ [r]) =
      (!r.recovers deviceId && (r.fails deviceId || failedSinceRecovery deviceId results)) := by
  unfold failedSinceRecovery
  rw [List.reverse_append, List.reverse_singleton, List.singleton_append, List.takeWhile_cons]
  cases r.recovers deviceId <;> simp

/-- Each failure is to be logged just when it is the first one since the last recovery. -/
def WarnedOnce (results : List DeviceResult) : Prop :=
  ∀ before r after, results = before ++ r :: after → ∀ deviceId warning,
    r.logFailureWarning? = some (deviceId, warning) →
      warning = !failedSinceRecovery deviceId before

theorem WarnedOnce.append {results : List DeviceResult} {r : DeviceResult} (h : WarnedOnce results)
    (hr : ∀ deviceId warning, r.logFailureWarning? = some (deviceId, warning) →
      warning = !failedSinceRecovery deviceId results) : WarnedOnce (results ++ [r]) := by
  intro before r' after heq
  rcases List.eq_nil_or_concat after with rfl | ⟨after', last, rfl⟩
  · obtain ⟨rfl, hlast⟩ := List.append_inj' heq rfl
    cases hlast
    exact hr
  · rw [List.concat_eq_append, ← List.cons_append, ← List.append_assoc] at heq
    obtain ⟨hresults, -⟩ := List.append_inj' heq rfl
    exact h before r' after' hresults

abbrev initializations (calls : List DriverCall) (deviceId : String) : List (Option String) :=
  callErrors calls deviceId .initialization

structure ActiveRecord (threshold : Nat) (calls : List DriverCall) (results : List DeviceResult)
    (d : ManagedDevice Unit) : Prop where
  ready : d.state = .ready ↔ d.reinitializePending = false
  below : d.reinitializePending = false → d.consecutiveReadFailures < threshold
  reached : d.reinitializePending = true → threshold ≤ d.consecutiveReadFailures
  reads : d.readCount = d.successfulReadCount + d.totalReadFailures
  initialized : none ∈ initializations calls d.deviceId
  attempts : d.initializationAttemptsUsed = untilReady (initializations calls d.deviceId)
  warned : d.reinitFailureLogged = failedSinceRecovery d.deviceId results

structure FailedRecord (calls : List DriverCall) (results : List DeviceResult)
    (f : FailedDevice) : Prop where
  state : f.state = .initializationFailed
  uninitialized : none ∉ initializations calls f.id
  attempts : f.initializationAttemptsUsed = untilReady (initializations calls f.id)
  warned : f.retryFailureLogged = failedSinceRecovery f.id results

section Records

variable {threshold : Nat} {calls calls' : List DriverCall} {results results' : List DeviceResult}
  {d : ManagedDevice Unit} {f : FailedDevice}

theorem ActiveRecord.frame (h : ActiveRecord threshold calls results d)
    (hcalls : initializations calls' d.deviceId = initializations calls d.deviceId)
    (hresults : failedSinceRecovery d.deviceId results' = failedSinceRecovery d.deviceId results) :
    ActiveRecord threshold calls' results' d where
  ready := h.ready
  below := h.below
  reached := h.reached
  reads := h.reads
  initialized := by rw [hcalls]; exact h.initialized
  attempts := by rw [hcalls]; exact h.attempts
  warned := by rw [hresults]; exact h.warned

theorem FailedRecord.frame (h : FailedRecord calls results f)
    (hcalls : initializations calls' f.id = initializations calls f.id)
    (hresults : failedSinceRecovery f.id results' = failedSinceRecovery f.id results) :
    FailedRecord calls' results' f where
  state := h.state
  uninitialized := by rw [hcalls]; exact h.uninitialized
  attempts := by rw [hcalls]; exact h.attempts
  warned := by rw [hresults]; exact h.warned

end Records

/-- The devices `ids` have been through boot. -/
structure DeviceManager.Sound (threshold : Nat) (ids : List String) (results : List DeviceResult)
    (m : DeviceManager) : Prop where
  members : (m.active.map ManagedDevice.deviceId ++ m.failed.map FailedDevice.id).Perm ids
  active : ∀ d ∈ m.active, ActiveRecord threshold m.calls results d
  failed : ∀ f ∈ m.failed, FailedRecord m.calls results f
  called : ∀ c ∈ m.calls, c.deviceId ∈ ids

section Calls

variable {world : DriverWorld} {config : Core1Config} {m : DeviceManager} {deviceId : String}

theorem callErrors_called (m : DeviceManager) (deviceId id : String)
    (operation op : DriverOperation) (errors : List (Option String)) :
    callErrors (m.called deviceId operation errors).calls id op =
      callErrors m.calls id op ++ if deviceId = id ∧ operation = op then errors else [] := by
  have hnew : ((errors.map (fun error => (⟨deviceId, operation, error⟩ : DriverCall))).filter
      (fun c => decide (c.deviceId = id ∧ c.operation = op))).map DriverCall.error =
        if deviceId = id ∧ operation = op then errors else [] := by
    rw [List.filter_map, List.map_map]
    split
    · rename_i h
      simp [Function.comp_def, h]
    · rename_i h
      simp [Function.comp_def, h]
  rw [callErrors, DeviceManager.called, List.filter_append, List.map_append, hnew]
  rfl

theorem initializations_other {id : String} (h : deviceId ≠ id) (operation : DriverOperation)
    (errors : List (Option String)) :
    initializations (m.called deviceId operation errors).calls id = initializations m.calls id := by
  rw [initializations, callErrors_called, if_neg (fun hand => h hand.1), List.append_nil]

theorem initializations_construction (errors : List (Option String)) (id : String) :
    initializations (m.called deviceId .construction errors).calls id =
      initializations m.calls id := by
  rw [initializations, callErrors_called, if_neg (fun hand => by cases hand.2), List.append_nil]

theorem initializations_read (errors : List (Option String)) (id : String) :
    initializations (m.called deviceId .read errors).calls id = initializations m.calls id := by
  rw [initializations, callErrors_called, if_neg (fun hand => by cases hand.2), List.append_nil]

theorem initializations_same (errors : List (Option String)) :
    initializations (m.called deviceId .initialization errors).calls deviceId =
      initializations m.calls deviceId ++ errors := by
  rw [initializations, callErrors_called, if_pos ⟨rfl, rfl⟩]

theorem called_called (operation : DriverOperation) (errors more : List (Option String)) :
    (m.called deviceId operation errors).called deviceId operation more =
      m.called deviceId operation (errors ++ more) := by
  simp [DeviceManager.called]

theorem attemptsFrom_cases (used : Nat) (lastError : Option String) (left : Nat) :
    ∃ errors : List String,
      (∃ err, DeviceManager.attemptsFrom world deviceId m used lastError left =
        ((used + errors.length, .error err), m.called deviceId .initialization (errors.map some))) ∨
      DeviceManager.attemptsFrom world deviceId m used lastError left =
        ((used + errors.length + 1, .ok ()),
          m.called deviceId .initialization (errors.map some ++ [none])) := by
  induction left generalizing m used lastError with
  | zero => exact ⟨[], .inl ⟨lastError, by simp [DeviceManager.attemptsFrom, DeviceManager.called]⟩⟩
  | succ left ih =>
    unfold DeviceManager.attemptsFrom DeviceManager.call
    cases herror : world.error deviceId .initialization
        (callErrors m.calls deviceId .initialization).length with
    | none => exact ⟨[], .inr rfl⟩
    | some err =>
      dsimp only
      obtain ⟨errors, ⟨last, h⟩ | h⟩ := @ih (m.called deviceId .initialization [some err])
        (used + 1) (some err)
      · refine ⟨err :: errors, .inl ⟨last, ?_⟩⟩
        rw [h, called_called, List.length_cons, List.map_cons, List.singleton_append,
          Nat.add_assoc, Nat.add_comm 1]
      · refine ⟨err :: errors, .inr ?_⟩
        rw [h, called_called, List.length_cons, List.map_cons, List.singleton_append,
          Nat.add_assoc used, Nat.add_comm 1, List.cons_append]

/-- The retries of one device, from its first attempt. -/
theorem initializeDriverWithRetries_cases :
    ∃ errors : List String,
      (∃ err, m.initializeDriverWithRetries world config deviceId =
        ((errors.length, .error err), m.called deviceId .initialization (errors.map some))) ∨
      m.initializeDriverWithRetries world config deviceId =
        ((errors.length + 1, .ok ()),
          m.called deviceId .initialization (errors.map some ++ [none])) := by
  obtain ⟨errors, h⟩ := @attemptsFrom_cases world m deviceId 0 none
    config.deviceInitializationAttempts
  rw [Nat.zero_add] at h
  exact ⟨errors, h⟩

end Calls

section Boot

variable {world : DriverWorld} {config : Core1Config} {threshold : Nat} {ids : List String}
  {m : DeviceManager} {definition : DeviceDefinition}

theorem callErrors_of_fresh {calls : List DriverCall} {deviceId : String}
    (h : ∀ c ∈ calls, c.deviceId ≠ deviceId) (operation : DriverOperation) :
    callErrors calls deviceId operation = [] := by
  rw [callErrors, List.map_eq_nil_iff, List.filter_eq_nil_iff]
  intro c hc
  simp [h c hc]

/-- The devices of before, when only calls of another device have been added. -/
theorem DeviceManager.Sound.frame {results : List DeviceResult} {m' : DeviceManager}
    (h : m.Sound threshold ids results) (hfresh : definition.id ∉ ids)
    (hcalls : ∀ id, id ≠ definition.id →
      initializations m'.calls id = initializations m.calls id) :
    (∀ d ∈ m.active, ActiveRecord threshold m'.calls results d) ∧
      ∀ f ∈ m.failed, FailedRecord m'.calls results f := by
  have hmember : ∀ id ∈ ids, id ≠ definition.id := by
    rintro id hid rfl
    exact hfresh hid
  refine ⟨fun d hd => ?_, fun f hf => ?_⟩
  · have hid := h.members.subset (List.mem_append_left _ (List.mem_map_of_mem hd))
    exact (h.active d hd).frame (hcalls _ (hmember _ hid)) rfl
  · have hid := h.members.subset (List.mem_append_right _ (List.mem_map_of_mem hf))
    exact (h.failed f hf).frame (hcalls _ (hmember _ hid)) rfl

theorem recordFailed_new {failed : List FailedDevice} {info : FailedDevice}
    (h : info.id ∉ failed.map FailedDevice.id) : recordFailed failed info = failed ++ [info] := by
  have hnone : failed.any (fun f => f.id == info.id) = false := by
    rw [List.any_eq_false]
    intro f hf hsame
    exact h (List.mem_map.mpr ⟨f, hf, beq_iff_eq.mp hsame⟩)
  simp [recordFailed, hnone]

/-- Boot leaves a device in the failed set. -/
theorem DeviceManager.Sound.recordFailure {m' : DeviceManager} {info : FailedDevice}
    (h : m.Sound threshold ids []) (hfresh : definition.id ∉ ids) (hid : info.id = definition.id)
    (hactive : m'.active = m.active) (hfailed : m'.failed = m.failed)
    (hcalled : ∀ c ∈ m'.calls, c ∈ m.calls ∨ c.deviceId = definition.id)
    (hcalls : ∀ id, id ≠ definition.id →
      initializations m'.calls id = initializations m.calls id)
    (hinfo : FailedRecord m'.calls [] info) :
    (m'.recordFailure info).Sound threshold (ids ++ [definition.id]) [] := by
  obtain ⟨hkeptActive, hkeptFailed⟩ := h.frame hfresh hcalls
  have hnew : info.id ∉ m.failed.map FailedDevice.id := fun hmem =>
    hfresh (h.members.subset (List.mem_append_right _ (hid ▸ hmem)))
  have hrecorded : (m'.recordFailure info).failed = m.failed ++ [info] := by
    rw [DeviceManager.recordFailure, hfailed, recordFailed_new hnew]
  constructor
  · rw [hrecorded, List.map_append, List.map_singleton, ← List.append_assoc, hid]
    show (m'.active.map _ ++ _ ++ _).Perm _
    rw [hactive]
    exact h.members.append_right _
  · intro d hd
    exact hkeptActive d (hactive ▸ hd)
  · intro f hf
    rw [hrecorded, List.mem_append, List.mem_singleton] at hf
    rcases hf with hf | rfl
    · exact hkeptFailed f hf
    · exact hinfo
  · intro c hc
    rcases hcalled c hc with hold | hthis
    · exact List.mem_append_left _ (h.called c hold)
    · exact List.mem_append_right _ (List.mem_singleton.mpr hthis)

theorem ActiveRecord.fresh {calls : List DriverCall} {results : List DeviceResult}
    (hthreshold : 0 < threshold) (definition : DeviceDefinition) (attempts : Nat)
    (hinitialized : none ∈ initializations calls definition.id)
    (hattempts : attempts = untilReady (initializations calls definition.id))
    (hwarned : failedSinceRecovery definition.id results = false) :
    ActiveRecord threshold calls results
      { deviceId := definition.id, deviceType := definition.deviceType, driver := ()
        name := definition.name, initializationAttemptsUsed := attempts } where
  ready := by simp
  below _ := hthreshold
  reached h := by cases h
  reads := rfl
  initialized := hinitialized
  attempts := hattempts
  warned := hwarned.symm

/-- Boot makes a device active. -/
theorem DeviceManager.Sound.recordSuccess {m' : DeviceManager} {attempts : Nat}
    (hthreshold : 0 < threshold) (h : m.Sound threshold ids []) (hfresh : definition.id ∉ ids)
    (hactive : m'.active = m.active) (hfailed : m'.failed = m.failed)
    (hcalled : ∀ c ∈ m'.calls, c ∈ m.calls ∨ c.deviceId = definition.id)
    (hcalls : ∀ id, id ≠ definition.id →
      initializations m'.calls id = initializations m.calls id)
    (hinitialized : none ∈ initializations m'.calls definition.id)
    (hattempts : attempts = untilReady (initializations m'.calls definition.id)) :
    (m'.recordSuccess definition attempts).Sound threshold (ids ++ [definition.id]) [] := by
  obtain ⟨hkeptActive, hkeptFailed⟩ := h.frame hfresh hcalls
  constructor
  · show ((m'.active ++ [_]).map _ ++ m'.failed.map _).Perm _
    rw [hactive, hfailed, List.map_append, List.map_singleton, List.append_assoc]
    refine (List.perm_append_comm.append_left _).trans ?_
    rw [← List.append_assoc]
    exact h.members.append_right _
  · intro d hd
    rcases List.mem_append.mp hd with hd | hd
    · exact hkeptActive d (hactive ▸ hd)
    · rw [List.mem_singleton.mp hd]
      exact .fresh hthreshold definition attempts hinitialized hattempts rfl
  · intro f hf
    exact hkeptFailed f (hfailed ▸ hf)
  · intro c hc
    rcases hcalled c hc with hold | hthis
    · exact List.mem_append_left _ (h.called c hold)
    · exact List.mem_append_right _ (List.mem_singleton.mpr hthis)

theorem mem_called {deviceId : String} {operation : DriverOperation}
    {errors : List (Option String)} {c : DriverCall}
    (h : c ∈ (m.called deviceId operation errors).calls) :
    c ∈ m.calls ∨ c.deviceId = deviceId := by
  rcases List.mem_append.mp h with hold | hnew
  · exact .inl hold
  · obtain ⟨error, -, rfl⟩ := List.mem_map.mp hnew
    exact .inr rfl

theorem none_notMem_some (errors : List String) : none ∉ errors.map some := by simp

/-- One device of the boot pass. -/
theorem initializeSingleDevice_sound (hthreshold : 0 < threshold)
    (h : m.Sound threshold ids []) (hfresh : definition.id ∉ ids) :
    (m.initializeSingleDevice world config definition).2.Sound threshold
      (ids ++ [definition.id]) [] := by
  have hnone : initializations m.calls definition.id = [] :=
    callErrors_of_fresh (fun c hc (hsame : c.deviceId = definition.id) =>
      hfresh (hsame ▸ h.called c hc)) _
  unfold DeviceManager.initializeSingleDevice DeviceManager.call
  generalize world.error definition.id .construction _ = error
  cases error with
  | some err =>
    refine h.recordFailure hfresh rfl rfl rfl (fun c hc => mem_called hc)
      (fun id _ => initializations_construction _ id) ⟨rfl, ?_, ?_, rfl⟩
    · rw [initializations_construction, hnone]
      exact List.not_mem_nil
    · rw [initializations_construction, hnone]
      rfl
  | none =>
    dsimp only
    have hcalled : ∀ errors, ∀ c ∈ ((m.called definition.id .construction [none]).called
        definition.id .initialization errors).calls, c ∈ m.calls ∨ c.deviceId = definition.id :=
      fun errors c hc => (mem_called hc).elim (fun hc => mem_called hc) .inr
    have hcalls : ∀ errors id, id ≠ definition.id →
        initializations ((m.called definition.id .construction [none]).called
          definition.id .initialization errors).calls id = initializations m.calls id := by
      intro errors id hne
      rw [initializations_other (Ne.symm hne), initializations_construction]
    have hthis : ∀ errors, initializations ((m.called definition.id .construction [none]).called
        definition.id .initialization errors).calls definition.id = errors := by
      intro errors
      rw [initializations_same, initializations_construction, hnone, List.nil_append]
    obtain ⟨errors, ⟨err, hattempts⟩ | hattempts⟩ := @initializeDriverWithRetries_cases world config
      (m.called definition.id .construction [none]) definition.id
    · rw [hattempts]
      refine h.recordFailure hfresh rfl rfl rfl (hcalled _) (hcalls _) ⟨rfl, ?_, ?_, rfl⟩
      · rw [hthis]
        exact none_notMem_some errors
      · rw [hthis, untilReady_of_failed (none_notMem_some errors), List.length_map]
    · rw [hattempts]
      refine h.recordSuccess hthreshold hfresh rfl rfl (hcalled _) (hcalls _) ?_ ?_
      · rw [hthis]
        exact List.mem_append_right _ List.mem_cons_self
      · rw [hthis, untilReady_failed (none_notMem_some errors), List.length_map]
        rfl

theorem initializeDevicesFrom_sound (hthreshold : 0 < threshold) {devices : List DeviceDefinition}
    (hnodup : (ids ++ devices.map DeviceDefinition.id).Nodup) (h : m.Sound threshold ids []) :
    (m.initializeDevicesFrom world config devices).Sound threshold
      (ids ++ devices.map DeviceDefinition.id) [] := by
  induction devices generalizing m ids with
  | nil => simpa [DeviceManager.initializeDevicesFrom] using h
  | cons definition rest ih =>
    have hfresh : definition.id ∉ ids := fun hmem =>
      (List.nodup_append.mp hnodup).2.2 _ hmem _ List.mem_cons_self rfl
    have hsplit : ids ++ (definition :: rest).map DeviceDefinition.id =
        ids ++ [definition.id] ++ rest.map DeviceDefinition.id := by simp
    rw [hsplit] at hnodup ⊢
    exact ih hnodup (initializeSingleDevice_sound hthreshold h hfresh)

end Boot

section Processing

variable {world : DriverWorld} {config : Core1Config} {threshold : Nat} {ids : List String}
  {results : List DeviceResult} {m m' : DeviceManager} {index : Nat}
  {d d' : ManagedDevice Unit}

theorem map_set_eq {α β : Type} {xs : List α} {f : α → β} {index : Nat} {x y : α}
    (hx : xs[index]? = some x) (hsame : f y = f x) : (xs.set index y).map f = xs.map f := by
  rw [List.map_set, hsame]
  obtain ⟨hlt, hget⟩ := List.getElem?_eq_some_iff.mp hx
  refine List.ext_getElem (by simp) (fun j hj hj' => ?_)
  rw [List.getElem_set]
  split
  · rename_i heq
    subst heq
    rw [List.getElem_map, hget]
  · rfl

theorem forall_mem_set {α β : Type} {xs : List α} {f : α → β} {index : Nat} {x y : α} {P : α → Prop}
    (hnodup : (xs.map f).Nodup) (hx : xs[index]? = some x) (hy : P y)
    (hother : ∀ z ∈ xs, f z ≠ f x → P z) : ∀ z ∈ xs.set index y, P z := by
  intro z hz
  obtain ⟨hlt, hget⟩ := List.getElem?_eq_some_iff.mp hx
  obtain ⟨j, hj, rfl⟩ := List.getElem_of_mem hz
  rw [List.getElem_set]
  split
  · exact hy
  · rename_i hne
    have hj' : j < xs.length := by simpa using hj
    refine hother _ (List.getElem_mem hj') (fun hsame => hne ?_)
    have hkeys : (xs.map f).get ⟨index, by simpa using hlt⟩ =
        (xs.map f).get ⟨j, by simpa using hj'⟩ := by
      simp [hget, hsame]
    exact (List.Nodup.getElem_inj_iff hnodup).mp hkeys

/-- Only the processed device has changed. -/
theorem DeviceManager.Sound.processed {results' : List DeviceResult} (hids : ids.Nodup)
    (h : m.Sound threshold ids results) (hd : m.active[index]? = some d)
    (hactive : m'.active = m.active.set index d') (hsame : d'.deviceId = d.deviceId)
    (hfailed : m'.failed = m.failed)
    (hcalled : ∀ c ∈ m'.calls, c ∈ m.calls ∨ c.deviceId = d.deviceId)
    (hcalls : ∀ id, id ≠ d.deviceId → initializations m'.calls id = initializations m.calls id)
    (hresults : ∀ id, id ≠ d.deviceId →
      failedSinceRecovery id results' = failedSinceRecovery id results)
    (hd' : ActiveRecord threshold m'.calls results' d') : m'.Sound threshold ids results' := by
  have hnodup := h.members.nodup_iff.mpr hids
  have hmem : d ∈ m.active := List.mem_of_getElem? hd
  constructor
  · rw [hactive, hfailed, map_set_eq hd hsame]
    exact h.members
  · rw [hactive]
    refine forall_mem_set (List.nodup_append.mp hnodup).1 hd hd' (fun z hz hne => ?_)
    exact (h.active z hz).frame (hcalls _ hne) (hresults _ hne)
  · rw [hfailed]
    intro f hf
    have hne : f.id ≠ d.deviceId := fun heq => (List.nodup_append.mp hnodup).2.2 _
      (List.mem_map_of_mem hmem) _ (List.mem_map_of_mem hf) heq.symm
    exact (h.failed f hf).frame (hcalls _ hne) (hresults _ hne)
  · intro c hc
    rcases hcalled c hc with hold | hthis
    · exact h.called c hold
    · rw [hthis]
      exact h.members.subset (List.mem_append_left _ (List.mem_map_of_mem hmem))

theorem ActiveRecord.readSucceeded {calls : List DriverCall}
    (h : ActiveRecord threshold calls results d) (hready : d.reinitializePending = false)
    (started finished : Int) :
    ActiveRecord threshold calls results ((d.readStarted started).readSucceeded finished) where
  ready := h.ready
  below _ := Nat.zero_lt_of_lt (h.below hready)
  reached hpending := absurd (hready.symm.trans hpending) (by decide)
  reads := by
    have hreads := h.reads
    simp only [ManagedDevice.readStarted, ManagedDevice.readSucceeded,
      ManagedDevice.recordReadSuccess]
    omega
  initialized := h.initialized
  attempts := h.attempts
  warned := h.warned

theorem ActiveRecord.readFailed {calls : List DriverCall}
    (h : ActiveRecord threshold calls results d) (hready : d.reinitializePending = false)
    (started : Int) :
    ActiveRecord threshold calls results ((d.readStarted started).readFailed threshold) := by
  have hreads : d.readCount + 1 = d.successfulReadCount + (d.totalReadFailures + 1) := by
    have := h.reads
    omega
  by_cases hreached : threshold ≤ d.consecutiveReadFailures + 1
  · have hd : (d.readStarted started).readFailed threshold =
        ((d.readStarted started).recordReadFailure).markReinitializePending := if_pos hreached
    rw [hd]
    refine ⟨?_, fun hready => ?_, fun _ => hreached, hreads, h.initialized, h.attempts, h.warned⟩
    · simp [ManagedDevice.markReinitializePending]
    · cases hready
  · have hd : (d.readStarted started).readFailed threshold =
        (d.readStarted started).recordReadFailure := if_neg hreached
    rw [hd]
    exact ⟨h.ready, fun _ => Nat.lt_of_not_le hreached,
      fun hpending => absurd (hready.symm.trans hpending) (by decide), hreads, h.initialized,
      h.attempts, h.warned⟩

theorem failedSinceRecovery_neither {r : DeviceResult} (id : String)
    (hrecovers : r.recovers id = false) (hfails : r.fails id = false) :
    failedSinceRecovery id (results ++ [r]) = failedSinceRecovery id results := by
  rw [failedSinceRecovery_append, hrecovers, hfails]
  rfl

theorem processNormalRead_sound (hids : ids.Nodup)
    (h : m.Sound config.deviceReadFailureThreshold ids results) (hd : m.active[index]? = some d)
    (hready : d.reinitializePending = false) :
    (m.processNormalRead world config index d).2.Sound config.deviceReadFailureThreshold ids
        (results ++ [(m.processNormalRead world config index d).1]) ∧
      (m.processNormalRead world config index d).1.logFailureWarning? = none := by
  have hrecord := h.active d (List.mem_of_getElem? hd)
  unfold DeviceManager.processNormalRead DeviceManager.nowMs DeviceManager.call
  dsimp only
  generalize world.error (d.readStarted _).deviceId .read _ = error
  cases error with
  | none =>
    refine ⟨h.processed hids hd rfl rfl rfl (fun c hc => mem_called hc)
      (fun id _ => initializations_read _ id)
      (fun id _ => failedSinceRecovery_neither id rfl rfl) ?_, rfl⟩
    exact (hrecord.readSucceeded hready _ _).frame (initializations_read _ _)
      (failedSinceRecovery_neither _ rfl rfl)
  | some err =>
    have hid : ∀ started, ((d.readStarted started).readFailed
        config.deviceReadFailureThreshold).deviceId = d.deviceId := by
      intro started
      unfold ManagedDevice.readFailed
      dsimp only
      split <;> rfl
    refine ⟨h.processed hids hd rfl (hid _) rfl (fun c hc => mem_called hc)
      (fun id _ => initializations_read _ id)
      (fun id _ => failedSinceRecovery_neither id rfl rfl) ?_, rfl⟩
    exact (hrecord.readFailed hready _).frame (initializations_read _ _)
      (failedSinceRecovery_neither _ rfl rfl)

theorem ActiveRecord.reinitializations {deviceId : String} (errors : List (Option String))
    (h : ActiveRecord threshold m.calls results d) (hid : d.deviceId = deviceId) :
    none ∈ initializations (m.called deviceId .initialization errors).calls d.deviceId ∧
      d.initializationAttemptsUsed =
        untilReady (initializations (m.called deviceId .initialization errors).calls d.deviceId) := by
  subst hid
  rw [initializations_same, untilReady_ready h.initialized]
  exact ⟨List.mem_append_left _ h.initialized, h.attempts⟩

theorem processReinitialization_sound (hids : ids.Nodup) (hthreshold : 0 < threshold)
    (h : m.Sound threshold ids results) (hd : m.active[index]? = some d)
    (hconfigured : ∃ definition ∈ config.devices, definition.id = d.deviceId) :
    ∃ r, (m.processReinitialization world config index d).1 = .ok r ∧
      (m.processReinitialization world config index d).2.Sound threshold ids (results ++ [r]) ∧
      ∀ deviceId warning, r.logFailureWarning? = some (deviceId, warning) →
        warning = !failedSinceRecovery deviceId results := by
  have hrecord := h.active d (List.mem_of_getElem? hd)
  have hfind : ∃ definition, config.devices.find? (fun e => e.id == d.deviceId) =
      some definition := by
    obtain ⟨definition, hmem, hid⟩ := hconfigured
    rw [← Option.isSome_iff_exists, List.find?_isSome]
    exact ⟨definition, hmem, beq_iff_eq.mpr hid⟩
  obtain ⟨definition, hfind⟩ := hfind
  unfold DeviceManager.processReinitialization
  rw [hfind]
  dsimp only
  have hother : ∀ errors id, id ≠ d.deviceId →
      initializations (m.called d.deviceId .initialization errors).calls id =
        initializations m.calls id :=
    fun errors id hne => initializations_other (Ne.symm hne) _ errors
  obtain ⟨errors, ⟨err, hattempts⟩ | hattempts⟩ :=
    @initializeDriverWithRetries_cases world config m d.deviceId
  · rw [hattempts]
    refine ⟨_, rfl, h.processed hids hd rfl rfl rfl (fun c hc => mem_called hc) (hother _)
      (fun id hne => failedSinceRecovery_neither id rfl ?_) ?_, ?_⟩
    · exact decide_eq_false (Ne.symm hne)
    · obtain ⟨hinitialized, hused⟩ := hrecord.reinitializations (errors.map some) rfl
      refine ⟨hrecord.ready, hrecord.below, hrecord.reached, hrecord.reads, hinitialized, hused, ?_⟩
      rw [failedSinceRecovery_append]
      simp [ManagedDevice.reinitializationFailed, DeviceResult.recovers, DeviceResult.fails]
    · rintro deviceId warning hwarning
      cases hwarning
      rw [hrecord.warned]
  · rw [hattempts]
    refine ⟨_, rfl, h.processed hids hd rfl rfl rfl (fun c hc => mem_called hc) (hother _)
      (fun id hne => failedSinceRecovery_neither id ?_ rfl) ?_, ?_⟩
    · exact decide_eq_false (Ne.symm hne)
    · obtain ⟨hinitialized, hused⟩ :=
        hrecord.reinitializations (errors.map some ++ [none]) rfl
      refine ⟨?_, fun _ => hthreshold, fun hpending => ?_, hrecord.reads, hinitialized, hused, ?_⟩
      · simp [ManagedDevice.reinitialized, ManagedDevice.clearReinitializePending]
      · cases hpending
      · rw [failedSinceRecovery_append]
        simp [ManagedDevice.reinitialized, ManagedDevice.clearReinitializePending,
          DeviceResult.recovers]
    · rintro deviceId warning hwarning
      cases hwarning

end Processing

section Retrying

variable {world : DriverWorld} {config : Core1Config} {threshold : Nat} {ids : List String}
  {results : List DeviceResult} {m m' : DeviceManager} {definition : DeviceDefinition}
  {info info' : FailedDevice}

theorem replaceFailed_ids (failed : List FailedDevice) (info : FailedDevice) :
    (replaceFailed failed info).map FailedDevice.id = failed.map FailedDevice.id := by
  rw [replaceFailed, List.map_map]
  refine List.map_congr_left (fun f _ => ?_)
  simp only [Function.comp_apply]
  split
  · rename_i h
    exact h.symm
  · rfl

/-- A retry that fails has only changed the record of its device. -/
theorem DeviceManager.Sound.retryFailed {results' : List DeviceResult} (hids : ids.Nodup)
    (h : m.Sound threshold ids results) (hinfo : info ∈ m.failed) (hsame : info'.id = info.id)
    (hactive : m'.active = m.active) (hfailed : m'.failed = replaceFailed m.failed info')
    (hcalled : ∀ c ∈ m'.calls, c ∈ m.calls ∨ c.deviceId = info.id)
    (hcalls : ∀ id, id ≠ info.id → initializations m'.calls id = initializations m.calls id)
    (hresults : ∀ id, id ≠ info.id →
      failedSinceRecovery id results' = failedSinceRecovery id results)
    (hinfo' : FailedRecord m'.calls results' info') : m'.Sound threshold ids results' := by
  have hnodup := h.members.nodup_iff.mpr hids
  constructor
  · rw [hactive, hfailed, replaceFailed_ids]
    exact h.members
  · rw [hactive]
    intro d hd
    have hne : d.deviceId ≠ info.id := fun heq => (List.nodup_append.mp hnodup).2.2 _
      (List.mem_map_of_mem hd) _ (List.mem_map_of_mem hinfo) heq
    exact (h.active d hd).frame (hcalls _ hne) (hresults _ hne)
  · rw [hfailed]
    intro f hf
    obtain ⟨g, hg, rfl⟩ := List.mem_map.mp hf
    split
    · exact hinfo'
    · rename_i hne
      rw [hsame] at hne
      exact (h.failed g hg).frame (hcalls _ hne) (hresults _ hne)
  · intro c hc
    rcases hcalled c hc with hold | hthis
    · exact h.called c hold
    · rw [hthis]
      exact h.members.subset (List.mem_append_right _ (List.mem_map_of_mem hinfo))

theorem deleteFailed_ids (failed : List FailedDevice) (deviceId : String) :
    (failed.eraseP (fun f => f.id == deviceId)).map FailedDevice.id =
      (failed.map FailedDevice.id).erase deviceId := by
  rw [List.erase_eq_eraseP, List.eraseP_map]
  congr 2
  funext f
  exact Bool.beq_comm

/-- A retry that succeeds has moved its device. -/
theorem DeviceManager.Sound.retryRecovered {results' : List DeviceResult} {attempts : Nat}
    (hids : ids.Nodup) (hthreshold : 0 < threshold) (h : m.Sound threshold ids results)
    (hinfo : info ∈ m.failed) (hid : info.id = definition.id)
    (hactive : m'.active = m.active) (hfailed : m'.failed = m.failed)
    (hcalled : ∀ c ∈ m'.calls, c ∈ m.calls ∨ c.deviceId = definition.id)
    (hcalls : ∀ id, id ≠ definition.id →
      initializations m'.calls id = initializations m.calls id)
    (hresults : ∀ id, id ≠ definition.id →
      failedSinceRecovery id results' = failedSinceRecovery id results)
    (hinitialized : none ∈ initializations m'.calls definition.id)
    (hattempts : attempts = untilReady (initializations m'.calls definition.id))
    (hwarned : failedSinceRecovery definition.id results' = false) :
    ((m'.recordSuccess definition attempts).deleteFailed definition.id).Sound threshold ids
      results' := by
  have hnodup := h.members.nodup_iff.mpr hids
  have hfailedNodup := (List.nodup_append.mp hnodup).2.1
  have hmem : definition.id ∈ m.failed.map FailedDevice.id := by
    rw [← hid]
    exact List.mem_map_of_mem hinfo
  constructor
  · show ((m'.active ++ [_]).map _ ++ (m'.failed.eraseP _).map _).Perm _
    rw [hactive, hfailed, deleteFailed_ids, List.map_append, List.map_singleton,
      List.append_assoc]
    refine List.Perm.trans (List.Perm.append_left _ ?_) h.members
    exact (List.perm_cons_erase hmem).symm
  · intro d hd
    rcases List.mem_append.mp hd with hd | hd
    · rw [hactive] at hd
      have hne : d.deviceId ≠ definition.id := fun heq => (List.nodup_append.mp hnodup).2.2 _
        (List.mem_map_of_mem hd) _ hmem heq
      exact (h.active d hd).frame (hcalls _ hne) (hresults _ hne)
    · rw [List.mem_singleton.mp hd]
      exact .fresh hthreshold definition attempts hinitialized hattempts hwarned
  · intro f hf
    have hf' : f ∈ m.failed.eraseP (fun f => f.id == definition.id) := hfailed ▸ hf
    have hne : f.id ≠ definition.id := by
      have hkey := List.mem_map_of_mem (f := FailedDevice.id) hf'
      rw [deleteFailed_ids, hfailedNodup.mem_erase_iff] at hkey
      exact hkey.1
    exact (h.failed f (List.mem_of_mem_eraseP hf')).frame (hcalls _ hne) (hresults _ hne)
  · intro c hc
    rcases hcalled c hc with hold | hthis
    · exact h.called c hold
    · rw [hthis]
      exact h.members.subset (List.mem_append_right _ hmem)

theorem lateRetryFailure_sound (error : String) (hids : ids.Nodup)
    (h : m.Sound threshold ids results) (hinfo : info ∈ m.failed) (hsame : info'.id = info.id)
    (hlogged : info'.retryFailureLogged = info.retryFailureLogged)
    (hactive : m'.active = m.active) (hfailed : m'.failed = m.failed)
    (hcalled : ∀ c ∈ m'.calls, c ∈ m.calls ∨ c.deviceId = info.id)
    (hcalls : ∀ id, id ≠ info.id → initializations m'.calls id = initializations m.calls id)
    (hinfo' : FailedRecord m'.calls results info') :
    (m'.lateRetryFailure info' error).2.Sound threshold ids
        (results ++ [(m'.lateRetryFailure info' error).1]) ∧
      ∀ deviceId warning,
        (m'.lateRetryFailure info' error).1.logFailureWarning? = some (deviceId, warning) →
          warning = !failedSinceRecovery deviceId results := by
  constructor
  · have hlogged : ({ info' with failureReason := some error, retryFailureLogged := true } :
        FailedDevice).id = info.id := hsame
    refine h.retryFailed hids hinfo hlogged hactive
      (by rw [DeviceManager.lateRetryFailure, hfailed]) hcalled hcalls (fun id hne => ?_) ?_
    · refine failedSinceRecovery_neither id rfl (decide_eq_false ?_)
      rw [hsame]
      exact Ne.symm hne
    · refine ⟨hinfo'.state, hinfo'.uninitialized, hinfo'.attempts, ?_⟩
      rw [failedSinceRecovery_append]
      simp [DeviceManager.lateRetryFailure, DeviceResult.recovers, DeviceResult.fails]
  · rintro deviceId warning hwarning
    cases hwarning
    rw [hlogged, hsame, (h.failed info hinfo).warned]

theorem retryFailedDevice_sound (hids : ids.Nodup) (hthreshold : 0 < threshold)
    (h : m.Sound threshold ids results) (hinfo : info ∈ m.failed) (hid : info.id = definition.id) :
    (m.retryFailedDevice world definition info).2.Sound threshold ids
        (results ++ [(m.retryFailedDevice world definition info).1]) ∧
      ∀ deviceId warning, (m.retryFailedDevice world definition info).1.logFailureWarning? =
        some (deviceId, warning) → warning = !failedSinceRecovery deviceId results := by
  have hrecord := h.failed info hinfo
  have hother : ∀ error id, id ≠ info.id →
      initializations (m.called definition.id .construction [error]).calls id =
        initializations m.calls id := fun error id _ => initializations_construction _ id
  unfold DeviceManager.retryFailedDevice DeviceManager.call
  generalize world.error definition.id .construction _ = constructed
  cases constructed with
  | some err =>
    refine lateRetryFailure_sound err hids h hinfo rfl rfl rfl rfl
      (fun c hc => hid ▸ mem_called hc) (hother _) ⟨hrecord.state, ?_, ?_, hrecord.warned⟩
    · rw [initializations_construction]
      exact hrecord.uninitialized
    · rw [initializations_construction]
      exact hrecord.attempts
  | none =>
    dsimp only
    have hcalled : ∀ error, ∀ c ∈ ((m.called definition.id .construction [none]).called
        definition.id .initialization [error]).calls, c ∈ m.calls ∨ c.deviceId = definition.id :=
      fun error c hc => (mem_called hc).elim (fun hc => mem_called hc) .inr
    have hcalls : ∀ error id, id ≠ definition.id →
        initializations ((m.called definition.id .construction [none]).called
          definition.id .initialization [error]).calls id = initializations m.calls id := by
      intro error id hne
      rw [initializations_other (Ne.symm hne), initializations_construction]
    have hthis : ∀ error, initializations ((m.called definition.id .construction [none]).called
        definition.id .initialization [error]).calls definition.id =
          initializations m.calls definition.id ++ [error] := by
      intro error
      rw [initializations_same, initializations_construction]
    have huninitialized : none ∉ initializations m.calls definition.id :=
      hid ▸ hrecord.uninitialized
    have hattempts : info.initializationAttemptsUsed =
        untilReady (initializations m.calls definition.id) := hid ▸ hrecord.attempts
    rw [untilReady_of_failed huninitialized] at hattempts
    generalize world.error definition.id .initialization _ = initialized
    cases initialized with
    | some err =>
      refine lateRetryFailure_sound err hids h hinfo rfl rfl rfl rfl (hid ▸ hcalled _)
        (hid ▸ hcalls _) ⟨hrecord.state, ?_, ?_, hrecord.warned⟩
      · show none ∉ initializations _ info.id
        rw [hid, hthis]
        simpa using huninitialized
      · show _ = untilReady (initializations _ info.id)
        rw [hid, hthis, untilReady_failed huninitialized, ← hattempts]
        rfl
    | none =>
      refine ⟨h.retryRecovered hids hthreshold hinfo hid rfl rfl (hcalled _) (hcalls _)
        (fun id hne => failedSinceRecovery_neither id ?_ rfl) ?_ ?_ ?_, ?_⟩
      · exact decide_eq_false (Ne.symm hne)
      · rw [hthis]
        exact List.mem_append_right _ List.mem_cons_self
      · rw [hthis, untilReady_failed huninitialized, ← hattempts]
        rfl
      · rw [failedSinceRecovery_append]
        simp [DeviceResult.recovers]
      · rintro deviceId warning hwarning
        cases hwarning

theorem retryFailedFrom_sound (hids : ids.Nodup) (hthreshold : 0 < threshold)
    (devices : List DeviceDefinition) (h : m.Sound threshold ids results)
    (hwarned : WarnedOnce results) :
    (m.retryFailedFrom world devices).2.Sound threshold ids
        (results ++ (m.retryFailedFrom world devices).1) ∧
      WarnedOnce (results ++ (m.retryFailedFrom world devices).1) := by
  induction devices generalizing m results with
  | nil => simpa [DeviceManager.retryFailedFrom] using ⟨h, hwarned⟩
  | cons definition rest ih =>
    unfold DeviceManager.retryFailedFrom
    split
    · exact ih h hwarned
    · rename_i info hfind
      obtain ⟨hsound, hwarning⟩ := @retryFailedDevice_sound world threshold ids results m definition
        info hids hthreshold h (List.mem_of_find?_eq_some hfind)
        (by simpa using List.find?_some hfind)
      have hrest := ih hsound (hwarned.append hwarning)
      simpa [List.append_assoc] using hrest

end Retrying

section Snapshot

variable {m : DeviceManager} {now : Option Int}

def statusId : PyValue → Option PyValue
  | .dict snapshot => PyDict.get? snapshot "id"
  | _ => none

def Labelled (ids : List String) (snapshots : PyDict) : Prop :=
  ∀ id, match snapshots.get? id with
    | some snapshot => statusId snapshot = some (.str id)
    | none => id ∉ ids

theorem labelled_foldl {α : Type} {key : α → String} {value : α → PyDict} (xs : List α)
    {ids : List String} {snapshots : PyDict} (h : Labelled ids snapshots)
    (hvalue : ∀ x ∈ xs, PyDict.get? (value x) "id" = some (.str (key x))) :
    Labelled (ids ++ xs.map key)
      (xs.foldl (fun snapshots x => Json.store snapshots (key x) (.dict (value x))) snapshots) := by
  induction xs generalizing ids snapshots with
  | nil => simpa using h
  | cons x xs ih =>
    rw [List.foldl_cons, List.map_cons, ← List.singleton_append, ← List.append_assoc]
    refine ih (fun id => ?_) (fun y hy => hvalue y (List.mem_cons_of_mem _ hy))
    rw [PyDict.get?_store]
    by_cases hid : key x = id
    · subst hid
      rw [if_pos rfl]
      exact hvalue x List.mem_cons_self
    · rw [if_neg hid]
      have hold := h id
      cases hget : snapshots.get? id with
      | some snapshot => simpa only [hget] using hold
      | none =>
        rw [hget] at hold
        simpa [Ne.symm hid] using hold

theorem deviceStatus_ids {config : Core1Config}
    (h : (m.active.map ManagedDevice.deviceId ++ m.failed.map FailedDevice.id).Perm
      (config.devices.map DeviceDefinition.id)) :
    (m.deviceStatus config now).map statusId =
      config.devices.map (fun definition => some (.str definition.id)) := by
  have hempty : Labelled [] [] := fun id => List.not_mem_nil
  have hlabelled : Labelled (m.active.map ManagedDevice.deviceId ++ m.failed.map FailedDevice.id)
      (m.deviceSnapshots now) :=
    labelled_foldl m.failed (labelled_foldl m.active hempty (fun _ _ => rfl)) (fun _ _ => rfl)
  have hmem : ∀ definition ∈ config.devices, definition.id ∈
      m.active.map ManagedDevice.deviceId ++ m.failed.map FailedDevice.id :=
    fun definition hd => h.symm.subset (List.mem_map_of_mem hd)
  unfold DeviceManager.deviceStatus
  generalize config.devices = devices at hmem ⊢
  induction devices with
  | nil => rfl
  | cons definition rest ih =>
    have hthis := hlabelled definition.id
    cases hget : (m.deviceSnapshots now).get? definition.id with
    | none =>
      rw [hget] at hthis
      exact (hthis (hmem definition List.mem_cons_self)).elim
    | some snapshot =>
      rw [hget] at hthis
      have hid : statusId snapshot = some (.str definition.id) := hthis
      simp only [List.filterMap_cons, hget, List.map_cons, hid]
      rw [ih (fun d hd => hmem d (List.mem_cons_of_mem _ hd))]

end Snapshot

section Runs

variable {world : DriverWorld} {config : Core1Config} {run : ManagerRun}

structure ManagerRun.Sound (config : Core1Config) (run : ManagerRun) : Prop where
  manager : run.manager.Sound config.deviceReadFailureThreshold
    (config.devices.map DeviceDefinition.id) run.results
  warned : WarnedOnce run.results

theorem ManagerRun.Sound.step (hids : (config.devices.map DeviceDefinition.id).Nodup)
    (hthreshold : 0 < config.deviceReadFailureThreshold) (h : run.Sound config)
    (call : ManagerCall) : (run.step world config call).Sound config := by
  cases call with
  | retryFailedDevices =>
    obtain ⟨hmanager, hwarned⟩ := @retryFailedFrom_sound world _ _ _ _ hids hthreshold
      config.devices h.manager h.warned
    exact ⟨hmanager, hwarned⟩
  | processDevice index =>
    cases hd : run.manager.active[index]? with
    | none => simpa only [ManagerRun.step, hd] using h
    | some device =>
      simp only [ManagerRun.step, hd, DeviceManager.processDevice]
      cases hpending : device.reinitializePending with
      | true =>
        have hconfigured : ∃ definition ∈ config.devices, definition.id = device.deviceId := by
          rw [← List.mem_map]
          exact h.manager.members.subset (List.mem_append_left _
            (List.mem_map_of_mem (List.mem_of_getElem? hd)))
        obtain ⟨r, hr, hmanager, hwarning⟩ := @processReinitialization_sound world _ _ _ _ _ _ _
          hids hthreshold h.manager hd hconfigured
        rw [if_pos rfl]
        generalize run.manager.processReinitialization world config index device = processed
          at hr hmanager ⊢
        obtain ⟨result, manager⟩ := processed
        cases hr
        exact ⟨hmanager, h.warned.append hwarning⟩
      | false =>
        obtain ⟨hmanager, hnone⟩ := @processNormalRead_sound world _ _ _ _ _ _ hids h.manager hd
          hpending
        rw [if_neg (by decide)]
        refine ⟨hmanager, h.warned.append ?_⟩
        intro deviceId warning hwarning
        rw [hnone] at hwarning
        cases hwarning

theorem ManagerRun.after_sound (hids : (config.devices.map DeviceDefinition.id).Nodup)
    (hthreshold : 0 < config.deviceReadFailureThreshold) (calls : List ManagerCall) :
    (ManagerRun.after world config calls).Sound config := by
  have hstart : (ManagerRun.booted world config).Sound config := by
    have hempty : ({} : DeviceManager).Sound config.deviceReadFailureThreshold [] [] :=
      ⟨List.Perm.refl _, by simp, by simp, by simp⟩
    refine ⟨?_, fun before r after heq => by simp [booted] at heq⟩
    exact initializeDevicesFrom_sound hthreshold (by simpa using hids) hempty
  unfold ManagerRun.after
  generalize ManagerRun.booted world config = run at hstart ⊢
  induction calls generalizing run with
  | nil => exact hstart
  | cons call calls ih => exact ih _ (hstart.step hids hthreshold call)

/-- What holds of the manager between two calls. -/
structure ManagerRun.Consistent (config : Core1Config) (run : ManagerRun) : Prop where
  placed : ∀ definition ∈ config.devices,
    (∃ d ∈ run.manager.active, d.deviceId = definition.id) ↔
      ¬ ∃ f ∈ run.manager.failed, f.id = definition.id
  ready : ∀ d ∈ run.manager.active, d.state = .ready ↔ d.reinitializePending = false
  below : ∀ d ∈ run.manager.active, d.state = .ready →
    d.consecutiveReadFailures < config.deviceReadFailureThreshold
  reached : ∀ d ∈ run.manager.active, d.reinitializePending = true →
    config.deviceReadFailureThreshold ≤ d.consecutiveReadFailures
  reads : ∀ d ∈ run.manager.active, d.readCount = d.successfulReadCount + d.totalReadFailures
  attempts : ∀ d ∈ run.manager.active,
    d.initializationAttemptsUsed = untilReady (initializations run.manager.calls d.deviceId)
  failedAttempts : ∀ f ∈ run.manager.failed,
    f.initializationAttemptsUsed = untilReady (initializations run.manager.calls f.id)
  snapshot : ∀ now, (run.manager.deviceStatus config now).map statusId =
    config.devices.map (fun definition => some (.str definition.id))
  warned : WarnedOnce run.results

theorem ManagerRun.Sound.consistent {config : Core1Config} {run : ManagerRun}
    (h : run.Sound config) (hids : (config.devices.map DeviceDefinition.id).Nodup) :
    run.Consistent config := by
  have hnodup := h.manager.members.nodup_iff.mpr hids
  constructor
  · intro definition hd
    constructor
    · rintro ⟨d, hactive, hid⟩ ⟨f, hfailed, hid'⟩
      exact (List.nodup_append.mp hnodup).2.2 _ (List.mem_map_of_mem hactive) _
        (List.mem_map_of_mem hfailed) (hid.trans hid'.symm)
    · intro hnot
      rcases List.mem_append.mp (h.manager.members.symm.subset (List.mem_map_of_mem hd)) with
        hactive | hfailed
      · exact List.mem_map.mp hactive
      · exact (hnot (List.mem_map.mp hfailed)).elim
  · exact fun d hd => (h.manager.active d hd).ready
  · exact fun d hd hready => (h.manager.active d hd).below
      ((h.manager.active d hd).ready.mp hready)
  · exact fun d hd => (h.manager.active d hd).reached
  · exact fun d hd => (h.manager.active d hd).reads
  · exact fun d hd => (h.manager.active d hd).attempts
  · exact fun f hf => (h.manager.failed f hf).attempts
  · exact fun now => deviceStatus_ids h.manager.members
  · exact h.warned

/-- Whatever the drivers do at boot and in any sequence of calls afterwards, the records of the
manager are consistent. -/
theorem manager_consistent (world : DriverWorld) (config : Core1Config)
    (hids : (config.devices.map DeviceDefinition.id).Nodup)
    (hthreshold : 0 < config.deviceReadFailureThreshold) (calls : List ManagerCall) :
    (ManagerRun.after world config calls).Consistent config := by
  have h : (ManagerRun.after world config calls).Sound config :=
    ManagerRun.after_sound hids hthreshold calls
  exact h.consistent hids

end Runs

def twoSensors : Core1Config where
  readLoopSec := 60
  deviceInitializationAttempts := 2
  deviceInitializationRetryDelayMs := 1000
  deviceReadFailureThreshold := 2
  healthIntervalSec := 60
  devices := [⟨"indoor", "bme280", .none, []⟩, ⟨"outdoor", "sht35", .none, []⟩]

def lateWorld : DriverWorld where
  error id operation n :=
    match operation with
    | .construction => none
    | .initialization =>
      if id = "indoor" ∧ n < 3 ∨ id = "outdoor" ∧ 0 < n ∧ n < 3 then some "[Errno 5] EIO" else none
    | .read => if id = "outdoor" ∧ n < 2 then some "[Errno 5] EIO" else none
  nowMs n := 1000 * n

def lateCalls : List ManagerCall :=
  [.processDevice 0, .retryFailedDevices, .processDevice 0, .processDevice 0, .retryFailedDevices,
    .processDevice 0, .processDevice 1]

theorem manager_consistent_late :
    (ManagerRun.after lateWorld twoSensors lateCalls).Consistent twoSensors :=
  manager_consistent lateWorld twoSensors (by decide) (by decide) lateCalls

end PicoDualCore
