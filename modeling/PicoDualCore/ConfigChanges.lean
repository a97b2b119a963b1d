import PicoDualCore.ConfigStore
set_option autoImplicit false

namespace PicoDualCore
open AtomicProgram

def PyValue.asDict : PyValue → PyDict
  | .dict items => items
  | _ => []

def PyValue.asList : PyValue → List PyValue
  | .list items => items
  | _ => []

def PyValue.asStr : PyValue → String
  | .str s => s
  | _ => ""

def deviceIdOf (device : PyValue) : String := (device.asDict.getD "id").asStr

def deviceById (devices : List PyValue) (id : String) : Option PyValue :=
  devices.reverse.find? (fun device => deviceIdOf device == id)

def deviceChange (changeType id : String) (device : PyValue) : PyValue :=
  .dict [(.str "setting", .str "devices"), (.str "change_type", .str changeType),
    (.str "device_id", .str id), (.str "device_type", device.asDict.getD "device_type")]

def changeOfDevice (old new : List PyValue) (id : String) : Option PyValue :=
  match deviceById old id, deviceById new id with
  | none, some device => some (deviceChange "ADDED" id device)
  | some device, none => some (deviceChange "REMOVED" id device)
  | some before, some device =>
    if before.pyEq device then none else some (deviceChange "MODIFIED" id device)
  | none, none => none

def deviceChanges (old new : List PyValue) : List PyValue :=
  let changes := (sortedSet ((old ++ new).map deviceIdOf)).filterMap (changeOfDevice old new)
  if changes.isEmpty && !(PyValue.list old).pyEq (.list new) then
    [.dict [(.str "setting", .str "devices"), (.str "change_type", .str "MODIFIED")]]
  else changes

def changesOfSetting (persisted candidate : PyDict) (key : String) : List PyValue :=
  if key = "config_schema_version" then []
  else if key = "devices" then
    deviceChanges (persisted.getD "devices").asList (candidate.getD "devices").asList
  else if (persisted.getD key).pyEq (candidate.getD key) then []
  else [.dict [(.str "setting", .str key), (.str "original_value", persisted.getD key),
    (.str "new_value", candidate.getD key)]]

/-- What a write changed, in the order of the settings. -/
def changesSummary (persisted candidate : PyDict) : PyValue :=
  .list ((sortedSet persisted.keys).flatMap (changesOfSetting persisted candidate))

/-- The result of `begin_write`. -/
structure WriteResult where
  classification : Classification
  changes : PyValue

/-- `begin_write` with the summary it returns beside the classification. -/
def beginWriteResult (rules : ConfigRules) (candidate : PyValue) : FsProg WriteResult := do
  let _ ← Proc.ofExcept ((rules.validateConfig candidate).mapError ConfigFailure.raised)
  let persisted ← loadConfig rules .persisted .config
  let changes := changesSummary persisted.asDict candidate.asDict
  if candidate.pyEq persisted then pure ⟨.unchanged, changes⟩
  else do
    let classification ← writeChanged rules candidate
    pure ⟨classification, changes⟩

theorem beginWriteResult_classification (rules : ConfigRules) (candidate : PyValue) :
    (do let result ← beginWriteResult rules candidate
        pure result.classification) = beginWrite rules candidate := by
  unfold beginWriteResult beginWrite
  simp only [Proc.bind_eq, Proc.bind_assoc]
  congr 1
  funext _
  congr 1
  funext persisted
  by_cases h : candidate.pyEq persisted = true
  · simp [h, Proc.pure_eq]
  · simp only [h, Bool.false_eq_true, if_false, Proc.bind_assoc, Proc.pure_eq, Proc.bind_ret]
    exact Proc.bind_ret_right _

end PicoDualCore
