import PicoDualCore.AtomicProgram
import PicoDualCore.ConfigValidation
import PicoDualCore.Json
set_option autoImplicit false

/-!
The configuration manager: four artifacts in one directory, the write transaction that
promotes a candidate and the boot recovery that settles an interrupted one. Every file-system
operation is one atomic step, so a power loss falls between two of them, or between two
characters of the streamed candidate.
-/

namespace PicoDualCore
open AtomicProgram

/-- What the manager uses of `json` and of the configuration rules: validation returns the
configuration it was given, which is a JSON object. -/
structure ConfigRules where
  dumps : PyValue → List Char
  loads : List Char → Except String PyValue
  validateConfig : PyValue → ConfigCheck PyValue
  validated : ∀ c v, validateConfig c = .ok v → v = c ∧ c.isDict = true

/-- The rules of the firmware. -/
def firmwareRules : ConfigRules where
  dumps := Json.dumps
  loads := Json.loads
  validateConfig := validateConfig
  validated := fun _ _ h => validateConfig_ok h

inductive Artifact where
  | config
  | tmp
  | old
  | cleanup
  deriving DecidableEq, Repr

def Artifact.path : Artifact → String
  | .config => "config.json"
  | .tmp => "config.json.tmp"
  | .old => "config.json.old"
  | .cleanup => "config.json.cleanup"

structure Dir where
  config : Option (List Char)
  tmp : Option (List Char)
  old : Option (List Char)
  cleanup : Option (List Char)
  deriving DecidableEq, Repr

def Dir.get (d : Dir) : Artifact → Option (List Char)
  | .config => d.config
  | .tmp => d.tmp
  | .old => d.old
  | .cleanup => d.cleanup

def Dir.put (d : Dir) (a : Artifact) (content : Option (List Char)) : Dir :=
  match a with
  | .config => { d with config := content }
  | .tmp => { d with tmp := content }
  | .old => { d with old := content }
  | .cleanup => { d with cleanup := content }

/-- The steady state: `config.json` alone. -/
def Dir.settled (content : List Char) : Dir := ⟨some content, none, none, none⟩

inductive FsOp where
  | stat (a : Artifact)
  | read (a : Artifact)
  | openWrite (a : Artifact)
  | write (a : Artifact) (position : Nat) (c : Char)
  | close (a : Artifact)
  | remove (a : Artifact)
  | rename (source target : Artifact)
  | sync
  deriving DecidableEq, Repr

/-- The stretch of the source an operation belongs to; recovery numbers its statements. -/
inductive Phase where
  | persisted
  | stage
  | promote
  | commit
  | cleanup
  | restore
  | recovery (statement : Nat)
  deriving DecidableEq, Repr

inductive FsError where
  | memory
  | os (errno : Nat)
  | config (e : ConfigError)
  | python (e : PyError)
  deriving Repr

def ConfigFailure.raised : ConfigFailure → FsError
  | .config e => .config e
  | .python e => .python e

inductive Fault where
  | memory
  | io
  deriving DecidableEq, Repr

def ENOENT : Nat := 2
def EIO : Nat := 5

def osErrorText (errno : Nat) : String :=
  if errno = ENOENT then "[Errno 2] ENOENT" else s!"[Errno {errno}] EIO"

def Fault.error : Fault → FsError
  | .memory => .memory
  | .io => .os EIO

/-- Which operations fail; an injected fault is never `ENOENT`, which only absence reports. -/
abbrev FaultPlan := Phase → FsOp → Option Fault

def FaultPlan.none : FaultPlan := fun _ _ => Option.none

@[simp] theorem FaultPlan.none_apply (ph : Phase) (op : FsOp) :
    FaultPlan.none ph op = Option.none := rfl

/-- The files, the in-boot flag, and a record of the renames that completed, in order. -/
structure FsState where
  dir : Dir
  rebootRequired : Bool
  renames : List (Artifact × Artifact)
  deriving DecidableEq, Repr

abbrev FsProg (α : Type) := Proc FsState FaultPlan FsError α

def FsOp.apply (op : FsOp) (d : Dir) : Except Nat Dir :=
  match op with
  | .stat a | .read a => if (d.get a).isSome then .ok d else .error ENOENT
  | .openWrite a => .ok (d.put a (some []))
  | .write a _ c => .ok (d.put a ((d.get a).map (· ++ [c])))
  | .close _ | .sync => .ok d
  | .remove a => if (d.get a).isSome then .ok (d.put a Option.none) else .error ENOENT
  | .rename a b =>
    if (d.get a).isSome then .ok ((d.put b (d.get a)).put a Option.none) else .error ENOENT

def FsOp.renamed : FsOp → List (Artifact × Artifact)
  | .rename a b => [(a, b)]
  | _ => []

def FsOp.attempt (ph : Phase) (op : FsOp) (s : FsState) (plan : FaultPlan) :
    Except FsError Unit × FsState :=
  match plan ph op with
  | some f => (.error f.error, s)
  | Option.none => match op.apply s.dir with
    | .ok d => (.ok (), { s with dir := d, renames := s.renames ++ op.renamed })
    | .error errno => (.error (.os errno), s)

def perform (ph : Phase) (op : FsOp) : FsProg Unit := .atomic (op.attempt ph)

def readFile (ph : Phase) (a : Artifact) : FsProg (List Char) :=
  .atomic (fun s plan => match (FsOp.read a).attempt ph s plan with
    | (.ok _, t) => (.ok ((s.dir.get a).getD []), t)
    | (.error e, t) => (.error e, t))

def pathExists (ph : Phase) (a : Artifact) : FsProg Bool :=
  ((perform ph (.stat a)).bind (fun _ => pure true)).handle (fun err => match err with
    | .os errno => if errno = ENOENT then pure false else throw (.os errno)
    | err => throw err)

def removeIfExists (ph : Phase) (a : Artifact) : FsProg Unit := do
  if ← pathExists ph a then
    perform ph (.remove a)

/-- `_read_json` and its rewrapping: an unreadable file is a `ConfigError`. -/
def readJson (rules : ConfigRules) (ph : Phase) (a : Artifact) : FsProg PyValue := do
  let text ← (readFile ph a).handle (fun err => match err with
    | .os errno => throw (.config
        { message := s!"Unable to read {a.path}: {osErrorText errno}", code := "unreadable_file" })
    | err => throw err)
  match rules.loads text with
  | .error err => throw (.config
      { message := s!"Unable to read {a.path}: {err}", code := "unreadable_file" })
  | .ok value =>
    if value.isDict then pure value
    else throw (.config
      { message := s!"{a.path} must contain a JSON object", code := "unreadable_file" })

def loadConfig (rules : ConfigRules) (ph : Phase) (a : Artifact) : FsProg PyValue := do
  let config ← readJson rules ph a
  .ofExcept ((rules.validateConfig config).mapError ConfigFailure.raised)

/-- `invalid` maps the artifacts that failed to load to their reasons, latest first. -/
def tryLoad (rules : ConfigRules) (ph : Phase) (a : Artifact)
    (invalid : List (Artifact × ConfigError)) :
    FsProg (Option PyValue × List (Artifact × ConfigError)) :=
  ((loadConfig rules ph a).bind (fun config => pure (some config, invalid))).handle
    (fun err => match err with
      | .config e => pure (none, (a, e) :: invalid)
      | err => throw err)

def noValidConfiguration (invalid : List (Artifact × ConfigError)) : ConfigError :=
  match [Artifact.config, .old, .cleanup, .tmp].findSome?
      (fun a => (invalid.lookup a).map (fun e => (a, e))) with
  | some (a, e) =>
    { message := s!"No valid configuration found: {a.path} is invalid: {e.message}"
      code := "unreadable_file" }
  | none =>
    { message := s!"No valid configuration found: {Artifact.config.path} and its .old/.tmp/.cleanup recovery artifacts are all missing"
      code := "unreadable_file" }

/-- The branch of a present `.cleanup`; `none` falls through to the next artifact. -/
def recoverFromCleanup (rules : ConfigRules) (invalid : List (Artifact × ConfigError)) :
    FsProg (Option PyValue × List (Artifact × ConfigError)) := do
  let (config, invalid) ← tryLoad rules (.recovery 1) .config invalid
  match config with
  | some config =>
    removeIfExists (.recovery 2) .cleanup
    removeIfExists (.recovery 3) .old
    removeIfExists (.recovery 4) .tmp
    perform (.recovery 5) .sync
    pure (some config, invalid)
  | none =>
    let (config, invalid) ← tryLoad rules (.recovery 6) .cleanup invalid
    match config with
    | some config =>
      if ← pathExists (.recovery 7) .config then
        perform (.recovery 7) (.remove .config)
      perform (.recovery 8) (.rename .cleanup .config)
      removeIfExists (.recovery 9) .old
      removeIfExists (.recovery 10) .tmp
      perform (.recovery 11) .sync
      pure (some config, invalid)
    | none => pure (none, invalid)

def recoverFromOld (rules : ConfigRules) (invalid : List (Artifact × ConfigError)) :
    FsProg (Option PyValue × List (Artifact × ConfigError)) := do
  let (config, invalid) ← tryLoad rules (.recovery 13) .old invalid
  match config with
  | some config =>
    if ← pathExists (.recovery 14) .config then
      perform (.recovery 14) (.remove .config)
    perform (.recovery 15) (.rename .old .config)
    removeIfExists (.recovery 16) .tmp
    perform (.recovery 17) .sync
    pure (some config, invalid)
  | none => pure (none, invalid)

def recoverFromConfig (rules : ConfigRules) (invalid : List (Artifact × ConfigError)) :
    FsProg (Option PyValue × List (Artifact × ConfigError)) := do
  let (config, invalid) ← tryLoad rules (.recovery 19) .config invalid
  match config with
  | some config =>
    removeIfExists (.recovery 20) .old
    removeIfExists (.recovery 21) .tmp
    perform (.recovery 22) .sync
    pure (some config, invalid)
  | none => pure (none, invalid)

def recoverFromTmp (rules : ConfigRules) (invalid : List (Artifact × ConfigError)) :
    FsProg (Option PyValue × List (Artifact × ConfigError)) := do
  let (config, invalid) ← tryLoad rules (.recovery 24) .tmp invalid
  match config with
  | some config =>
    perform (.recovery 25) (.rename .tmp .config)
    removeIfExists (.recovery 26) .old
    removeIfExists (.recovery 27) .cleanup
    perform (.recovery 28) .sync
    pure (some config, invalid)
  | none => pure (none, invalid)

/-- One guarded branch of `recover`: taken when its artifact exists and no earlier one returned. -/
def recoverBranch (ph : Phase) (a : Artifact)
    (branch : List (Artifact × ConfigError) →
      FsProg (Option PyValue × List (Artifact × ConfigError)))
    (sofar : Option PyValue × List (Artifact × ConfigError)) :
    FsProg (Option PyValue × List (Artifact × ConfigError)) :=
  match sofar with
  | (some config, invalid) => pure (some config, invalid)
  | (none, invalid) => do
    if ← pathExists ph a then branch invalid else pure (none, invalid)

def recover (rules : ConfigRules) : FsProg PyValue := do
  let sofar ← recoverBranch (.recovery 0) .cleanup (recoverFromCleanup rules) (none, [])
  let sofar ← recoverBranch (.recovery 12) .old (recoverFromOld rules) sofar
  let sofar ← recoverBranch (.recovery 18) .config (recoverFromConfig rules) sofar
  let sofar ← recoverBranch (.recovery 23) .tmp (recoverFromTmp rules) sofar
  match sofar with
  | (some config, _) => pure config
  | (none, invalid) => throw (.config (noValidConfiguration invalid))

def readPersisted (rules : ConfigRules) : FsProg PyValue := loadConfig rules .persisted .config

/-- The artifact `_restore_committed` restores from. -/
def backupPath : FsProg (Option Artifact) := do
  if ← pathExists .restore .old then
    return some .old
  if ← pathExists .restore .cleanup then
    return some .cleanup
  return none

def putBack : Option Artifact → FsProg Unit
  | some backup => do
    removeIfExists .restore .config
    perform .restore (.rename backup .config)
  | none => pure ()

def restoreCommitted : FsProg Unit := do
  putBack (← backupPath)
  removeIfExists .restore .tmp
  perform .restore .sync

def tryRestore : FsProg Unit :=
  restoreCommitted.handle (fun err => match err with
    | .os _ => pure ()
    | err => throw err)

/-- `json.dump` streams the text into the open file, character by character. -/
def streamInto (a : Artifact) : Nat → List Char → FsProg Unit
  | _, [] => pure ()
  | k, c :: rest => do
    perform .stage (.write a k c)
    streamInto a (k + 1) rest

def writeCandidateTmp (rules : ConfigRules) (candidate : PyValue) : FsProg Unit := do
  perform .stage (.openWrite .tmp)
  (streamInto .tmp 0 (rules.dumps candidate)).finish (perform .stage (.close .tmp))

/-- The body of the `try` in `begin_write`, up to the synced commit rename. -/
def promoteCandidate (rules : ConfigRules) (candidate : PyValue) : FsProg Unit := do
  writeCandidateTmp rules candidate
  let _ ← loadConfig rules .stage .tmp
  perform .promote (.rename .config .old)
  perform .promote (.rename .tmp .config)
  perform .promote .sync
  perform .commit (.rename .old .cleanup)
  perform .commit .sync

inductive Classification where
  | unchanged
  | rebootRequired
  deriving DecidableEq, Repr

def markRebootRequired : FsProg Unit :=
  .atomic (fun s _ => (.ok (), { s with rebootRequired := true }))

def releaseCleanup : FsProg Unit :=
  (do removeIfExists .cleanup .cleanup
      perform .cleanup .sync : FsProg Unit).handle (fun err => match err with
    | .os _ => pure ()
    | err => throw err)

/-- The `except` clauses around the promotion: an allocation failure leaves the artifacts to the
next boot, a storage or configuration failure is restored and reported. -/
def failedPromotion (err : FsError) : FsProg Unit :=
  match err with
  | .memory => throw .memory
  | .os errno => do
    tryRestore
    throw (.config { message := s!"Failed to persist configuration: {osErrorText errno}"
                     code := "storage_error" })
  | .config e => do
    tryRestore
    throw (.config e)
  | .python e => throw (.python e)

/-- The rest of `begin_write` for a candidate that differs. -/
def writeChanged (rules : ConfigRules) (candidate : PyValue) : FsProg Classification := do
  (promoteCandidate rules candidate).handle failedPromotion
  markRebootRequired
  releaseCleanup
  pure .rebootRequired

def beginWrite (rules : ConfigRules) (candidate : PyValue) : FsProg Classification := do
  let _ ← Proc.ofExcept ((rules.validateConfig candidate).mapError ConfigFailure.raised)
  let persisted ← loadConfig rules .persisted .config
  if candidate.pyEq persisted then pure .unchanged else writeChanged rules candidate

end PicoDualCore
