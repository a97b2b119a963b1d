import Mathlib.Tactic.ByContra
import PicoDualCore.ConfigStore
import PicoDualCore.JsonRoundTrip
set_option autoImplicit false

/-! Boot recovery: what it settles on, and what a power loss inside it can change. -/

namespace PicoDualCore
open AtomicProgram

/-- The text of an artifact as a validated configuration, or why it is none. -/
def decodeConfig (rules : ConfigRules) (a : Artifact) (text : List Char) :
    ConfigCheck PyValue :=
  match rules.loads text with
  | .error err => .error (.config
      { message := s!"Unable to read {a.path}: {err}", code := "unreadable_file" })
  | .ok value =>
    if value.isDict then rules.validateConfig value
    else .error (.config
      { message := s!"{a.path} must contain a JSON object", code := "unreadable_file" })

def Dir.load (rules : ConfigRules) (d : Dir) (a : Artifact) : ConfigCheck PyValue :=
  match d.get a with
  | none => .error (.config
      { message := s!"Unable to read {a.path}: {osErrorText ENOENT}", code := "unreadable_file" })
  | some text => decodeConfig rules a text

section Primitives

variable {plan : FaultPlan} {I : FsState → Prop} {X : FsError → FsState → Prop} {s : FsState}
  {ph : Phase} {a : Artifact}

def FsState.remove (s : FsState) (a : Artifact) : FsState := { s with dir := s.dir.put a none }

def FsState.rename (s : FsState) (a b : Artifact) : FsState :=
  { s with dir := (s.dir.put b (s.dir.get a)).put a none, renames := s.renames ++ [(a, b)] }

theorem alone_perform {Q : Unit → FsState → Prop} {op : FsOp} :
    (perform ph op).alone plan I Q X s ↔
      match plan ph op with
      | some f => I s ∧ X f.error s
      | none => match op.apply s.dir with
        | .ok d =>
          I { s with dir := d, renames := s.renames ++ op.renamed } ∧
          Q () { s with dir := d, renames := s.renames ++ op.renamed }
        | .error errno => I s ∧ X (.os errno) s := by
  unfold perform
  rw [Proc.alone_atomic]
  cases hp : plan ph op with
  | some f => simp [FsOp.attempt, hp]
  | none => cases hop : op.apply s.dir <;> simp [FsOp.attempt, hp, hop]

theorem alone_sync {Q : Unit → FsState → Prop} (hp : plan ph .sync = none) :
    (perform ph .sync).alone plan I Q X s ↔ I s ∧ Q () s := by
  simp [alone_perform, hp, FsOp.apply, FsOp.renamed]

theorem alone_remove {Q : Unit → FsState → Prop} (hp : plan ph (.remove a) = none)
    (h : (s.dir.get a).isSome) :
    (perform ph (.remove a)).alone plan I Q X s ↔ I (s.remove a) ∧ Q () (s.remove a) := by
  simp [alone_perform, hp, FsOp.apply, FsOp.renamed, h, FsState.remove]

theorem alone_rename {Q : Unit → FsState → Prop} {b : Artifact}
    (hp : plan ph (.rename a b) = none) (h : (s.dir.get a).isSome) :
    (perform ph (.rename a b)).alone plan I Q X s ↔
      I (s.rename a b) ∧ Q () (s.rename a b) := by
  simp [alone_perform, hp, FsOp.apply, FsOp.renamed, h, FsState.rename]

theorem alone_pathExists {Q : Bool → FsState → Prop} (hp : plan ph (.stat a) = none) :
    (pathExists ph a).alone plan I Q X s ↔ I s ∧ Q (s.dir.get a).isSome s := by
  unfold pathExists
  cases h : s.dir.get a <;>
    simp [alone_perform, hp, FsOp.apply, FsOp.renamed, h]

theorem Dir.put_get_none {d : Dir} (h : d.get a = none) : d.put a none = d := by
  cases a <;> cases d <;> simp_all [Dir.get, Dir.put]

/-- Removing an absent artifact changes nothing, so the two cases read alike. -/
theorem alone_removeIfExists {Q : Unit → FsState → Prop}
    (hs : plan ph (.stat a) = none) (hr : plan ph (.remove a) = none) :
    (removeIfExists ph a).alone plan I Q X s ↔
      I s ∧ I (s.remove a) ∧ Q () (s.remove a) := by
  unfold removeIfExists
  cases h : s.dir.get a with
  | none => simp [alone_pathExists hs, h, FsState.remove, Dir.put_get_none h]
  | some text =>
    have hsome : (s.dir.get a).isSome := by simp [h]
    simp [alone_pathExists hs, h, alone_remove hr hsome]

theorem alone_readFile {Q : List Char → FsState → Prop} (hp : plan ph (.read a) = none) :
    (readFile ph a).alone plan I Q X s ↔ I s ∧
      match s.dir.get a with
      | some text => Q text s
      | none => X (.os ENOENT) s := by
  unfold readFile
  rw [Proc.alone_atomic]
  cases h : s.dir.get a <;>
    simp [FsOp.attempt, hp, FsOp.apply, FsOp.renamed, h]

theorem alone_loadConfig {rules : ConfigRules} {Q : PyValue → FsState → Prop}
    (hp : plan ph (.read a) = none) :
    (loadConfig rules ph a).alone plan I Q X s ↔ I s ∧
      match s.dir.load rules a with
      | .ok config => Q config s
      | .error e => X e.raised s := by
  unfold loadConfig readJson Dir.load decodeConfig
  cases h : s.dir.get a with
  | none => simp [alone_readFile hp, h, ENOENT, ConfigFailure.raised]
  | some text =>
    simp only [Proc.alone_seq, Proc.alone_handle, alone_readFile hp, h]
    cases hl : rules.loads text with
    | error err => simp [ConfigFailure.raised]
    | ok value =>
      by_cases hd : value.isDict
      · cases hv : rules.validateConfig value <;> simp [hd, hv, Except.mapError]
      · simp [hd, ConfigFailure.raised]

theorem alone_tryLoad {rules : ConfigRules} {invalid : List (Artifact × ConfigError)}
    {Q : Option PyValue × List (Artifact × ConfigError) → FsState → Prop}
    (hp : plan ph (.read a) = none) :
    (tryLoad rules ph a invalid).alone plan I Q X s ↔ I s ∧
      match s.dir.load rules a with
      | .ok config => Q (some config, invalid) s
      | .error (.config e) => Q (none, (a, e) :: invalid) s
      | .error (.python e) => X (.python e) s := by
  unfold tryLoad
  rcases h : s.dir.load rules a with (e | e) | config <;>
    simp [alone_loadConfig hp, h, ConfigFailure.raised]

theorem fair_remove {Q : Unit → FsState → Prop} (h : (s.dir.get a).isSome) :
    (perform ph (.remove a)).alone FaultPlan.none I Q X s ↔ I (s.remove a) ∧ Q () (s.remove a) :=
  alone_remove rfl h

theorem fair_rename {Q : Unit → FsState → Prop} {b : Artifact} (h : (s.dir.get a).isSome) :
    (perform ph (.rename a b)).alone FaultPlan.none I Q X s ↔
      I (s.rename a b) ∧ Q () (s.rename a b) :=
  alone_rename rfl h

@[simp] theorem fair_sync {Q : Unit → FsState → Prop} :
    (perform ph .sync).alone FaultPlan.none I Q X s ↔ I s ∧ Q () s :=
  alone_sync rfl

@[simp] theorem fair_pathExists {Q : Bool → FsState → Prop} :
    (pathExists ph a).alone FaultPlan.none I Q X s ↔ I s ∧ Q (s.dir.get a).isSome s :=
  alone_pathExists rfl

@[simp] theorem fair_removeIfExists {Q : Unit → FsState → Prop} :
    (removeIfExists ph a).alone FaultPlan.none I Q X s ↔
      I s ∧ I (s.remove a) ∧ Q () (s.remove a) :=
  alone_removeIfExists rfl rfl

@[simp] theorem fair_loadConfig {rules : ConfigRules} {Q : PyValue → FsState → Prop} :
    (loadConfig rules ph a).alone FaultPlan.none I Q X s ↔ I s ∧
      match s.dir.load rules a with
      | .ok config => Q config s
      | .error e => X e.raised s :=
  alone_loadConfig rfl

@[simp] theorem fair_tryLoad {rules : ConfigRules} {invalid : List (Artifact × ConfigError)}
    {Q : Option PyValue × List (Artifact × ConfigError) → FsState → Prop} :
    (tryLoad rules ph a invalid).alone FaultPlan.none I Q X s ↔ I s ∧
      match s.dir.load rules a with
      | .ok config => Q (some config, invalid) s
      | .error (.config e) => Q (none, (a, e) :: invalid) s
      | .error (.python e) => X (.python e) s :=
  alone_tryLoad rfl

end Primitives

section Branches

variable {rules : ConfigRules} {I : FsState → Prop} {Q : PyValue → FsState → Prop}
  {X : FsError → FsState → Prop} {s : FsState} {v : PyValue}

theorem Dir.get_of_load {d : Dir} {a : Artifact} (h : d.load rules a = .ok v) :
    (d.get a).isSome := by
  unfold Dir.load at h
  split at h
  · cases h
  · rename_i text ht; simp [ht]

/-- A `.cleanup` beside a valid `config.json`: the committed steady state. -/
theorem recover_committed (hk : (s.dir.get .cleanup).isSome)
    (hc : s.dir.load rules .config = .ok v) :
    (recover rules).alone FaultPlan.none I Q X s ↔
      I s ∧ I (s.remove .cleanup) ∧ I ((s.remove .cleanup).remove .old) ∧
      I (((s.remove .cleanup).remove .old).remove .tmp) ∧
      Q v (((s.remove .cleanup).remove .old).remove .tmp) := by
  simp [recover, recoverBranch, recoverFromCleanup, hk, hc]

/-- No committed `config.json`, but its predecessor inside `.cleanup`. -/
theorem recover_predecessor {e : ConfigError} (hc : s.dir.load rules .config = .error (.config e))
    (hk : s.dir.load rules .cleanup = .ok v) :
    (recover rules).alone FaultPlan.none I Q X s ↔
      I s ∧ I (s.remove .config) ∧ I ((s.remove .config).rename .cleanup .config) ∧
      I (((s.remove .config).rename .cleanup .config).remove .old) ∧
      I ((((s.remove .config).rename .cleanup .config).remove .old).remove .tmp) ∧
      Q v ((((s.remove .config).rename .cleanup .config).remove .old).remove .tmp) := by
  have hk' := Dir.get_of_load hk
  have hk'' : ((s.remove .config).dir.get .cleanup).isSome := hk'
  cases h : s.dir.get .config with
  | none =>
    have hs : s.remove .config = s := by simp [FsState.remove, Dir.put_get_none h]
    rw [hs] at hk'' ⊢
    simp [recover, recoverBranch, recoverFromCleanup, hk, hk', hc, h, fair_rename hk'']
  | some text =>
    have hr : (s.dir.get .config).isSome := by simp [h]
    simp [recover, recoverBranch, recoverFromCleanup, hk, hk', hc, h, fair_rename hk'',
      fair_remove hr]

def Dir.Invalid (rules : ConfigRules) (d : Dir) (a : Artifact) : Prop :=
  ∃ e, d.load rules a = .error (.config e)

/-- The `.cleanup` branch does not return: nothing there, or nothing usable. -/
def Dir.NoCommit (rules : ConfigRules) (d : Dir) : Prop :=
  d.get .cleanup = none ∨ (d.Invalid rules .config ∧ d.Invalid rules .cleanup)

theorem recover_old (hn : s.dir.NoCommit rules) (ho : s.dir.load rules .old = .ok v) :
    (recover rules).alone FaultPlan.none I Q X s ↔
      I s ∧ I (s.remove .config) ∧ I ((s.remove .config).rename .old .config) ∧
      I (((s.remove .config).rename .old .config).remove .tmp) ∧
      Q v (((s.remove .config).rename .old .config).remove .tmp) := by
  have ho' := Dir.get_of_load ho
  have ho'' : ((s.remove .config).dir.get .old).isSome := ho'
  cases h : s.dir.get .config with
  | none =>
    have hs : s.remove .config = s := by simp [FsState.remove, Dir.put_get_none h]
    rw [hs] at ho'' ⊢
    rcases hn with hk | ⟨⟨e, hc⟩, ⟨e', hk⟩⟩
    · simp [recover, recoverBranch, recoverFromOld, hk, ho, ho', h, fair_rename ho'']
    · cases hkk : s.dir.get .cleanup <;>
        simp [recover, recoverBranch, recoverFromCleanup, recoverFromOld, hk, hkk, hc, ho, ho', h,
          fair_rename ho'']
  | some text =>
    have hr : (s.dir.get .config).isSome := by simp [h]
    rcases hn with hk | ⟨⟨e, hc⟩, ⟨e', hk⟩⟩
    · simp [recover, recoverBranch, recoverFromOld, hk, ho, ho', h, fair_rename ho'',
        fair_remove hr]
    · cases hkk : s.dir.get .cleanup <;>
        simp [recover, recoverBranch, recoverFromCleanup, recoverFromOld, hk, hkk, hc, ho, ho', h,
          fair_rename ho'', fair_remove hr]

theorem recover_config (hk : s.dir.get .cleanup = none) (ho : s.dir.Invalid rules .old)
    (hc : s.dir.load rules .config = .ok v) :
    (recover rules).alone FaultPlan.none I Q X s ↔
      I s ∧ I (s.remove .old) ∧ I ((s.remove .old).remove .tmp) ∧
      Q v ((s.remove .old).remove .tmp) := by
  obtain ⟨e, ho⟩ := ho
  have hc' := Dir.get_of_load hc
  cases h : s.dir.get .old <;>
    simp [recover, recoverBranch, recoverFromOld, recoverFromConfig, hk, ho, hc, hc', h]

theorem recover_tmp (hk : s.dir.Invalid rules .cleanup) (ho : s.dir.Invalid rules .old)
    (hc : s.dir.Invalid rules .config) (ht : s.dir.load rules .tmp = .ok v) :
    (recover rules).alone FaultPlan.none I Q X s ↔
      I s ∧ I (s.rename .tmp .config) ∧ I ((s.rename .tmp .config).remove .old) ∧
      I (((s.rename .tmp .config).remove .old).remove .cleanup) ∧
      Q v (((s.rename .tmp .config).remove .old).remove .cleanup) := by
  obtain ⟨ek, hk⟩ := hk
  obtain ⟨eo, ho⟩ := ho
  obtain ⟨ec, hc⟩ := hc
  have ht' := Dir.get_of_load ht
  cases h : s.dir.get .old <;> cases h' : s.dir.get .config <;> cases h'' : s.dir.get .cleanup <;>
    simp [recover, recoverBranch, recoverFromCleanup, recoverFromOld, recoverFromConfig,
      recoverFromTmp, hk, ho, hc, ht, ht', h, h', h'', fair_rename ht']

/-- Recovery that finds nothing valid fails without having touched a file. -/
theorem recover_fails (h : ∀ a, s.dir.Invalid rules a) (hI : I s) :
    (recover rules).alone FaultPlan.none I Q (fun err t => t = s ∧ ∃ e, err = .config e) s := by
  obtain ⟨ek, hk⟩ := h .cleanup
  obtain ⟨eo, ho⟩ := h .old
  obtain ⟨ec, hc⟩ := h .config
  obtain ⟨et, ht⟩ := h .tmp
  cases h1 : s.dir.get .old <;> cases h2 : s.dir.get .config <;>
    cases h3 : s.dir.get .cleanup <;> cases h4 : s.dir.get .tmp <;>
    simp [recover, recoverBranch, recoverFromCleanup, recoverFromOld, recoverFromConfig,
      recoverFromTmp, hk, ho, hc, ht, hI, h1, h2, h3, h4]

end Branches

/-- What loading a text settles, unless it is a `ConfigError`: a configuration, or an exception
of Python that escapes from `recover`. -/
abbrev Verdict := Except PyError PyValue

def validText (rules : ConfigRules) (text : List Char) : Option Verdict :=
  match decodeConfig rules .config text with
  | .ok v => some (.ok v)
  | .error (.config _) => none
  | .error (.python e) => some (.error e)

def Dir.value (rules : ConfigRules) (d : Dir) (a : Artifact) : Option Verdict :=
  (d.get a).bind (validText rules)

/-- A `.cleanup` marks the last write as committed, and then `config.json` comes first;
otherwise an `.old` is the rollback journal and comes first. -/
def Dir.order (d : Dir) : List Artifact :=
  if (d.get .cleanup).isSome then [.config, .cleanup, .old, .tmp] else [.old, .config, .tmp]

def Dir.choice (rules : ConfigRules) (d : Dir) : Option Verdict :=
  d.order.findSome? (d.value rules)

/-- The directory a boot finds: files survive, the in-boot flag does not. -/
def boot (d : Dir) : FsState := ⟨d, false, []⟩

def recovery (rules : ConfigRules) (d : Dir) : Proc.Outcome FsError PyValue × FsState :=
  (recover rules).run FaultPlan.none (boot d)

def Verdict.loaded : Verdict → ConfigCheck PyValue
  | .ok v => .ok v
  | .error e => .error (.python e)

section Choice

variable {rules : ConfigRules} {d : Dir} {a b : Artifact} {v : PyValue} {r : Verdict}

theorem decodeConfig_loaded {text : List Char} :
    decodeConfig rules a text = r.loaded ↔ decodeConfig rules b text = r.loaded := by
  unfold decodeConfig
  cases rules.loads text with
  | error err => cases r <;> simp [Verdict.loaded]
  | ok value => by_cases h : value.isDict <;> cases r <;> simp [h, Verdict.loaded]

theorem validText_eq_some {text : List Char} :
    validText rules text = some r ↔ decodeConfig rules a text = r.loaded := by
  rw [decodeConfig_loaded (b := .config)]
  unfold validText
  rcases decodeConfig rules .config text with (e | e) | v <;> cases r <;> simp [Verdict.loaded]

theorem Dir.value_eq_some : d.value rules a = some r ↔ d.load rules a = r.loaded := by
  unfold Dir.value Dir.load
  cases d.get a with
  | none => cases r <;> simp [Verdict.loaded]
  | some text => simpa using validText_eq_some

theorem Dir.value_eq_none : d.value rules a = none ↔ d.Invalid rules a := by
  constructor
  · intro h
    rcases hl : d.load rules a with (e | e) | v
    · exact ⟨e, hl⟩
    · rw [Dir.value_eq_some (r := .error e) |>.mpr hl] at h; cases h
    · rw [Dir.value_eq_some (r := .ok v) |>.mpr hl] at h; cases h
  · rintro ⟨e, he⟩
    cases h : d.value rules a with
    | none => rfl
    | some r => rw [Dir.value_eq_some.mp h] at he; cases r <;> cases he

@[simp] theorem Dir.get_put {x : Option (List Char)} :
    (d.put a x).get b = if b = a then x else d.get b := by
  cases a <;> cases b <;> rfl

@[simp] theorem Dir.value_put {x : Option (List Char)} :
    (d.put a x).value rules b = if b = a then x.bind (validText rules) else d.value rules b := by
  unfold Dir.value
  rw [Dir.get_put]
  split <;> rfl

theorem Dir.isSome_of_value (h : d.value rules a = some r) : (d.get a).isSome := by
  unfold Dir.value at h
  cases hg : d.get a with
  | none => rw [hg] at h; cases h
  | some text => rfl

theorem Dir.value_of_get {text : List Char} (h : d.get a = some text) :
    d.value rules a = validText rules text := by
  simp [Dir.value, h]

theorem Dir.value_of_absent (h : d.get a = none) : d.value rules a = none := by
  simp [Dir.value, h]

@[simp] theorem Dir.get_bind_validText : (d.get a).bind (validText rules) = d.value rules a := rfl

inductive Dir.Branch (rules : ConfigRules) (d : Dir) (r : Verdict) : Prop where
  | committed (hk : (d.get .cleanup).isSome) (hc : d.value rules .config = some r)
  | predecessor (hc : d.value rules .config = none) (hk : d.value rules .cleanup = some r)
  | old (hn : d.get .cleanup = none ∨ (d.value rules .config = none ∧ d.value rules .cleanup = none))
      (ho : d.value rules .old = some r)
  | config (hk : d.get .cleanup = none) (ho : d.value rules .old = none)
      (hc : d.value rules .config = some r)
  | tmp (hk : d.value rules .cleanup = none) (ho : d.value rules .old = none)
      (hc : d.value rules .config = none) (ht : d.value rules .tmp = some r)

theorem Dir.branch_of_choice (h : d.choice rules = some r) : d.Branch rules r := by
  unfold Dir.choice Dir.order at h
  cases hk : d.get .cleanup with
  | none =>
    have hkv : d.value rules .cleanup = none := Dir.value_of_absent hk
    simp only [hk, Option.isSome_none, Bool.false_eq_true, if_false, List.findSome?] at h
    cases ho : d.value rules .old with
    | some w =>
      simp only [ho, Option.some.injEq] at h
      subst h
      exact .old (.inl hk) ho
    | none =>
      cases hc : d.value rules .config with
      | some w =>
        simp only [ho, hc, Option.some.injEq] at h
        subst h
        exact .config hk ho hc
      | none =>
        cases ht : d.value rules .tmp with
        | some w =>
          simp only [ho, hc, ht, Option.some.injEq] at h
          subst h
          exact .tmp hkv ho hc ht
        | none => simp [ho, hc, ht] at h
  | some text =>
    have hks : (d.get .cleanup).isSome := by simp [hk]
    simp only [hk, Option.isSome_some, if_true, List.findSome?] at h
    cases hc : d.value rules .config with
    | some w =>
      simp only [hc, Option.some.injEq] at h
      subst h
      exact .committed hks hc
    | none =>
      cases hkv : d.value rules .cleanup with
      | some w =>
        simp only [hc, hkv, Option.some.injEq] at h
        subst h
        exact .predecessor hc hkv
      | none =>
        cases ho : d.value rules .old with
        | some w =>
          simp only [hc, hkv, ho, Option.some.injEq] at h
          subst h
          exact .old (.inr ⟨hc, hkv⟩) ho
        | none =>
          cases ht : d.value rules .tmp with
          | some w =>
            simp only [hc, hkv, ho, ht, Option.some.injEq] at h
            subst h
            exact .tmp hkv ho hc ht
          | none => simp [hc, hkv, ho, ht] at h

/-- Recovery returns through the `.old` branch past an unusable `.cleanup` that it leaves behind. -/
def Dir.StrandsCleanup (rules : ConfigRules) (d : Dir) : Prop :=
  (d.get .cleanup).isSome ∧ d.value rules .cleanup = none ∧ d.value rules .config = none ∧
    ∃ v, d.value rules .old = some (.ok v)

/-- A `.cleanup` decides for a configuration while an `.old` would settle something else. -/
def Dir.OldDisagrees (rules : ConfigRules) (d : Dir) : Prop :=
  (d.get .cleanup).isSome ∧ ∃ v r, d.choice rules = some (.ok v) ∧
    (d.value rules .config = some (.ok v) ∨ d.value rules .cleanup = some (.ok v)) ∧
    d.value rules .old = some r ∧ r ≠ .ok v

/-- The artifact that decides makes validation itself raise, while another one is valid. -/
def Dir.Escapes (rules : ConfigRules) (d : Dir) : Prop :=
  (∃ e, d.choice rules = some (.error e)) ∧ ∃ a v, d.load rules a = .ok v

theorem recover_result (s : FsState) (h : s.dir.Branch rules (.ok v)) :
    (recover rules).alone FaultPlan.none (fun _ => True)
      (fun w t => w = v ∧ t.dir.value rules .config = some (.ok v) ∧ t.dir.get .tmp = none ∧
        t.dir.get .old = none ∧
        ((t.dir.get .cleanup).isSome ↔ s.dir.StrandsCleanup rules))
      (fun _ _ => False) s := by
  cases h with
  | committed hk hc =>
    rw [recover_committed hk (Dir.value_eq_some.mp hc)]
    simp [FsState.remove, hc, Dir.StrandsCleanup]
  | predecessor hc hk =>
    obtain ⟨e, he⟩ := Dir.value_eq_none.mp hc
    rw [recover_predecessor he (Dir.value_eq_some.mp hk)]
    simp [FsState.remove, FsState.rename, hk, Dir.StrandsCleanup]
  | old hn ho =>
    have hn' : s.dir.NoCommit rules :=
      hn.imp_right (fun ⟨hc, hk⟩ => ⟨Dir.value_eq_none.mp hc, Dir.value_eq_none.mp hk⟩)
    rw [recover_old hn' (Dir.value_eq_some.mp ho)]
    rcases hn with hk | ⟨hc, hk⟩
    · simp [FsState.remove, FsState.rename, ho, hk, Dir.StrandsCleanup]
    · simp [FsState.remove, FsState.rename, ho, hk, hc, Dir.StrandsCleanup]
  | config hk ho hc =>
    rw [recover_config hk (Dir.value_eq_none.mp ho) (Dir.value_eq_some.mp hc)]
    simp [FsState.remove, hc, hk, Dir.StrandsCleanup]
  | tmp hk ho hc ht =>
    rw [recover_tmp (Dir.value_eq_none.mp hk) (Dir.value_eq_none.mp ho) (Dir.value_eq_none.mp hc)
      (Dir.value_eq_some.mp ht)]
    simp [FsState.remove, FsState.rename, ht, ho, Dir.StrandsCleanup]

/-- An exception that is no `ConfigError` leaves recovery before any file is touched. -/
theorem recover_escapes {e : PyError} {I : FsState → Prop} {Q : PyValue → FsState → Prop}
    {s : FsState} (h : s.dir.Branch rules (.error e)) (hI : I s) :
    (recover rules).alone FaultPlan.none I Q (fun err t => t = s ∧ err = .python e) s := by
  cases h with
  | committed hk hc =>
    have hc' := Dir.value_eq_some.mp hc
    simp [recover, recoverBranch, recoverFromCleanup, hk, hc', Verdict.loaded, hI]
  | predecessor hc hk =>
    obtain ⟨e', hc'⟩ := Dir.value_eq_none.mp hc
    have hk' := Dir.value_eq_some.mp hk
    simp [recover, recoverBranch, recoverFromCleanup, Dir.isSome_of_value hk, hc', hk',
      Verdict.loaded, hI]
  | old hn ho =>
    have ho' := Dir.value_eq_some.mp ho
    rcases hn with hk | ⟨hc, hk⟩
    · simp [recover, recoverBranch, recoverFromOld, hk, Dir.isSome_of_value ho, ho',
        Verdict.loaded, hI]
    · obtain ⟨e', hc'⟩ := Dir.value_eq_none.mp hc
      obtain ⟨e'', hk'⟩ := Dir.value_eq_none.mp hk
      cases hg : s.dir.get .cleanup <;>
        simp [recover, recoverBranch, recoverFromCleanup, recoverFromOld, hg, hc', hk',
          Dir.isSome_of_value ho, ho', Verdict.loaded, hI]
  | config hk ho hc =>
    obtain ⟨e', ho'⟩ := Dir.value_eq_none.mp ho
    have hc' := Dir.value_eq_some.mp hc
    cases hg : s.dir.get .old <;>
      simp [recover, recoverBranch, recoverFromOld, recoverFromConfig, hk, hg, ho',
        Dir.isSome_of_value hc, hc', Verdict.loaded, hI]
  | tmp hk ho hc ht =>
    obtain ⟨ek, hk'⟩ := Dir.value_eq_none.mp hk
    obtain ⟨eo, ho'⟩ := Dir.value_eq_none.mp ho
    obtain ⟨ec, hc'⟩ := Dir.value_eq_none.mp hc
    have ht' := Dir.value_eq_some.mp ht
    cases h1 : s.dir.get .old <;> cases h2 : s.dir.get .config <;> cases h3 : s.dir.get .cleanup <;>
      simp [recover, recoverBranch, recoverFromCleanup, recoverFromOld, recoverFromConfig,
        recoverFromTmp, hk', ho', hc', ht', Dir.isSome_of_value ht, h1, h2, h3, Verdict.loaded, hI]

theorem Dir.choice_of_branch (h : d.Branch rules r) : d.choice rules = some r := by
  unfold Dir.choice Dir.order
  cases h with
  | committed hk hc => simp [hk, hc]
  | predecessor hc hk => simp [Dir.isSome_of_value hk, hc, hk]
  | old hn ho =>
    rcases hn with hk | ⟨hc, hk⟩
    · simp [hk, ho]
    · cases h : (d.get .cleanup).isSome <;> simp [hc, hk, ho]
  | config hk ho hc => simp [hk, ho, hc]
  | tmp hk ho hc ht => cases h : (d.get .cleanup).isSome <;> simp [hk, ho, hc, ht]

theorem Dir.choice_eq_none : d.choice rules = none ↔ ∀ a, d.Invalid rules a := by
  constructor
  · intro h a
    rw [← Dir.value_eq_none]
    have hkn : d.get .cleanup = none → d.value rules .cleanup = none := Dir.value_of_absent
    unfold Dir.choice Dir.order at h
    cases hk : d.get .cleanup <;> cases a <;> simp_all
  · intro h
    have h' : ∀ a, d.value rules a = none := fun a => Dir.value_eq_none.mpr (h a)
    unfold Dir.choice
    exact List.findSome?_eq_none_iff.mpr (fun a _ => h' a)

/-- Recovery ends as its order of preference chooses. -/
theorem recovery_outcome : match d.choice rules with
    | some (.ok v) => (recovery rules d).1 = .ret v
    | some (.error e) => (recovery rules d) = (.raise (.python e), boot d)
    | none => ∃ e, (recovery rules d) = (.raise (.config e), boot d) := by
  rcases hch : d.choice rules with _ | (e | v)
  · have h := Proc.alone_run (recover_fails (I := fun _ => True) (Q := fun _ _ => False)
      (s := boot d) (Dir.choice_eq_none.mp hch) trivial)
    rcases h with ⟨w, -, h⟩ | ⟨err, he, hs, e, rfl⟩
    · exact h.elim
    · exact ⟨e, Prod.ext he hs⟩
  · have h := Proc.alone_run (recover_escapes (I := fun _ => True) (Q := fun _ _ => False)
      (s := boot d) (d.branch_of_choice hch) trivial)
    rcases h with ⟨w, -, h⟩ | ⟨err, he, hs, rfl⟩
    · exact h.elim
    · exact Prod.ext he hs
  · have h := Proc.alone_run (recover_result (boot d) (d.branch_of_choice hch))
    rcases h with ⟨w, hw, rfl, -⟩ | ⟨e, -, h⟩
    · exact hw
    · exact h.elim

/-- Recovery returns exactly the configuration its order of preference chooses. -/
theorem recovery_ret_iff : (recovery rules d).1 = .ret v ↔ d.choice rules = some (.ok v) := by
  have h := @recovery_outcome rules d
  rcases hch : d.choice rules with _ | (e | w)
  · rw [hch] at h
    obtain ⟨e, h⟩ := h
    simp [h]
  · rw [hch] at h
    simp [h]
  · rw [hch] at h
    simp [h]

theorem recover_keeps (s : FsState) (h : s.dir.Branch rules (.ok v))
    (hagree : ¬ s.dir.OldDisagrees rules) :
    (recover rules).alone FaultPlan.none
      (fun t => t.dir.choice rules = some (.ok v) ∧ ¬ t.dir.OldDisagrees rules)
      (fun _ _ => True) (fun _ _ => False) s := by
  have hv : s.dir.choice rules = some (.ok v) := Dir.choice_of_branch h
  cases h with
  | committed hk hc =>
    rw [recover_committed hk (Dir.value_eq_some.mp hc)]
    have hold : ∀ r, s.dir.value rules .old = some r → r = .ok v := by
      intro r hr
      by_contra hne
      exact hagree ⟨hk, v, r, hv, .inl hc, hr, hne⟩
    cases ho : s.dir.value rules .old with
    | none => simp [FsState.remove, ho, hc, hk, Dir.OldDisagrees, Dir.choice, Dir.order]
    | some r =>
      obtain rfl := hold r ho
      simp [FsState.remove, ho, hc, hk, Dir.OldDisagrees, Dir.choice, Dir.order]
  | predecessor hc hk =>
    obtain ⟨e, he⟩ := Dir.value_eq_none.mp hc
    have hks := Dir.isSome_of_value hk
    rw [recover_predecessor he (Dir.value_eq_some.mp hk)]
    have hold : ∀ r, s.dir.value rules .old = some r → r = .ok v := by
      intro r hr
      by_contra hne
      exact hagree ⟨hks, v, r, hv, .inr hk, hr, hne⟩
    cases ho : s.dir.value rules .old with
    | none =>
      simp [FsState.remove, FsState.rename, ho, hc, hk, hks, Dir.OldDisagrees, Dir.choice,
        Dir.order]
    | some r =>
      obtain rfl := hold r ho
      simp [FsState.remove, FsState.rename, ho, hc, hk, hks, Dir.OldDisagrees, Dir.choice,
        Dir.order]
  | old hn ho =>
    have hn' : s.dir.NoCommit rules :=
      hn.imp_right (fun ⟨hc, hk⟩ => ⟨Dir.value_eq_none.mp hc, Dir.value_eq_none.mp hk⟩)
    rw [recover_old hn' (Dir.value_eq_some.mp ho)]
    rcases hn with hk | ⟨hc, hk⟩
    · simp [FsState.remove, FsState.rename, ho, hk, Dir.OldDisagrees, Dir.choice, Dir.order]
    · cases hg : s.dir.get .cleanup <;>
        simp [FsState.remove, FsState.rename, ho, hk, hc, hg, Dir.OldDisagrees, Dir.choice,
          Dir.order]
  | config hk ho hc =>
    rw [recover_config hk (Dir.value_eq_none.mp ho) (Dir.value_eq_some.mp hc)]
    simp [FsState.remove, hc, hk, ho, Dir.OldDisagrees, Dir.choice, Dir.order]
  | tmp hk ho hc ht =>
    rw [recover_tmp (Dir.value_eq_none.mp hk) (Dir.value_eq_none.mp ho) (Dir.value_eq_none.mp hc)
      (Dir.value_eq_some.mp ht)]
    cases hg : s.dir.get .cleanup <;>
      simp [FsState.remove, FsState.rename, ht, ho, hk, hc, hg, Dir.OldDisagrees, Dir.choice,
        Dir.order]

end Choice

/-- A configuration that validates, and that `json` writes and reads back as itself. -/
structure Writable (rules : ConfigRules) (candidate : PyValue) : Prop where
  valid : rules.validateConfig candidate = .ok candidate
  roundTrip : rules.loads (rules.dumps candidate) = .ok candidate

theorem Writable.validText {rules : ConfigRules} {candidate : PyValue}
    (h : Writable rules candidate) :
    validText rules (rules.dumps candidate) = some (.ok candidate) := by
  have hd := (rules.validated _ _ h.valid).2
  rw [validText_eq_some (a := .config)]
  simp [decodeConfig, h.roundTrip, hd, h.valid, Verdict.loaded]

theorem writable_firmware {candidate : PyValue} (hv : (validateConfig candidate).isOk = true)
    (hp : Json.plain candidate = true) (he : Json.exact candidate = true) :
    Writable firmwareRules candidate := by
  refine ⟨?_, Json.loads_dumps_exact hp he⟩
  cases h : validateConfig candidate with
  | error e => rw [h] at hv; cases hv
  | ok v =>
    obtain ⟨rfl, -⟩ := validateConfig_ok h
    exact h

theorem shippedConfig_injective {a b : String} (h : shippedConfig a = shippedConfig b) : a = b := by
  simpa [shippedConfig] using h

/-- A power loss inside a boot's `recover` on `d` leaves `d'` to the next boot. -/
def CutRecovery (rules : ConfigRules) (d d' : Dir) : Prop :=
  ∃ q t, Proc.Visits (· = FaultPlan.none) (recover rules) (boot d) q t ∧ t.dir = d'

/-- However often recovery is cut and rerun, the run that completes ends as an uncut one. -/
def Restartable (rules : ConfigRules) (d : Dir) : Prop :=
  ∀ d', Relation.ReflTransGen (CutRecovery rules) d d' →
    (recovery rules d').1 = (recovery rules d).1

/-- Recovery returns a configuration exactly when one is there, and then `config.json`,
holding it, is the one file left. -/
def SettlesOnOneFile (rules : ConfigRules) (d : Dir) : Prop :=
  ((∃ v, (recovery rules d).1 = .ret v) ↔ ∃ a v, d.load rules a = .ok v) ∧
  ∀ v, (recovery rules d).1 = .ret v →
    ∃ text, (recovery rules d).2.dir = Dir.settled text ∧ decodeConfig rules .config text = .ok v

section Laws

variable {rules : ConfigRules} {d : Dir} {v : PyValue}

theorem cutRecovery_keeps (hv : d.choice rules = some (.ok v)) (hagree : ¬ d.OldDisagrees rules)
    {d' : Dir} (h : CutRecovery rules d d') :
    d'.choice rules = some (.ok v) ∧ ¬ d'.OldDisagrees rules := by
  obtain ⟨q, t, hvis, rfl⟩ := h
  have hk := recover_keeps (boot d) (d.branch_of_choice hv) hagree
  exact (Proc.alone_visits ⟨hv, hagree⟩ hk hvis).1

theorem restarts_keep (hv : d.choice rules = some (.ok v)) (hagree : ¬ d.OldDisagrees rules)
    {d' : Dir} (h : Relation.ReflTransGen (CutRecovery rules) d d') :
    d'.choice rules = some (.ok v) ∧ ¬ d'.OldDisagrees rules := by
  induction h with
  | refl => exact ⟨hv, hagree⟩
  | tail _ hcut ih => exact cutRecovery_keeps ih.1 ih.2 hcut

/-- A recovery that does not return touches nothing. -/
theorem cutRecovery_of_failing (hno : ∀ v, d.choice rules ≠ some (.ok v)) {d' : Dir}
    (h : CutRecovery rules d d') : d' = d := by
  obtain ⟨q, t, hvis, rfl⟩ := h
  rcases hch : d.choice rules with _ | (e | v)
  · have hf := recover_fails (s := boot d) (I := fun t => t.dir = d) (Q := fun _ _ => True)
      (Dir.choice_eq_none.mp hch) rfl
    exact (Proc.alone_visits (I := fun t => t.dir = d) rfl hf hvis).1
  · have hf := recover_escapes (s := boot d) (I := fun t => t.dir = d) (Q := fun _ _ => True)
      (d.branch_of_choice hch) rfl
    exact (Proc.alone_visits (I := fun t => t.dir = d) rfl hf hvis).1
  · exact (hno v hch).elim

theorem restarts_of_failing (hno : ∀ v, d.choice rules ≠ some (.ok v))
    {d' : Dir} (h : Relation.ReflTransGen (CutRecovery rules) d d') : d' = d := by
  induction h with
  | refl => rfl
  | tail _ hcut ih =>
    rw [ih] at hcut
    exact cutRecovery_of_failing hno hcut

/-- The visited moments of a restartable recovery all choose as the start does. -/
theorem restartable_moments (hr : Restartable rules d) (hv : d.choice rules = some (.ok v)) :
    (recover rules).alone FaultPlan.none (fun t => t.dir.choice rules = some (.ok v))
      (fun _ _ => True) (fun _ _ => True) (boot d) := by
  have hrun := recover_result (boot d) (d.branch_of_choice hv)
  refine Proc.alone_complete (J := fun _ => True) ?_ ?_
  · exact Proc.alone_mono (fun _ _ => trivial) (fun _ _ _ => trivial) (fun _ _ _ => trivial) hrun
  · intro q t hvis
    have hsame := hr t.dir (.single ⟨q, t, hvis, rfl⟩)
    rw [recovery_ret_iff.mpr hv] at hsame
    exact recovery_ret_iff.mp hsame

theorem not_restartable (h : d.OldDisagrees rules) : ¬ Restartable rules d := by
  obtain ⟨hk, v, r, hv, hsource, hold, hne⟩ := h
  intro hr
  have hm := restartable_moments hr hv
  cases hc : d.value rules .config with
  | some u =>
    have huv : u = .ok v := by
      have hu := Dir.choice_of_branch (.committed hk hc)
      rw [hv] at hu
      exact (Option.some.inj hu).symm
    subst huv
    rw [recover_committed (s := boot d) hk (Dir.value_eq_some.mp hc)] at hm
    have hcut : some r = some (.ok v) := by
      simpa [boot, FsState.remove, Dir.choice, Dir.order, hold] using hm.2.1
    exact hne (Option.some.inj hcut)
  | none =>
    have hkv : d.value rules .cleanup = some (.ok v) := by simpa [hc] using hsource
    obtain ⟨e, he⟩ := Dir.value_eq_none.mp hc
    rw [recover_predecessor (s := boot d) he (Dir.value_eq_some.mp hkv)] at hm
    have hcut : some r = some (.ok v) := by
      simpa [boot, FsState.remove, FsState.rename, Dir.choice, Dir.order, hold] using hm.2.2.1
    exact hne (Option.some.inj hcut)

theorem oldDisagrees_of_committed {r : Verdict} (hk : (d.get .cleanup).isSome)
    (hc : d.value rules .config = some (.ok v)) (ho : d.value rules .old = some r)
    (hne : r ≠ .ok v) : d.OldDisagrees rules :=
  ⟨hk, v, r, Dir.choice_of_branch (.committed hk hc), .inl hc, ho, hne⟩

/-- Cutting recovery changes its answer exactly where a `.cleanup` decides against an `.old`:
the marker is gone before the `.old` it outvoted. -/
theorem recover_restartable_iff (rules : ConfigRules) (d : Dir) :
    Restartable rules d ↔ ¬ d.OldDisagrees rules := by
  constructor
  · intro hr h
    exact not_restartable h hr
  · intro hagree d' hd'
    rcases hch : d.choice rules with _ | (e | v)
    · rw [restarts_of_failing (by simp [hch]) hd']
    · rw [restarts_of_failing (by simp [hch]) hd']
    · have hv' := (restarts_keep hch hagree hd').1
      rw [recovery_ret_iff.mpr hch, recovery_ret_iff.mpr hv']

theorem shipped_writable_1 : Writable firmwareRules (shippedConfig "Soil-1") :=
  writable_firmware (by decide) (by decide) (by decide)

theorem shipped_writable_2 : Writable firmwareRules (shippedConfig "Soil-2") :=
  writable_firmware (by decide) (by decide) (by decide)

theorem shipped_writable_3 : Writable firmwareRules (shippedConfig "Soil-3") :=
  writable_firmware (by decide) (by decide) (by decide)

theorem recovery_settled {rules : ConfigRules} {text : List Char} {v : PyValue}
    (h : validText rules text = some (.ok v)) : (recovery rules (Dir.settled text)).1 = .ret v := by
  refine recovery_ret_iff.mpr (Dir.choice_of_branch (.config rfl rfl ?_))
  exact (Dir.value_of_get rfl).trans h

def shippedText (source : String) : List Char := firmwareRules.dumps (shippedConfig source)

theorem shippedText_valid_1 :
    validText firmwareRules (shippedText "Soil-1") = some (.ok (shippedConfig "Soil-1")) :=
  shipped_writable_1.validText

theorem shippedText_valid_2 :
    validText firmwareRules (shippedText "Soil-2") = some (.ok (shippedConfig "Soil-2")) :=
  shipped_writable_2.validText

theorem shippedText_valid_3 :
    validText firmwareRules (shippedText "Soil-3") = some (.ok (shippedConfig "Soil-3")) :=
  shipped_writable_3.validText

/-- A write that was cut between its two promotions, beside the leftover of an earlier one. -/
theorem recover_not_restartable :
    ¬ Restartable firmwareRules
      ⟨some (shippedText "Soil-3"), none, some (shippedText "Soil-2"),
        some (shippedText "Soil-1")⟩ := by
  refine not_restartable (oldDisagrees_of_committed rfl
    ((Dir.value_of_get rfl).trans shippedText_valid_3)
    ((Dir.value_of_get rfl).trans shippedText_valid_2) ?_)
  intro h
  exact absurd (shippedConfig_injective (Except.ok.inj h)) (by decide)

theorem Dir.exists_load_iff : (∃ a v, d.load rules a = .ok v) ↔
    (∃ v, d.choice rules = some (.ok v)) ∨ d.Escapes rules := by
  constructor
  · rintro ⟨a, v, hv⟩
    rcases hch : d.choice rules with _ | (e | w)
    · obtain ⟨e, he⟩ := Dir.choice_eq_none.mp hch a
      rw [he] at hv; cases hv
    · exact .inr ⟨⟨e, hch⟩, a, v, hv⟩
    · exact .inl ⟨w, rfl⟩
  · rintro (⟨v, hv⟩ | ⟨-, h⟩)
    · cases d.branch_of_choice hv with
      | committed _ hc => exact ⟨_, v, Dir.value_eq_some.mp hc⟩
      | predecessor _ hk => exact ⟨_, v, Dir.value_eq_some.mp hk⟩
      | old _ ho => exact ⟨_, v, Dir.value_eq_some.mp ho⟩
      | config _ _ hc => exact ⟨_, v, Dir.value_eq_some.mp hc⟩
      | tmp _ _ _ ht => exact ⟨_, v, Dir.value_eq_some.mp ht⟩
    · exact h

theorem recovery_dir (hv : d.choice rules = some (.ok v)) :
    (recovery rules d).2.dir.value rules .config = some (.ok v) ∧
    (recovery rules d).2.dir.get .tmp = none ∧ (recovery rules d).2.dir.get .old = none ∧
    (((recovery rules d).2.dir.get .cleanup).isSome ↔ d.StrandsCleanup rules) := by
  rcases Proc.alone_run (recover_result (boot d) (d.branch_of_choice hv)) with ⟨w, -, -, h⟩ | ⟨e, -, h⟩
  · exact h
  · exact h.elim

theorem Dir.StrandsCleanup.choice (h : d.StrandsCleanup rules) :
    ∃ v, d.choice rules = some (.ok v) := by
  obtain ⟨-, hk, hc, v, ho⟩ := h
  exact ⟨v, Dir.choice_of_branch (.old (.inr ⟨hc, hk⟩) ho)⟩

theorem settled_of_recovery (hv : d.choice rules = some (.ok v)) (hs : ¬ d.StrandsCleanup rules) :
    ∃ text, (recovery rules d).2.dir = Dir.settled text ∧
      decodeConfig rules .config text = .ok v := by
  obtain ⟨hc, ht, ho, hk⟩ := recovery_dir hv
  have hk' : (recovery rules d).2.dir.get .cleanup = none := by
    simpa using mt hk.mp hs
  obtain ⟨text, hc1, hc2⟩ := Option.bind_eq_some_iff.mp hc
  refine ⟨text, ?_, validText_eq_some.mp hc2⟩
  cases hd : (recovery rules d).2.dir with
  | mk c t o k =>
    rw [hd] at hc1 ht ho hk'
    cases hc1; cases ht; cases ho; cases hk'
    rfl

theorem not_settlesOnOneFile (h : d.StrandsCleanup rules ∨ d.Escapes rules) :
    ¬ SettlesOnOneFile rules d := by
  intro hone
  rcases h with hs | ⟨⟨e, he⟩, hvalid⟩
  · obtain ⟨v, hv⟩ := hs.choice
    obtain ⟨text, hdir, -⟩ := hone.2 v (recovery_ret_iff.mpr hv)
    have hk := (recovery_dir hv).2.2.2.mpr hs
    rw [hdir] at hk
    cases hk
  · obtain ⟨v, hv⟩ := hone.1.mpr hvalid
    rw [recovery_ret_iff.mp hv] at he
    cases he

/-- Recovery finds a valid configuration and leaves one file in every case but two: an unusable
`.cleanup` beside a valid `.old` and no valid `config.json` is stranded, and an artifact on which
validation itself raises, met before the valid one, lets the exception escape. -/
theorem recover_settles_iff (rules : ConfigRules) (d : Dir) :
    SettlesOnOneFile rules d ↔ ¬ d.StrandsCleanup rules ∧ ¬ d.Escapes rules := by
  constructor
  · intro h
    exact ⟨fun hs => not_settlesOnOneFile (.inl hs) h, fun he => not_settlesOnOneFile (.inr he) h⟩
  · rintro ⟨hs, he⟩
    refine ⟨?_, fun v hr => settled_of_recovery (recovery_ret_iff.mp hr) hs⟩
    rw [Dir.exists_load_iff]
    simp [recovery_ret_iff, he]

/-- A torn `.cleanup` beside a valid `.old` stays. -/
theorem recover_strands_cleanup :
    ¬ SettlesOnOneFile firmwareRules ⟨none, none, some (shippedText "Soil-1"), some ['{']⟩ := by
  have htorn : validText firmwareRules ['{'] = none := rfl
  exact not_settlesOnOneFile (.inl ⟨rfl, (Dir.value_of_get rfl).trans htorn, rfl, _,
    (Dir.value_of_get rfl).trans shippedText_valid_1⟩)

end Laws

end PicoDualCore
