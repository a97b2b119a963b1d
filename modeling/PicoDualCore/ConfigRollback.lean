import PicoDualCore.ConfigTransaction
set_option autoImplicit false

/-! Writes whose operations may fail: what each way out of `begin_write` leaves behind. -/

namespace PicoDualCore
open AtomicProgram

def FsOp.Moves (op : FsOp) (s t : FsState) : Prop :=
  op.apply s.dir = .ok t.dir ∧ t = { s with dir := t.dir, renames := s.renames ++ op.renamed }

section AnyPlan

variable {plan : FaultPlan} {X : FsError → FsState → Prop} {s t : FsState}
  {ph : Phase} {op : FsOp} {a b : Artifact}

abbrev ends (plan : FaultPlan) {α : Type} (Q : α → FsState → Prop) (X : FsError → FsState → Prop)
    (p : FsProg α) (s : FsState) : Prop :=
  p.alone plan (fun _ => True) Q X s

theorem ends_perform {Q : Unit → FsState → Prop} (h : op.Moves s t)
    (hfault : ∀ f, plan ph op = some f → X f.error s) (hok : plan ph op = none → Q () t) :
    ends plan Q X (perform ph op) s := by
  obtain ⟨happ, ht⟩ := h
  rw [ends, alone_perform]
  cases hp : plan ph op with
  | some f => exact ⟨trivial, hfault f hp⟩
  | none =>
    rw [happ]
    dsimp only
    rw [← ht]
    exact ⟨trivial, hok hp⟩

theorem ends_pathExists {Q : Bool → FsState → Prop}
    (hfault : ∀ f, plan ph (.stat a) = some f → X f.error s)
    (hok : plan ph (.stat a) = none → Q (s.dir.get a).isSome s) :
    ends plan Q X (pathExists ph a) s := by
  cases hp : plan ph (.stat a) with
  | none => exact (alone_pathExists hp).mpr ⟨trivial, hok hp⟩
  | some f =>
    have hx := hfault f hp
    unfold ends pathExists
    simp only [Proc.alone_handle, Proc.alone_bind, alone_perform, hp]
    cases f
    · exact ⟨trivial, hx⟩
    · exact ⟨trivial, hx⟩

theorem ends_removeIfExists {Q : Unit → FsState → Prop}
    (hfault : ∀ op f, plan ph op = some f → X f.error s) (hok : Q () (s.remove a)) :
    ends plan Q X (removeIfExists ph a) s := by
  unfold ends removeIfExists
  rw [Proc.alone_seq]
  refine ends_pathExists (hfault _) (fun _ => ?_)
  cases h : s.dir.get a with
  | none => simpa [FsState.remove, Dir.put_get_none h] using hok
  | some text =>
    have hmoves : (FsOp.remove a).Moves s (s.remove a) := by
      simp [FsOp.Moves, FsOp.apply, FsOp.renamed, FsState.remove, h]
    exact ends_perform hmoves (hfault _) (fun _ => hok)

theorem ends_loadConfig {rules : ConfigRules} {Q : PyValue → FsState → Prop}
    (hmem : ∀ f, plan ph (.read a) = some f → f ≠ .memory)
    (hfault : (plan ph (.read a)).isSome → ∀ e, X (.config e) s)
    (hok : plan ph (.read a) = none → match s.dir.load rules a with
      | .ok config => Q config s
      | .error e => X e.raised s) :
    ends plan Q X (loadConfig rules ph a) s := by
  cases hp : plan ph (.read a) with
  | none => exact (alone_loadConfig hp).mpr ⟨trivial, hok hp⟩
  | some f =>
    have hx := hfault (by simp [hp])
    unfold ends loadConfig readJson readFile
    simp only [Proc.alone_seq, Proc.alone_handle, Proc.alone_atomic, FsOp.attempt, hp]
    cases f with
    | memory => exact (hmem _ hp rfl).elim
    | io => exact ⟨trivial, hx _⟩

theorem moves_rename (h : (s.dir.get a).isSome) : (FsOp.rename a b).Moves s (s.rename a b) := by
  simp [FsOp.Moves, FsOp.apply, FsOp.renamed, FsState.rename, h]

theorem moves_openWrite : (FsOp.openWrite a).Moves s (s.write a []) := by
  simp [FsOp.Moves, FsOp.apply, FsOp.renamed, FsState.write]

theorem moves_write {k : Nat} {c : Char} {written : List Char} :
    (FsOp.write a k c).Moves (s.write a written) (s.write a (written ++ [c])) := by
  simp [FsOp.Moves, FsOp.apply, FsOp.renamed, FsState.write]

theorem moves_close : (FsOp.close a).Moves s s := by
  simp [FsOp.Moves, FsOp.apply, FsOp.renamed]

theorem moves_sync : FsOp.sync.Moves s s := by
  simp [FsOp.Moves, FsOp.apply, FsOp.renamed]

end AnyPlan

/-- The operations that write the candidate into `.tmp`. -/
def stagingOps (rules : ConfigRules) (candidate : PyValue) : List (Phase × FsOp) :=
  (.stage, .openWrite .tmp) ::
    ((rules.dumps candidate).zipIdx.map (fun p => (.stage, .write .tmp p.2 p.1)) ++
      [(.stage, .close .tmp)])

/-- The operations of a promotion up to the one that takes `config.json` out of place. -/
def leavingOps (rules : ConfigRules) (candidate : PyValue) : List (Phase × FsOp) :=
  stagingOps rules candidate ++ [(.stage, .read .tmp), (.promote, .rename .config .old)]

def FailsInPlace (rules : ConfigRules) (candidate : PyValue) (plan : FaultPlan) : Prop :=
  ∃ p ∈ leavingOps rules candidate, (plan p.1 p.2).isSome

instance (rules : ConfigRules) (candidate : PyValue) (plan : FaultPlan) :
    Decidable (FailsInPlace rules candidate plan) :=
  inferInstanceAs (Decidable (∃ p ∈ leavingOps rules candidate, (plan p.1 p.2).isSome = true))

structure InPlace (s t : FsState) : Prop where
  same : ∀ a, a ≠ .tmp → t.dir.get a = s.dir.get a
  flag : t.rebootRequired = s.rebootRequired

inductive Interrupted (rules : ConfigRules) (candidate : PyValue) (plan : FaultPlan)
    (s t : FsState) : Prop where
  | inPlace (hfail : FailsInPlace rules candidate plan) (h : InPlace s t)
  | left (hpass : ¬ FailsInPlace rules candidate plan)
    (h : t = s.retired rules candidate ∨ t = s.promoted rules candidate ∨
      t = s.committed rules candidate)

def FsError.Handled : FsError → Prop
  | .os _ | .config _ => True
  | .memory | .python _ => False

/-- Only `OSError`s are injected. -/
def FaultPlan.OsOnly (plan : FaultPlan) : Prop := ∀ ph op, plan ph op ≠ some .memory

section Promotion

variable {rules : ConfigRules} {candidate persisted : PyValue} {plan : FaultPlan} {s t : FsState}
  {X : FsError → FsState → Prop}

theorem InPlace.write {s : FsState} {w : List Char} : InPlace s (s.write .tmp w) :=
  ⟨fun a ha => by simp [FsState.write, ha], rfl⟩

theorem FaultPlan.OsOnly.handled {ph : Phase} {op : FsOp} {f : Fault} (hos : plan.OsOnly)
    (h : plan ph op = some f) : f.error.Handled := by
  cases f with
  | memory => exact (hos ph op h).elim
  | io => trivial

theorem ends_streamInto {Q : Unit → FsState → Prop} {a : Artifact} {k : Nat}
    {written rest : List Char}
    (hX : ∀ p ∈ rest.zipIdx k, ∀ f, plan .stage (.write a p.2 p.1) = some f →
      ∀ w, X f.error (s.write a w))
    (hQ : (∀ p ∈ rest.zipIdx k, plan .stage (.write a p.2 p.1) = none) →
      Q () (s.write a (written ++ rest))) :
    ends plan Q X (streamInto a k rest) (s.write a written) := by
  induction rest generalizing k written with
  | nil => simpa [streamInto, ends] using hQ
  | cons c rest ih =>
    simp only [List.zipIdx_cons, List.forall_mem_cons] at hX hQ
    unfold ends streamInto
    rw [Proc.alone_seq]
    refine ends_perform moves_write (fun f hf => hX.1 f hf written) (fun hnone => ?_)
    refine ih hX.2 (fun hrest => ?_)
    simpa using hQ ⟨hnone, hrest⟩

theorem ends_writeCandidateTmp {Q : Unit → FsState → Prop}
    (hX : ∀ p ∈ stagingOps rules candidate, ∀ f, plan p.1 p.2 = some f →
      ∀ t, InPlace s t → X f.error t)
    (hQ : (∀ p ∈ stagingOps rules candidate, plan p.1 p.2 = none) →
      Q () (s.staged rules candidate)) :
    ends plan Q X (writeCandidateTmp rules candidate) s := by
  simp only [stagingOps, List.forall_mem_cons, List.forall_mem_append, List.forall_mem_map]
    at hX hQ
  obtain ⟨hopen, hwrites, hclose, -⟩ := hX
  unfold ends writeCandidateTmp
  rw [Proc.alone_seq]
  refine ends_perform moves_openWrite (fun f hf => hopen f hf s ⟨fun _ _ => rfl, rfl⟩)
    (fun hno => ?_)
  rw [Proc.alone_finish]
  refine ends_streamInto ?_ ?_
  · intro p hp f hf w
    exact ends_perform moves_close (fun g hg => hclose g hg _ .write)
      (fun _ => hwrites p hp f hf _ .write)
  · intro hall
    exact ends_perform moves_close (fun g hg => hclose g hg _ .write)
      (fun hc => hQ ⟨hno, hall, hc, by simp⟩)

theorem failsInPlace_of {p : Phase × FsOp} {f : Fault} (hp : p ∈ leavingOps rules candidate)
    (hf : plan p.1 p.2 = some f) : FailsInPlace rules candidate plan :=
  ⟨p, hp, by simp [hf]⟩

theorem not_failsInPlace (hstage : ∀ p ∈ stagingOps rules candidate, plan p.1 p.2 = none)
    (hread : plan .stage (.read .tmp) = none) (hrename : plan .promote (.rename .config .old) = none) :
    ¬ FailsInPlace rules candidate plan := by
  rintro ⟨p, hp, hsome⟩
  rcases List.mem_append.mp hp with hp | hp
  · simp [hstage p hp] at hsome
  · simp only [List.mem_cons, List.not_mem_nil, or_false] at hp
    rcases hp with rfl | rfl
    · simp [hread] at hsome
    · simp [hrename] at hsome

/-- Every way out of a promotion that meets `OSError`s only. -/
theorem ends_promoteCandidate (hos : plan.OsOnly)
    (hP : s.dir.value rules .config = some (.ok persisted)) (hC : Writable rules candidate) :
    ends plan (fun _ t => ¬ FailsInPlace rules candidate plan ∧ t = s.committed rules candidate)
      (fun err t => err.Handled ∧ Interrupted rules candidate plan s t)
      (promoteCandidate rules candidate) s := by
  obtain ⟨hconfig, htmp, hold⟩ := promotion_sources candidate hP
  unfold ends promoteCandidate
  simp only [Proc.alone_seq]
  refine ends_writeCandidateTmp ?_ ?_
  · intro p hp f hf t ht
    exact ⟨hos.handled hf, .inPlace (failsInPlace_of (List.mem_append_left _ hp) hf) ht⟩
  · intro hstage
    refine ends_loadConfig (fun f hf => ?_) (fun hfault e => ?_) (fun hread => ?_)
    · rintro rfl
      exact hos _ _ hf
    · exact ⟨trivial, .inPlace ⟨(.stage, .read .tmp), by simp [leavingOps], hfault⟩ .write⟩
    · rw [staged_load hC]
      refine ends_perform (moves_rename hconfig) (fun f hf => ?_) (fun hrename => ?_)
      · have hfail : FailsInPlace rules candidate plan :=
          ⟨(.promote, .rename .config .old), by simp [leavingOps], by simp [hf]⟩
        exact ⟨hos.handled hf, .inPlace hfail .write⟩
      · have hpass := not_failsInPlace hstage hread hrename
        rw [← FsState.retired]
        refine ends_perform (moves_rename htmp)
          (fun f hf => ⟨hos.handled hf, .left hpass (.inl rfl)⟩) (fun _ => ?_)
        rw [← FsState.promoted]
        refine ends_perform moves_sync
          (fun f hf => ⟨hos.handled hf, .left hpass (.inr (.inl rfl))⟩) (fun _ => ?_)
        refine ends_perform (moves_rename hold)
          (fun f hf => ⟨hos.handled hf, .left hpass (.inr (.inl rfl))⟩) (fun _ => ?_)
        rw [← FsState.committed]
        exact ends_perform moves_sync
          (fun f hf => ⟨hos.handled hf, .left hpass (.inr (.inr rfl))⟩) (fun _ => ⟨hpass, rfl⟩)

end Promotion

/-- What `_restore_committed` puts back: it goes by which artifacts exist. -/
def Dir.backup (d : Dir) : Option Artifact :=
  if (d.get .old).isSome then some .old
  else if (d.get .cleanup).isSome then some .cleanup
  else none

def FsState.restored (s : FsState) : FsState :=
  match s.dir.backup with
  | some backup => ((s.remove .config).rename backup .config).remove .tmp
  | none => s.remove .tmp

section Restoration

variable {rules : ConfigRules} {candidate persisted : PyValue} {plan : FaultPlan} {s t : FsState}
  {X : FsError → FsState → Prop}

theorem Dir.backup_isSome {d : Dir} {b : Artifact} (h : d.backup = some b) :
    b ≠ .config ∧ b ≠ .tmp ∧ (d.get b).isSome := by
  unfold Dir.backup at h
  split at h
  · cases h; exact ⟨by simp, by simp, by assumption⟩
  · split at h
    · cases h; exact ⟨by simp, by simp, by assumption⟩
    · cases h

theorem ends_backupPath {Q : Option Artifact → FsState → Prop}
    (hfault : ∀ op f, plan .restore op = some f → X f.error s) (hok : Q s.dir.backup s) :
    ends plan Q X backupPath s := by
  unfold Dir.backup at hok
  unfold ends backupPath
  rw [Proc.alone_seq]
  refine ends_pathExists (hfault _) (fun _ => ?_)
  cases ho : (s.dir.get .old).isSome with
  | true => simpa [ho] using hok
  | false =>
    simp only [Bool.false_eq_true, if_false, Proc.alone_seq]
    refine ends_pathExists (hfault _) (fun _ => ?_)
    cases hk : (s.dir.get .cleanup).isSome <;> simpa [ho, hk] using hok

theorem ends_restoreCommitted {Q : Unit → FsState → Prop}
    (hfault : ∀ op f, plan .restore op = some f → ∀ t, X f.error t)
    (hok : Q () s.restored) : ends plan Q X restoreCommitted s := by
  unfold ends restoreCommitted
  simp only [Proc.alone_seq]
  refine ends_backupPath (fun op f hf => hfault op f hf s) ?_
  unfold FsState.restored at hok
  cases hb : s.dir.backup with
  | none =>
    rw [hb] at hok
    simp only [putBack, Proc.alone_pure]
    refine ends_removeIfExists (fun op f hf => hfault op f hf s) ?_
    exact ends_perform moves_sync (fun f hf => hfault _ f hf _) (fun _ => hok)
  | some b =>
    rw [hb] at hok
    obtain ⟨hne, -, hsome⟩ := Dir.backup_isSome hb
    have hb' : ((s.remove .config).dir.get b).isSome := by
      simpa [FsState.remove, hne] using hsome
    simp only [putBack, Proc.alone_seq]
    refine ends_removeIfExists (fun op f hf => hfault op f hf s) ?_
    refine ends_perform (moves_rename hb') (fun f hf => hfault _ f hf _) (fun _ => ?_)
    refine ends_removeIfExists (fun op f hf => hfault op f hf _) ?_
    exact ends_perform moves_sync (fun f hf => hfault _ f hf _) (fun _ => hok)

end Restoration

/-- What `read_persisted` answers in a state. -/
def FsState.persisted (rules : ConfigRules) (s : FsState) : Proc.Outcome FsError PyValue :=
  ((readPersisted rules).run FaultPlan.none s).1

def preCommit (rules : ConfigRules) (candidate : PyValue) : FsProg Unit := do
  let persisted ← loadConfig rules .persisted .config
  if candidate.pyEq persisted then pure () else promoteCandidate rules candidate

/-- A pre-commit step fails, with an `OSError` or a `ConfigError`, and no restoring operation does. -/
def FailsRestorably (rules : ConfigRules) (candidate : PyValue) (plan : FaultPlan)
    (s : FsState) : Prop :=
  (∃ err, ((preCommit rules candidate).run plan s).1 = .raise err ∧ err.Handled) ∧
    ∀ op, plan .restore op = none

structure AllOrNothing (rules : ConfigRules) (candidate : PyValue) (plan : FaultPlan)
    (s : FsState) : Prop where
  committed : ((beginWrite rules candidate).run plan s).1 = .ret .rebootRequired →
    ((beginWrite rules candidate).run plan s).2.persisted rules = .ret candidate ∧
    ((beginWrite rules candidate).run plan s).2.rebootRequired = true
  unchanged : ((beginWrite rules candidate).run plan s).1 = .ret .unchanged →
    ((beginWrite rules candidate).run plan s).2.dir = s.dir ∧
    ((beginWrite rules candidate).run plan s).2.rebootRequired = s.rebootRequired
  restored : FailsRestorably rules candidate plan s →
    (∃ e, ((beginWrite rules candidate).run plan s).1 = .raise (.config e)) ∧
    ((beginWrite rules candidate).run plan s).2.persisted rules = s.persisted rules ∧
    ((beginWrite rules candidate).run plan s).2.rebootRequired = s.rebootRequired

/-- The write fails before `config.json` has left its place, and a file of an earlier
transaction that does not hold the persisted configuration is there to be taken for a backup. -/
def PicksStaleBackup (rules : ConfigRules) (candidate : PyValue) (plan : FaultPlan)
    (s : FsState) : Prop :=
  ∃ persisted backup, s.dir.value rules .config = some (.ok persisted) ∧
    plan .persisted (.read .config) = none ∧ candidate.pyEq persisted = false ∧
    FailsInPlace rules candidate plan ∧ (∀ op, plan .restore op = none) ∧
    s.dir.backup = some backup ∧ s.dir.value rules backup ≠ some (.ok persisted)

section Outcomes

variable {rules : ConfigRules} {candidate persisted : PyValue} {plan : FaultPlan} {s t : FsState}
  {X : FsError → FsState → Prop}

theorem FsState.persisted_eq : s.persisted rules = match s.dir.load rules .config with
    | .ok config => .ret config
    | .error e => .raise e.raised := by
  have h : (readPersisted rules).alone FaultPlan.none (fun _ => True)
      (fun config _ => s.dir.load rules .config = .ok config)
      (fun err _ => ∃ e : ConfigFailure, err = e.raised ∧ s.dir.load rules .config = .error e) s := by
    rw [readPersisted, fair_loadConfig]
    cases s.dir.load rules .config <;> simp
  unfold FsState.persisted
  rcases Proc.alone_run h with ⟨config, hr, hl⟩ | ⟨err, hr, e, rfl, hl⟩
  · rw [hr, hl]
  · rw [hr, hl]

theorem FsState.persisted_congr (h : t.dir.get .config = s.dir.get .config) :
    t.persisted rules = s.persisted rules := by
  simp only [FsState.persisted_eq, Dir.load, h]

theorem FsState.persisted_eq_ret {config : PyValue} :
    s.persisted rules = .ret config ↔ s.dir.value rules .config = some (.ok config) := by
  rw [FsState.persisted_eq, Dir.value_eq_some]
  cases s.dir.load rules .config <;> simp [Verdict.loaded]

theorem FsState.restored_flag : s.restored.rebootRequired = s.rebootRequired := by
  unfold FsState.restored
  cases s.dir.backup <;> rfl

theorem restored_config : s.restored.dir.get .config =
    match s.dir.backup with
    | some backup => s.dir.get backup
    | none => s.dir.get .config := by
  unfold FsState.restored
  cases hb : s.dir.backup with
  | none => simp [FsState.remove]
  | some backup =>
    have hne := (Dir.backup_isSome hb).1
    simp [FsState.remove, FsState.rename, hne, hne.symm]

theorem InPlace.backup (h : InPlace s t) : t.dir.backup = s.dir.backup := by
  unfold Dir.backup
  rw [h.same .old (by simp), h.same .cleanup (by simp)]

theorem left_restored (hP : (s.dir.get .config).isSome)
    (h : t = s.retired rules candidate ∨ t = s.promoted rules candidate ∨
      t = s.committed rules candidate) :
    t.restored.dir.get .config = s.dir.get .config ∧
      t.restored.rebootRequired = s.rebootRequired := by
  rw [restored_config, FsState.restored_flag]
  rcases h with rfl | rfl | rfl <;>
    simp [FsState.committed, FsState.promoted, FsState.retired, FsState.staged, FsState.rename,
      FsState.write, Dir.backup, hP]

structure FailedWrite (rules : ConfigRules) (candidate : PyValue) (plan : FaultPlan)
    (s : FsState) (err : FsError) (t : FsState) : Prop where
  reported : (∃ e, err = .config e) ∨ (plan .persisted (.read .config) = none ∧
    ∃ e, s.dir.load rules .config = .error (.python e))
  left : (t = s ∧ ((∃ e, s.dir.load rules .config = .error e) ∨
      (plan .persisted (.read .config)).isSome)) ∨
    ∃ persisted u, s.dir.value rules .config = some (.ok persisted) ∧
      plan .persisted (.read .config) = none ∧ candidate.pyEq persisted = false ∧
      Interrupted rules candidate plan s u ∧ ((∀ op, plan .restore op = none) → t = u.restored)

theorem FaultPlan.OsOnly.error_os {ph : Phase} {op : FsOp} {f : Fault} (hos : plan.OsOnly)
    (h : plan ph op = some f) : f.error = .os EIO := by
  cases f with
  | memory => exact (hos ph op h).elim
  | io => rfl

theorem ends_tryRestore {Q : Unit → FsState → Prop} (hos : plan.OsOnly)
    (hQ : ∀ t, ((∀ op, plan .restore op = none) → t = s.restored) → Q () t) :
    ends plan Q X tryRestore s := by
  unfold ends tryRestore
  rw [Proc.alone_handle]
  refine ends_restoreCommitted (fun op f hf t => ?_) (hQ _ (fun _ => rfl))
  rw [hos.error_os hf]
  refine hQ t (fun hnone => ?_)
  rw [hnone op] at hf
  cases hf

theorem ends_releaseCleanup {Q : Unit → FsState → Prop} (hos : plan.OsOnly)
    (hQ : ∀ t, t.dir = s.dir ∨ t.dir = (s.remove .cleanup).dir →
      t.rebootRequired = s.rebootRequired → Q () t) :
    ends plan Q X releaseCleanup s := by
  unfold ends releaseCleanup
  rw [Proc.alone_handle, Proc.alone_seq]
  refine ends_removeIfExists (fun op f hf => ?_) ?_
  · rw [hos.error_os hf]
    exact hQ s (.inl rfl) rfl
  · refine ends_perform moves_sync (fun f hf => ?_) (fun _ => ?_)
    · rw [hos.error_os hf]
      exact hQ _ (.inr rfl) rfl
    · exact hQ _ (.inr rfl) rfl

/-- What a committed write leaves: its `.cleanup` may have survived. -/
structure CommittedWrite (rules : ConfigRules) (candidate : PyValue) (s t : FsState) : Prop where
  dir : t.dir = (s.committed rules candidate).dir ∨
    t.dir = ((s.committed rules candidate).remove .cleanup).dir
  flag : t.rebootRequired = true

theorem CommittedWrite.config (hC : Writable rules candidate)
    (h : CommittedWrite rules candidate s t) : t.dir.value rules .config = some (.ok candidate) := by
  rcases h.dir with hd | hd <;> rw [hd] <;>
    simp [FsState.committed, FsState.promoted, FsState.retired, FsState.staged, FsState.rename,
      FsState.write, FsState.remove, hC.validText]

/-- The three ways out of a write. -/
theorem ends_beginWrite (hos : plan.OsOnly) (hC : Writable rules candidate) :
    ends plan
      (fun c t => (c = .unchanged ∧ t = s) ∨
        (c = .rebootRequired ∧ CommittedWrite rules candidate s t))
      (FailedWrite rules candidate plan s) (beginWrite rules candidate) s := by
  unfold ends beginWrite
  simp only [Proc.alone_seq, hC.valid, Except.mapError, Proc.alone_ofExcept]
  refine ends_loadConfig (fun f hf => ?_) (fun hfault e => ?_) (fun hread => ?_)
  · rintro rfl
    exact hos _ _ hf
  · exact ⟨.inl ⟨e, rfl⟩, .inl ⟨rfl, .inr hfault⟩⟩
  cases hload : s.dir.load rules .config with
  | error e =>
    refine ⟨?_, .inl ⟨rfl, .inl ⟨e, hload⟩⟩⟩
    cases e with
    | config e => exact .inl ⟨e, rfl⟩
    | python e => exact .inr ⟨hread, e, hload⟩
  | ok persisted =>
    have hP : s.dir.value rules .config = some (.ok persisted) := Dir.value_eq_some.mpr hload
    cases heq : candidate.pyEq persisted with
    | true =>
      simp only [heq, if_true]
      exact .inl ⟨rfl, rfl⟩
    | false =>
      simp only [heq, Bool.false_eq_true, if_false, writeChanged, Proc.alone_seq, Proc.alone_handle]
      refine Proc.alone_mono (fun _ h => h) ?_ ?_ (ends_promoteCandidate hos hP hC)
      · rintro - t ⟨-, rfl⟩
        rw [markRebootRequired, Proc.alone_atomic]
        refine ⟨trivial, ?_⟩
        exact ends_releaseCleanup hos (fun t hdir hflag => .inr ⟨rfl, hdir, hflag⟩)
      · rintro err u ⟨hmem, hu⟩
        have hleft : ∀ t e, ((∀ op, plan .restore op = none) → t = u.restored) →
            FailedWrite rules candidate plan s (.config e) t :=
          fun t e ht => ⟨.inl ⟨e, rfl⟩, .inr ⟨persisted, u, hP, hread, heq, hu, ht⟩⟩
        cases err with
        | memory => exact hmem.elim
        | python e => exact hmem.elim
        | os errno =>
          simp only [failedPromotion, Proc.alone_seq]
          exact ends_tryRestore hos (fun t ht => hleft t _ ht)
        | config e =>
          simp only [failedPromotion, Proc.alone_seq]
          exact ends_tryRestore hos (fun t ht => hleft t _ ht)

/-- A write whose steps before the commit point fail does not return. -/
theorem beginWrite_raises (hos : plan.OsOnly) (hC : Writable rules candidate)
    (h : FailsRestorably rules candidate plan s) :
    ∃ err, ((beginWrite rules candidate).run plan s).1 = .raise err ∧
      FailedWrite rules candidate plan s err ((beginWrite rules candidate).run plan s).2 := by
  obtain ⟨⟨err, herr, -⟩, -⟩ := h
  have hpre : ends plan (fun _ _ => False) (fun _ _ => True) (preCommit rules candidate) s := by
    rw [ends, Proc.alone_iff_run]
    rcases hr : (preCommit rules candidate).run plan s with ⟨r, t⟩
    rw [hr] at herr
    subst herr
    trivial
  have hnever : ends plan (fun _ _ => False) (fun _ _ => True) (beginWrite rules candidate) s := by
    unfold ends preCommit at hpre
    unfold ends beginWrite
    simp only [Proc.alone_seq, hC.valid, Except.mapError, Proc.alone_ofExcept] at hpre ⊢
    refine Proc.alone_mono (fun _ h => h) ?_ (fun _ _ h => h) hpre
    intro persisted t ht
    cases heq : candidate.pyEq persisted with
    | true => simp [heq] at ht
    | false =>
      simp only [heq, Bool.false_eq_true, if_false, writeChanged, Proc.alone_seq,
        Proc.alone_handle] at ht ⊢
      refine Proc.alone_mono (fun _ h => h) (fun _ _ h => h.elim) ?_ ht
      intro err u _
      cases err with
      | memory => trivial
      | python e => trivial
      | os errno =>
        simp only [failedPromotion, Proc.alone_seq]
        exact ends_tryRestore hos (fun _ _ => trivial)
      | config e =>
        simp only [failedPromotion, Proc.alone_seq]
        exact ends_tryRestore hos (fun _ _ => trivial)
  rcases Proc.alone_run hnever with ⟨_, _, h⟩ | ⟨err', hr, -⟩
  · exact h.elim
  · rcases Proc.alone_run (ends_beginWrite (s := s) hos hC) with ⟨c, hr', -⟩ | ⟨e, hr', hf⟩
    · rw [hr] at hr'; cases hr'
    · exact ⟨e, hr', hf⟩

theorem FailedWrite.reported_config {err : FsError} (h : FailedWrite rules candidate plan s err t)
    (hfails : FailsRestorably rules candidate plan s) : ∃ e, err = .config e := by
  rcases h.reported with he | ⟨hread, e, hload⟩
  · exact he
  · obtain ⟨⟨err', hr, hh⟩, -⟩ := hfails
    have hpre : ends plan (fun _ _ => False) (fun err _ => err = .python e)
        (preCommit rules candidate) s := by
      unfold ends preCommit
      rw [Proc.alone_seq, alone_loadConfig hread, hload]
      exact ⟨trivial, rfl⟩
    rcases Proc.alone_run hpre with ⟨_, _, h⟩ | ⟨_, hr', rfl⟩
    · exact h.elim
    · rw [hr] at hr'
      cases hr'
      exact hh.elim

/-- A failure in place, restored from a stale backup, changes the configuration. -/
theorem not_allOrNothing (hos : plan.OsOnly) (hC : Writable rules candidate)
    (h : PicksStaleBackup rules candidate plan s) : ¬ AllOrNothing rules candidate plan s := by
  obtain ⟨persisted, backup, hP, hread, heq, hfail, hrestore, hb, hstale⟩ := h
  intro hall
  have hload : s.dir.load rules .config = .ok persisted := Dir.value_eq_some.mp hP
  have hpre : ends plan (fun _ _ => False) (fun err _ => err.Handled)
      (preCommit rules candidate) s := by
    unfold ends preCommit
    rw [Proc.alone_seq, alone_loadConfig hread, hload]
    simp only [heq, Bool.false_eq_true, if_false]
    exact ⟨trivial, Proc.alone_mono (fun _ h => h) (fun _ _ h => h.1 hfail) (fun _ _ h => h.1)
      (ends_promoteCandidate hos hP hC)⟩
  have hfails : FailsRestorably rules candidate plan s := by
    rcases Proc.alone_run hpre with ⟨_, _, h⟩ | ⟨err, hr, hh⟩
    · exact h.elim
    · exact ⟨⟨err, hr, hh⟩, hrestore⟩
  obtain ⟨-, hsame, -⟩ := hall.restored hfails
  obtain ⟨err, -, hout⟩ := beginWrite_raises hos hC hfails
  rw [FsState.persisted_eq_ret.mpr hP, FsState.persisted_eq_ret] at hsame
  rcases hout.left with ⟨-, ⟨e, hno⟩ | hno⟩ | ⟨_, u, -, -, -, hu, ht⟩
  · rw [hload] at hno; cases hno
  · simp [hread] at hno
  · rw [ht hrestore] at hsame
    cases hu with
    | left hpass _ => exact hpass hfail
    | inPlace _ hin =>
      have hu' : u.restored.dir.get .config = u.dir.get backup := by
        rw [restored_config, hin.backup, hb]
      rw [Dir.value, hu', hin.same backup (Dir.backup_isSome hb).2.1] at hsame
      exact hstale hsame

theorem restored_persisted {u : FsState} (hP : s.dir.value rules .config = some (.ok persisted))
    (hread : plan .persisted (.read .config) = none) (heq : candidate.pyEq persisted = false)
    (hrestore : ∀ op, plan .restore op = none)
    (hstale : ¬ PicksStaleBackup rules candidate plan s)
    (hu : Interrupted rules candidate plan s u) :
    u.restored.persisted rules = s.persisted rules ∧
      u.restored.rebootRequired = s.rebootRequired := by
  cases hu with
  | left _ h =>
    obtain ⟨hconfig, hflag⟩ := left_restored (Dir.isSome_of_value hP) h
    exact ⟨FsState.persisted_congr hconfig, hflag⟩
  | inPlace hfail hin =>
    refine ⟨?_, FsState.restored_flag.trans hin.flag⟩
    cases hb : s.dir.backup with
    | none =>
      have hu : u.restored.dir.get .config = u.dir.get .config := by
        rw [restored_config, hin.backup, hb]
      exact FsState.persisted_congr (hu.trans (hin.same .config (by simp)))
    | some backup =>
      have hu : u.restored.dir.get .config = u.dir.get backup := by
        rw [restored_config, hin.backup, hb]
      have hgood : s.dir.value rules backup = some (.ok persisted) := by
        by_contra hne
        exact hstale ⟨persisted, backup, hP, hread, heq, hfail, hrestore, hb, hne⟩
      rw [FsState.persisted_eq_ret.mpr hP, FsState.persisted_eq_ret, Dir.value, hu,
        hin.same backup (Dir.backup_isSome hb).2.1]
      exact hgood

/-- A write is all or nothing unless its restoration picks a stale backup. -/
theorem beginWrite_allOrNothing_iff (hos : plan.OsOnly) (hC : Writable rules candidate) :
    AllOrNothing rules candidate plan s ↔ ¬ PicksStaleBackup rules candidate plan s := by
  constructor
  · intro h hstale
    exact not_allOrNothing hos hC hstale h
  · intro hstale
    have hends := Proc.alone_run (ends_beginWrite (s := s) hos hC)
    constructor
    · intro hr
      rcases hends with ⟨c, hr', ⟨rfl, -⟩ | ⟨-, hw⟩⟩ | ⟨e, hr', -⟩
      · rw [hr] at hr'; cases hr'
      · exact ⟨FsState.persisted_eq_ret.mpr (hw.config hC), hw.flag⟩
      · rw [hr] at hr'; cases hr'
    · intro hr
      rcases hends with ⟨c, hr', ⟨-, hs⟩ | ⟨rfl, -⟩⟩ | ⟨e, hr', -⟩
      · rw [hs]; exact ⟨rfl, rfl⟩
      · rw [hr] at hr'; cases hr'
      · rw [hr] at hr'; cases hr'
    · intro hfails
      obtain ⟨err, hr, hout⟩ := beginWrite_raises hos hC hfails
      obtain ⟨e, rfl⟩ := hout.reported_config hfails
      refine ⟨⟨e, hr⟩, ?_⟩
      rcases hout.left with ⟨hs, -⟩ | ⟨persisted, u, hP, hread, heq, hu, ht⟩
      · rw [hs]; exact ⟨rfl, rfl⟩
      · rw [ht hfails.2]
        exact restored_persisted hP hread heq hfails.2 hstale hu

end Outcomes

/-- The first write cannot remove its `.cleanup`. -/
def stuckCleanup : FaultPlan := fun ph op =>
  if ph = .cleanup ∧ op = .remove .cleanup then some .io else none

/-- The next one cannot open its `.tmp`. -/
def unwritableTmp : FaultPlan := fun ph op =>
  if ph = .stage ∧ op = .openWrite .tmp then some .io else none

theorem stuckCleanup_quiet : stuckCleanup.Quiet := by
  intro ph op hph
  simp [stuckCleanup, hph]

theorem osOnly_of_io {condition : Phase → FsOp → Prop} [∀ ph op, Decidable (condition ph op)] :
    FaultPlan.OsOnly (fun ph op => if condition ph op then some .io else none) := by
  intro ph op
  dsimp only
  split <;> simp

theorem shipped_differ_21 : (shippedConfig "Soil-2").pyEq (shippedConfig "Soil-1") = false := by
  decide

theorem shipped_differ_32 : (shippedConfig "Soil-3").pyEq (shippedConfig "Soil-2") = false := by
  decide

/-- The state after a reported success whose `.cleanup` survived. -/
def afterStuckCleanup (persisted candidate : PyValue) : FsState :=
  ((beginWrite firmwareRules candidate).run stuckCleanup
    ⟨Dir.settled (firmwareRules.dumps persisted), false, []⟩).2

theorem afterStuckCleanup_dir {persisted candidate : PyValue}
    (hP : Writable firmwareRules persisted)
    (hC : Writable firmwareRules candidate) (hne : candidate.pyEq persisted = false) :
    (afterStuckCleanup persisted candidate).dir =
      Dir.leftover (firmwareRules.dumps candidate) (firmwareRules.dumps persisted) :=
  run_beginWrite_leftover_dir stuckCleanup_quiet (by decide) (by decide) hP.validText hC hne

theorem afterStuckCleanup_run {persisted candidate : PyValue}
    (hP : Writable firmwareRules persisted) (hC : Writable firmwareRules candidate)
    (hne : candidate.pyEq persisted = false) :
    (beginWrite firmwareRules candidate).run stuckCleanup
        ⟨Dir.settled (firmwareRules.dumps persisted), false, []⟩ =
      (.ret .rebootRequired, afterStuckCleanup persisted candidate) := by
  have hvalue : (Dir.settled (firmwareRules.dumps persisted)).value firmwareRules .config =
      some (.ok persisted) := (Dir.value_of_get rfl).trans hP.validText
  have hrun := run_beginWrite_leftover
    (s := ⟨Dir.settled (firmwareRules.dumps persisted), false, []⟩)
    stuckCleanup_quiet (by decide) (by decide) hvalue hC hne
  exact Prod.ext (by rw [hrun]) rfl

def twoConfigs : FsState := afterStuckCleanup (shippedConfig "Soil-1") (shippedConfig "Soil-2")

theorem twoConfigs_eq :
    twoConfigs = afterStuckCleanup (shippedConfig "Soil-1") (shippedConfig "Soil-2") := rfl

/-- A second write that only fails to open its `.tmp` silently goes back two configurations. -/
theorem beginWrite_not_allOrNothing :
    ¬ AllOrNothing firmwareRules (shippedConfig "Soil-3") unwritableTmp twoConfigs := by
  have hdir := afterStuckCleanup_dir shipped_writable_1 shipped_writable_2 shipped_differ_21
  rw [← twoConfigs_eq] at hdir
  have hconfig : twoConfigs.dir.value firmwareRules .config =
      some (.ok (shippedConfig "Soil-2")) := by
    rw [hdir]
    exact (Dir.value_of_get rfl).trans shipped_writable_2.validText
  have hcleanup : twoConfigs.dir.value firmwareRules .cleanup =
      some (.ok (shippedConfig "Soil-1")) := by
    rw [hdir]
    exact (Dir.value_of_get rfl).trans shipped_writable_1.validText
  have hbackup : twoConfigs.dir.backup = some .cleanup := by
    rw [hdir]
    rfl
  refine not_allOrNothing osOnly_of_io shipped_writable_3
    ⟨shippedConfig "Soil-2", .cleanup, hconfig, by decide, shipped_differ_32,
      ⟨(.stage, .openWrite .tmp), ?_, by decide⟩, ?_, hbackup, ?_⟩
  · exact List.mem_append_left _ List.mem_cons_self
  · intro op
    simp [unwritableTmp]
  · rw [hcleanup]
    intro h
    exact absurd (shippedConfig_injective (Except.ok.inj (Option.some.inj h))) (by decide)

theorem beginWrite_allOrNothing_shipped :
    AllOrNothing firmwareRules (shippedConfig "Soil-3") unwritableTmp twoConfigs ↔
      ¬ PicksStaleBackup firmwareRules (shippedConfig "Soil-3") unwritableTmp twoConfigs :=
  beginWrite_allOrNothing_iff osOnly_of_io shipped_writable_3

end PicoDualCore
