import PicoDualCore.ConfigRecovery
set_option autoImplicit false

namespace PicoDualCore
open AtomicProgram

def FsState.write (s : FsState) (a : Artifact) (content : List Char) : FsState :=
  { s with dir := s.dir.put a (some content) }

/-- Nothing fails before the commit: only the removal of `.cleanup` may. -/
def FaultPlan.Quiet (plan : FaultPlan) : Prop := ∀ ph op, ph ≠ .cleanup → plan ph op = Option.none

theorem FaultPlan.quiet_none : FaultPlan.none.Quiet := fun _ _ _ => rfl

section Moments

variable {rules : ConfigRules} {candidate persisted : PyValue} {s : FsState} {plan : FaultPlan}
  {I : FsState → Prop} {X : FsError → FsState → Prop}

@[simp] theorem Dir.put_put {d : Dir} {a : Artifact} {x y : Option (List Char)} :
    (d.put a x).put a y = d.put a y := by
  cases a <;> rfl

theorem alone_openWrite {Q : Unit → FsState → Prop} {ph : Phase} {a : Artifact}
    (hp : plan ph (.openWrite a) = none) :
    (perform ph (.openWrite a)).alone plan I Q X s ↔
      I (s.write a []) ∧ Q () (s.write a []) := by
  simp [alone_perform, hp, FsOp.apply, FsOp.renamed, FsState.write]

/-- Every prefix of the text is in the file at some moment of the streaming. -/
theorem alone_streamInto {Q : Unit → FsState → Prop} {a : Artifact} {k : Nat}
    {written rest : List Char} (hquiet : plan.Quiet)
    (hI : ∀ n, I (s.write a (written ++ rest.take n)))
    (hQ : Q () (s.write a (written ++ rest))) :
    (streamInto a k rest).alone plan I Q X (s.write a written) := by
  induction rest generalizing k written with
  | nil => simpa [streamInto] using hQ
  | cons c rest ih =>
    have hstep : (perform .stage (.write a k c)).alone plan I
        (fun _ t => t = s.write a (written ++ [c])) X (s.write a written) := by
      rw [alone_perform, hquiet .stage _ (by simp)]
      have h1 := hI 1
      simpa [FsOp.apply, FsOp.renamed, FsState.write] using h1
    simp only [streamInto, Proc.alone_seq]
    refine Proc.alone_mono (fun _ h => h) ?_ (fun _ _ h => h) hstep
    rintro _ _ rfl
    refine ih ?_ ?_
    · intro n
      have h := hI (n + 1)
      simpa using h
    · simpa using hQ

theorem alone_close {Q : Unit → FsState → Prop} {ph : Phase} {a : Artifact}
    (hp : plan ph (.close a) = none) :
    (perform ph (.close a)).alone plan I Q X s ↔ I s ∧ Q () s := by
  simp [alone_perform, hp, FsOp.apply, FsOp.renamed]

theorem alone_writeCandidateTmp {Q : Unit → FsState → Prop} (hquiet : plan.Quiet)
    (hI : ∀ n, I (s.write .tmp ((rules.dumps candidate).take n)))
    (hQ : Q () (s.write .tmp (rules.dumps candidate))) :
    (writeCandidateTmp rules candidate).alone plan I Q X s := by
  have h0 : I (s.write .tmp []) := by simpa using hI 0
  have hall : I (s.write .tmp (rules.dumps candidate)) := by
    simpa using hI (rules.dumps candidate).length
  have hopen := hquiet .stage (.openWrite .tmp) (by simp)
  have hclose := hquiet .stage (.close .tmp) (by simp)
  simp only [writeCandidateTmp, Proc.alone_seq, alone_openWrite hopen, Proc.alone_finish]
  refine ⟨h0, alone_streamInto hquiet ?_ ?_⟩
  · simpa using hI
  · simpa [alone_close hclose] using ⟨hall, hQ⟩

def FsState.staged (rules : ConfigRules) (candidate : PyValue) (s : FsState) : FsState :=
  s.write .tmp (rules.dumps candidate)

def FsState.retired (rules : ConfigRules) (candidate : PyValue) (s : FsState) : FsState :=
  (s.staged rules candidate).rename .config .old

def FsState.promoted (rules : ConfigRules) (candidate : PyValue) (s : FsState) : FsState :=
  (s.retired rules candidate).rename .tmp .config

def FsState.committed (rules : ConfigRules) (candidate : PyValue) (s : FsState) : FsState :=
  (s.promoted rules candidate).rename .old .cleanup

def FsState.marked (rules : ConfigRules) (candidate : PyValue) (s : FsState) : FsState :=
  { s.committed rules candidate with rebootRequired := true }

theorem staged_load (hC : Writable rules candidate) :
    (s.staged rules candidate).dir.load rules .tmp = .ok candidate := by
  have hvalue : (s.staged rules candidate).dir.value rules .tmp = some (.ok candidate) := by
    simp [FsState.staged, FsState.write, hC.validText]
  exact Dir.value_eq_some.mp hvalue

theorem promotion_sources (candidate : PyValue)
    (hP : s.dir.value rules .config = some (.ok persisted)) :
    ((s.staged rules candidate).dir.get .config).isSome ∧
    ((s.retired rules candidate).dir.get .tmp).isSome ∧
    ((s.promoted rules candidate).dir.get .old).isSome := by
  have hconfig := Dir.isSome_of_value hP
  refine ⟨?_, ?_, ?_⟩
  · simpa [FsState.staged, FsState.write] using hconfig
  · simp [FsState.retired, FsState.staged, FsState.rename, FsState.write]
  · simpa [FsState.promoted, FsState.retired, FsState.staged, FsState.rename, FsState.write]
      using hconfig

theorem alone_promoteCandidate {Q : Unit → FsState → Prop} (hquiet : plan.Quiet)
    (hP : s.dir.value rules .config = some (.ok persisted)) (hC : Writable rules candidate)
    (hstage : ∀ n, I (s.write .tmp ((rules.dumps candidate).take n)))
    (h1 : I (s.retired rules candidate)) (h2 : I (s.promoted rules candidate))
    (h3 : I (s.committed rules candidate)) (hQ : Q () (s.committed rules candidate)) :
    (promoteCandidate rules candidate).alone plan I Q X s := by
  have hall : I (s.staged rules candidate) := by
    simpa [FsState.staged] using hstage (rules.dumps candidate).length
  have hload := staged_load (s := s) hC
  obtain ⟨hconfig, htmp, hold⟩ := promotion_sources candidate hP
  simp only [promoteCandidate, Proc.alone_seq]
  refine alone_writeCandidateTmp hquiet hstage ?_
  rw [← FsState.staged, alone_loadConfig (hquiet _ _ (by simp)), hload]
  refine ⟨hall, ?_⟩
  rw [alone_rename (hquiet _ _ (by simp)) hconfig, ← FsState.retired]
  refine ⟨h1, ?_⟩
  rw [alone_rename (hquiet _ _ (by simp)) htmp, ← FsState.promoted]
  refine ⟨h2, ?_⟩
  rw [alone_sync (hquiet _ _ (by simp))]
  refine ⟨h2, ?_⟩
  rw [alone_rename (hquiet _ _ (by simp)) hold, ← FsState.committed,
    alone_sync (hquiet _ _ (by simp))]
  exact ⟨h3, h3, hQ⟩

/-- The moments of a write up to its mark, for whatever becomes of its `.cleanup`. -/
theorem alone_untilMarked {Q : Classification → FsState → Prop} (hquiet : plan.Quiet)
    (hP : s.dir.value rules .config = some (.ok persisted)) (hC : Writable rules candidate)
    (hne : candidate.pyEq persisted = false)
    (hI : I s) (hstage : ∀ n, I (s.write .tmp ((rules.dumps candidate).take n)))
    (h1 : I (s.retired rules candidate)) (h2 : I (s.promoted rules candidate))
    (h3 : I (s.committed rules candidate)) (h4 : I (s.marked rules candidate))
    (hrelease : releaseCleanup.alone plan I (fun _ t => Q .rebootRequired t) X
      (s.marked rules candidate)) :
    (beginWrite rules candidate).alone plan I Q X s := by
  have hload : s.dir.load rules .config = .ok persisted := Dir.value_eq_some.mp hP
  simp only [beginWrite, hC.valid, Except.mapError, Proc.alone_seq, Proc.alone_ofExcept,
    alone_loadConfig (hquiet .persisted _ (by simp)), hload, hne]
  refine ⟨hI, ?_⟩
  simp only [Bool.false_eq_true, if_false, writeChanged, Proc.alone_seq, Proc.alone_handle]
  refine alone_promoteCandidate hquiet hP hC hstage h1 h2 h3 ?_
  rw [markRebootRequired, Proc.alone_atomic]
  exact ⟨h4, hrelease⟩

/-- The moments of a write that meets no fault. -/
theorem alone_beginWrite {Q : Classification → FsState → Prop}
    (hP : s.dir.value rules .config = some (.ok persisted)) (hC : Writable rules candidate)
    (hne : candidate.pyEq persisted = false)
    (hI : I s) (hstage : ∀ n, I (s.write .tmp ((rules.dumps candidate).take n)))
    (h1 : I (s.retired rules candidate)) (h2 : I (s.promoted rules candidate))
    (h3 : I (s.committed rules candidate)) (h4 : I (s.marked rules candidate))
    (h5 : I ((s.marked rules candidate).remove .cleanup))
    (hQ : Q .rebootRequired ((s.marked rules candidate).remove .cleanup)) :
    (beginWrite rules candidate).alone FaultPlan.none I Q X s := by
  refine alone_untilMarked FaultPlan.quiet_none hP hC hne hI hstage h1 h2 h3 h4 ?_
  simp only [releaseCleanup, Proc.alone_handle, Proc.alone_seq, fair_removeIfExists, fair_sync]
  exact ⟨h4, h5, h5, hQ⟩

def Dir.leftover (text₁ text₀ : List Char) : Dir := ⟨some text₁, none, none, some text₀⟩

theorem marked_settled_dir {text : List Char} {flag : Bool} {renames : List (Artifact × Artifact)} :
    (FsState.marked rules candidate ⟨Dir.settled text, flag, renames⟩).dir =
      Dir.leftover (rules.dumps candidate) text := rfl

/-- A write whose `.cleanup` cannot be removed reports success all the same. -/
theorem run_beginWrite_leftover (hquiet : plan.Quiet)
    (hstat : plan .cleanup (.stat .cleanup) = none)
    (hremove : plan .cleanup (.remove .cleanup) = some .io)
    (hP : s.dir.value rules .config = some (.ok persisted)) (hC : Writable rules candidate)
    (hne : candidate.pyEq persisted = false) :
    (beginWrite rules candidate).run plan s = (.ret .rebootRequired, s.marked rules candidate) := by
  have hthere : ((s.marked rules candidate).dir.get .cleanup).isSome := by
    simpa [FsState.marked, FsState.committed, FsState.promoted, FsState.retired, FsState.staged,
      FsState.rename, FsState.write] using Dir.isSome_of_value hP
  have hends : (beginWrite rules candidate).alone plan (fun _ => True)
      (fun c t => c = .rebootRequired ∧ t = s.marked rules candidate) (fun _ _ => False) s := by
    refine alone_untilMarked hquiet hP hC hne trivial (fun _ => trivial) trivial trivial trivial
      trivial ?_
    simp only [releaseCleanup, removeIfExists, Proc.alone_handle, Proc.alone_seq,
      alone_pathExists hstat, hthere, if_true, alone_perform, hremove, Fault.error]
    exact ⟨trivial, trivial, trivial, rfl⟩
  rcases Proc.alone_run hends with ⟨c, hr, rfl, ht⟩ | ⟨e, -, h⟩
  · exact Prod.ext hr ht
  · exact h.elim

theorem run_beginWrite_leftover_dir {text : List Char} (hquiet : plan.Quiet)
    (hstat : plan .cleanup (.stat .cleanup) = none)
    (hremove : plan .cleanup (.remove .cleanup) = some .io)
    (hP : validText rules text = some (.ok persisted)) (hC : Writable rules candidate)
    (hne : candidate.pyEq persisted = false) :
    ((beginWrite rules candidate).run plan ⟨Dir.settled text, false, []⟩).2.dir =
      Dir.leftover (rules.dumps candidate) text := by
  have hvalue : (Dir.settled text).value rules .config = some (.ok persisted) :=
    (Dir.value_of_get rfl).trans hP
  rw [run_beginWrite_leftover hquiet hstat hremove hvalue hC hne, marked_settled_dir]

theorem visits_retired (hP : s.dir.value rules .config = some (.ok persisted))
    (hC : Writable rules candidate) (hne : candidate.pyEq persisted = false) :
    ∃ q, Proc.Visits (· = FaultPlan.none) (beginWrite rules candidate) s q
      (s.retired rules candidate) := by
  have hload : s.dir.load rules .config = .ok persisted := Dir.value_eq_some.mp hP
  obtain ⟨hconfig, -, -⟩ := promotion_sources candidate hP
  have hpersisted : Proc.Visits (· = FaultPlan.none) (loadConfig rules .persisted .config) s
      (.ret persisted) s := by
    refine Proc.visits_of_alone (I := fun _ => True) (X := fun _ _ => False) ?_ (by simp)
    simp [hload]
  have hblock : Proc.Visits (· = FaultPlan.none)
      ((writeCandidateTmp rules candidate).bind (fun _ => (loadConfig rules .stage .tmp).bind
        (fun _ => perform .promote (.rename .config .old)))) s (.ret ())
      (s.retired rules candidate) := by
    refine Proc.visits_of_alone (I := fun _ => True) (X := fun _ _ => False) ?_ (by simp)
    rw [Proc.alone_bind]
    refine alone_writeCandidateTmp FaultPlan.quiet_none (fun _ => trivial) ?_
    rw [← FsState.staged, Proc.alone_bind, fair_loadConfig, staged_load hC]
    refine ⟨trivial, ?_⟩
    rw [fair_rename hconfig]
    exact ⟨trivial, rfl, rfl⟩
  obtain ⟨q, hpromote⟩ : ∃ q, Proc.Visits (· = FaultPlan.none) (promoteCandidate rules candidate) s
      q (s.retired rules candidate) := by
    have h := hblock.bind (fun _ => (do
      perform .promote (.rename .tmp .config)
      perform .promote .sync
      perform .commit (.rename .old .cleanup)
      perform .commit .sync : FsProg Unit))
    simp only [Proc.bind_assoc] at h
    exact ⟨_, h⟩
  obtain ⟨q', hchanged⟩ : ∃ q, Proc.Visits (· = FaultPlan.none) (writeChanged rules candidate) s
      q (s.retired rules candidate) :=
    ⟨_, (hpromote.handle failedPromotion).bind (fun _ => (do
      markRebootRequired
      releaseCleanup
      pure .rebootRequired : FsProg Classification))⟩
  have hwrite := hpersisted.bind (fun persisted =>
    if candidate.pyEq persisted then pure .unchanged else writeChanged rules candidate)
  simp only [Proc.bind_ret, hne, Bool.false_eq_true, if_false] at hwrite
  refine ⟨q', Proc.Reaches.trans ?_ hchanged⟩
  unfold beginWrite
  rw [hC.valid]
  exact hwrite

end Moments

end PicoDualCore
