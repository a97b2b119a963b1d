import PicoDualCore.ConfigChanges
import PicoDualCore.ConfigPowerLoss
set_option autoImplicit false

namespace PicoDualCore
open AtomicProgram

def Dir.Sound (rules : ConfigRules) (d : Dir) : Prop :=
  ∀ a, a ≠ .tmp → ∀ e, d.value rules a ≠ some (.error e)

section Sound

variable {rules : ConfigRules} {d : Dir} {a b : Artifact}

theorem Dir.Sound.put (h : d.Sound rules) {x : Option (List Char)}
    (hx : a ≠ .tmp → ∀ e, x.bind (validText rules) ≠ some (.error e)) : (d.put a x).Sound rules := by
  intro b hb e
  rw [Dir.value_put]
  by_cases hab : b = a
  · rw [if_pos hab]
    exact hx (hab ▸ hb) e
  · rw [if_neg hab]
    exact h b hb e

theorem Dir.Sound.remove (h : d.Sound rules) : (d.put a none).Sound rules :=
  h.put (fun _ e he => by cases he)

theorem Dir.Sound.rename (h : d.Sound rules) (ha : ∀ e, d.value rules a ≠ some (.error e)) :
    ((d.put b (d.get a)).put a none).Sound rules :=
  (h.put (fun _ e => ha e)).remove

/-- What recovery leaves behind when it returns a configuration. -/
theorem sound_of_recovery {v : PyValue} (h : (recovery rules d).1 = .ret v) :
    (recovery rules d).2.dir.Sound rules := by
  have hv := recovery_ret_iff.mp h
  obtain ⟨hc, -, ho, hk⟩ := recovery_dir hv
  have hkept : (recovery rules d).2.dir.get .cleanup = none ∨
      (recovery rules d).2.dir.get .cleanup = d.get .cleanup := by
    obtain ⟨q, hq, -, -⟩ := Proc.run_visits (· = FaultPlan.none) rfl (recover rules) (boot d)
    exact (Proc.alone_visits (.inr rfl) (recover_cleanup (boot d) (d.branch_of_choice hv)) hq).1
  intro a ha e he
  cases a with
  | config => rw [hc] at he; cases he
  | tmp => exact ha rfl
  | old => rw [Dir.value_of_absent ho] at he; cases he
  | cleanup =>
    have hstrands := hk.mp (Dir.isSome_of_value he)
    rcases hkept with hn | hsame
    · rw [Dir.value_of_absent hn] at he
      cases he
    · have hnone : (recovery rules d).2.dir.value rules .cleanup = none := by
        rw [Dir.value, hsame]
        exact hstrands.2.1
      rw [hnone] at he
      cases he

end Sound

section Storing

variable {rules : ConfigRules} {α β : Type} {ph : Phase} {a : Artifact} {s : FsState}
  {Q : α → FsState → Prop} {X : FsError → FsState → Prop}

abbrev Storing (rules : ConfigRules) (Q : α → FsState → Prop) (X : FsError → FsState → Prop)
    (p : FsProg α) (s : FsState) : Prop :=
  p.wp (fun _ => True) Eq (fun _ t => t.dir.Sound rules) Q X s

abbrev Stores (rules : ConfigRules) (p : FsProg α) (s : FsState) : Prop :=
  Storing rules (fun _ t => t.dir.Sound rules) (fun _ t => t.dir.Sound rules) p s

theorem storing_seq {Q' : β → FsState → Prop} {p : FsProg α} {f : α → FsProg β}
    (hp : Storing rules Q X p s) (hf : ∀ a t, Q a t → Storing rules Q' X (f a) t) :
    Storing rules Q' X (p >>= f) s :=
  (Proc.wp_seq _ _ _).mpr (Proc.wp_mono hp (fun _ _ h => h) hf (fun _ _ h => h))

theorem storing_perform {Q : Unit → FsState → Prop} {op : FsOp} (hs : s.dir.Sound rules)
    (hX : ∀ e, X e s) (hop : ∀ d, op.apply s.dir = .ok d → d.Sound rules ∧
      Q () { s with dir := d, renames := s.renames ++ op.renamed }) :
    Storing rules Q X (perform ph op) s := by
  refine Proc.wp_atomic (fun t ht plan _ => ?_)
  cases ht
  unfold FsOp.attempt
  cases plan ph op with
  | some f => exact ⟨hs, hX _⟩
  | none =>
    cases hd : op.apply s.dir with
    | error errno => exact ⟨hs, hX _⟩
    | ok d => exact hop d hd

theorem stores_perform {op : FsOp} (hs : s.dir.Sound rules)
    (hop : ∀ d, op.apply s.dir = .ok d → d.Sound rules) : Stores rules (perform ph op) s :=
  storing_perform hs (fun _ => hs) (fun d hd => ⟨hop d hd, hop d hd⟩)

theorem stores_remove (hs : s.dir.Sound rules) : Stores rules (perform ph (.remove a)) s := by
  refine stores_perform hs (fun d hd => ?_)
  simp only [FsOp.apply] at hd
  split at hd <;> cases hd
  exact hs.remove

theorem stores_rename {b : Artifact} (hs : s.dir.Sound rules) (ha : a ≠ .tmp) :
    Stores rules (perform ph (.rename a b)) s := by
  refine stores_perform hs (fun d hd => ?_)
  simp only [FsOp.apply] at hd
  split at hd <;> cases hd
  exact hs.rename (hs a ha)

theorem stores_sync (hs : s.dir.Sound rules) : Stores rules (perform ph .sync) s :=
  stores_perform hs (fun _ hd => by cases hd; exact hs)

theorem storing_pathExists {Q : Bool → FsState → Prop} (hs : s.dir.Sound rules)
    (hQ : ∀ found, Q found s) (hX : ∀ e, X e s) : Storing rules Q X (pathExists ph a) s := by
  unfold pathExists
  rw [Storing, Proc.wp_handle]
  refine Proc.wp_mono (Q := fun _ t => t = s) (X := fun _ t => t = s) ?_ (fun _ _ h => h)
    ?_ ?_
  · refine storing_seq (Q := fun _ t => t = s) ?_ (fun _ t ht => ht)
    refine storing_perform hs (fun _ => rfl) (fun d hd => ?_)
    simp only [FsOp.apply] at hd
    split at hd <;> cases hd
    exact ⟨hs, by simp [FsOp.renamed]⟩
  · rintro found t rfl
    exact hQ found
  · rintro e t rfl
    cases e with
    | os errno =>
      dsimp only
      split
      · exact hQ false
      · exact hX _
    | memory => exact hX _
    | config e => exact hX _
    | python e => exact hX _

theorem stores_pathExists (hs : s.dir.Sound rules) : Stores rules (pathExists ph a) s :=
  storing_pathExists hs (fun _ => hs) (fun _ => hs)

theorem stores_removeIfExists (hs : s.dir.Sound rules) : Stores rules (removeIfExists ph a) s := by
  refine storing_seq (stores_pathExists hs) (fun found t ht => ?_)
  cases found with
  | false => exact ht
  | true => exact stores_remove ht

theorem storing_readFile {Q : List Char → FsState → Prop} (hs : s.dir.Sound rules)
    (hQ : ∀ text, s.dir.get a = some text → Q text s) (hmem : X .memory s)
    (hos : ∀ errno, X (.os errno) s) : Storing rules Q X (readFile ph a) s := by
  refine Proc.wp_atomic (fun t ht plan _ => ?_)
  cases ht
  unfold FsOp.attempt
  cases plan ph (.read a) with
  | some f => cases f <;> exact ⟨hs, by first | exact hmem | exact hos _⟩
  | none =>
    cases hg : s.dir.get a with
    | none => simpa [FsOp.apply, hg] using ⟨hs, hos ENOENT⟩
    | some text => simpa [FsOp.apply, FsOp.renamed, hg] using ⟨hs, hQ text hg⟩

theorem storing_loadConfig {Q : PyValue → FsState → Prop} (hs : s.dir.Sound rules)
    (hQ : ∀ v, s.dir.load rules a = .ok v → Q v s) (hmem : X .memory s)
    (hreport : ∀ e, X (.config e) s)
    (hraise : ∀ e, s.dir.load rules a = .error (.python e) → X (.python e) s) :
    Storing rules Q X (loadConfig rules ph a) s := by
  refine storing_seq (Q := fun value t => t = s ∧ s.dir.load rules a = rules.validateConfig value)
    ?_ ?_
  · refine storing_seq (Q := fun text t => t = s ∧ s.dir.get a = some text) ?_ ?_
    · refine (Proc.wp_handle _ _ _).mpr ?_
      refine Proc.wp_mono (storing_readFile (X := fun e t => t = s ∧ (e = .memory ∨ ∃ n, e = .os n))
        hs (fun text h => ⟨rfl, h⟩) ⟨rfl, .inl rfl⟩ (fun n => ⟨rfl, .inr ⟨n, rfl⟩⟩))
        (fun _ _ h => h) (fun _ _ h => h) ?_
      rintro e t ⟨rfl, rfl | ⟨n, rfl⟩⟩
      · exact hmem
      · exact hreport _
    · rintro text t ⟨rfl, hg⟩
      cases hl : rules.loads text with
      | error err => exact hreport _
      | ok value =>
        by_cases hd : value.isDict = true
        · simp only [hd, if_true]
          exact ⟨rfl, by simp [Dir.load, hg, decodeConfig, hl, hd]⟩
        · simp only [hd, Bool.false_eq_true, if_false]
          exact hreport _
  · rintro value t ⟨rfl, hload⟩
    cases hv : rules.validateConfig value with
    | ok v => exact hQ v (hload.trans hv)
    | error e =>
      cases e with
      | config e => exact hreport e
      | python e => exact hraise e (hload.trans hv)

theorem stores_loadConfig (hs : s.dir.Sound rules) : Stores rules (loadConfig rules ph a) s :=
  storing_loadConfig hs (fun _ _ => hs) hs (fun _ => hs) (fun _ _ => hs)

/-- Reading the configuration raises no exception but a `MemoryError` or a `ConfigError`. -/
theorem storing_readPersisted (hs : s.dir.Sound rules) :
    Storing rules (fun _ t => t.dir.Sound rules)
      (fun e t => t.dir.Sound rules ∧ (e = .memory ∨ ∃ err, e = .config err))
      (readPersisted rules) s := by
  refine storing_loadConfig hs (fun _ _ => hs) ⟨hs, .inl rfl⟩ (fun err => ⟨hs, .inr ⟨err, rfl⟩⟩) ?_
  intro e he
  exact (hs .config (by decide) e (Dir.value_eq_some.mpr he)).elim

theorem Dir.Sound.stage (hs : s.dir.Sound rules) {x : Option (List Char)} :
    (s.dir.put .tmp x).Sound rules :=
  hs.put (fun h => (h rfl).elim)

theorem stores_streamInto {k : Nat} {text : List Char} (hs : s.dir.Sound rules) :
    Stores rules (streamInto .tmp k text) s := by
  induction text generalizing k s with
  | nil => exact hs
  | cons c rest ih =>
    refine storing_seq (stores_perform hs (fun d hd => ?_)) (fun _ _ ht => ih ht)
    cases hd
    exact hs.stage

theorem stores_writeCandidateTmp {candidate : PyValue} (hs : s.dir.Sound rules) :
    Stores rules (writeCandidateTmp rules candidate) s := by
  have hclose : ∀ t : FsState, t.dir.Sound rules →
      Stores rules (perform .stage (.close .tmp)) t :=
    fun t ht => stores_perform ht (fun _ hd => by cases hd; exact ht)
  refine storing_seq (stores_perform hs (fun d hd => ?_)) (fun _ t ht => ?_)
  · cases hd
    exact hs.stage
  · refine (Proc.wp_finish _ _ _).mpr (Proc.wp_mono (stores_streamInto ht) (fun _ _ h => h) ?_ ?_)
    · exact fun _ u hu => hclose u hu
    · exact fun _ u hu => hclose u hu

theorem stores_promoteCandidate {candidate : PyValue} (hs : s.dir.Sound rules) :
    Stores rules (promoteCandidate rules candidate) s := by
  refine storing_seq (stores_writeCandidateTmp hs) (fun _ s hs => ?_)
  refine storing_seq (Q := fun _ t => t.dir.Sound rules ∧ ∃ v, t.dir.load rules .tmp = .ok v)
    (storing_loadConfig hs (fun v hv => ⟨hs, v, hv⟩) hs (fun _ => hs) (fun _ _ => hs)) ?_
  rintro _ s ⟨hs, v, hv⟩
  have hkept : ∀ d, (FsOp.rename .config .old).apply s.dir = .ok d →
      d.Sound rules ∧ d.value rules .tmp = some (.ok v) := by
    intro d hd
    simp only [FsOp.apply] at hd
    split at hd <;> cases hd
    exact ⟨hs.rename (hs .config (by decide)), by simpa using Dir.value_eq_some.mpr hv⟩
  refine storing_seq (Q := fun _ t => t.dir.Sound rules ∧ t.dir.value rules .tmp = some (.ok v))
    (storing_perform hs (fun _ => hs) (fun d hd => ⟨(hkept d hd).1, hkept d hd⟩)) ?_
  rintro _ s ⟨hs, hv⟩
  refine storing_seq (stores_perform hs (fun d hd => ?_)) (fun _ s hs => ?_)
  · simp only [FsOp.apply] at hd
    split at hd <;> cases hd
    exact hs.rename (fun e he => by rw [hv] at he; cases he)
  refine storing_seq (stores_sync hs) (fun _ s hs => ?_)
  refine storing_seq (stores_rename hs (by decide)) (fun _ s hs => ?_)
  exact stores_sync hs

theorem storing_backupPath (hs : s.dir.Sound rules) :
    Storing rules (fun backup t => t.dir.Sound rules ∧ backup ≠ some .tmp)
      (fun _ t => t.dir.Sound rules) backupPath s := by
  unfold backupPath
  refine storing_seq (stores_pathExists hs) (fun found s hs => ?_)
  cases found with
  | true => exact ⟨hs, by decide⟩
  | false =>
    refine storing_seq (stores_pathExists hs) (fun found s hs => ?_)
    cases found with
    | true => exact ⟨hs, by decide⟩
    | false => exact ⟨hs, by decide⟩

theorem stores_tryRestore (hs : s.dir.Sound rules) : Stores rules tryRestore s := by
  refine (Proc.wp_handle _ _ _).mpr (Proc.wp_mono (Q := fun _ t => t.dir.Sound rules)
    (X := fun _ t => t.dir.Sound rules) ?_ (fun _ _ h => h) (fun _ _ h => h) ?_)
  · refine storing_seq (storing_backupPath hs) ?_
    rintro backup s ⟨hs, hb⟩
    refine storing_seq (Q := fun _ t => t.dir.Sound rules) ?_ (fun _ s hs => ?_)
    · cases backup with
      | none => exact hs
      | some backup =>
        exact storing_seq (stores_removeIfExists hs)
          (fun _ s hs => stores_rename hs (fun h => hb (h ▸ rfl)))
    · exact storing_seq (stores_removeIfExists hs) (fun _ s hs => stores_sync hs)
  · intro e t ht
    cases e <;> exact ht

theorem stores_failedPromotion {err : FsError} (hs : s.dir.Sound rules) :
    Stores rules (failedPromotion err) s := by
  cases err with
  | memory => exact hs
  | os errno => exact storing_seq (stores_tryRestore hs) (fun _ _ ht => ht)
  | config e => exact storing_seq (stores_tryRestore hs) (fun _ _ ht => ht)
  | python e => exact hs

theorem stores_releaseCleanup (hs : s.dir.Sound rules) : Stores rules releaseCleanup s := by
  refine (Proc.wp_handle _ _ _).mpr (Proc.wp_mono (Q := fun _ t => t.dir.Sound rules)
    (X := fun _ t => t.dir.Sound rules) ?_ (fun _ _ h => h) (fun _ _ h => h) ?_)
  · exact storing_seq (stores_removeIfExists hs) (fun _ s hs => stores_sync hs)
  · intro e t ht
    cases e <;> exact ht

theorem stores_writeChanged {candidate : PyValue} (hs : s.dir.Sound rules) :
    Stores rules (writeChanged rules candidate) s := by
  refine storing_seq (Q := fun _ t => t.dir.Sound rules) ?_ (fun _ s hs => ?_)
  · exact (Proc.wp_handle _ _ _).mpr (Proc.wp_mono (stores_promoteCandidate hs) (fun _ _ h => h)
      (fun _ _ h => h) (fun _ _ ht => stores_failedPromotion ht))
  · refine storing_seq (Q := fun _ t => t.dir.Sound rules) ?_
      (fun _ s hs => storing_seq (stores_releaseCleanup hs) (fun _ _ ht => ht))
    exact Proc.wp_atomic (fun t ht _ _ => by cases ht; exact ⟨hs, hs⟩)

/-- Whatever a write meets, it leaves sound files behind, and between its steps too. -/
theorem stores_beginWriteResult {candidate : PyValue} (hs : s.dir.Sound rules) :
    Stores rules (beginWriteResult rules candidate) s := by
  refine storing_seq (Q := fun _ t => t.dir.Sound rules) ?_ (fun _ s hs => ?_)
  · cases rules.validateConfig candidate <;> exact hs
  refine storing_seq (stores_loadConfig hs) (fun persisted s hs => ?_)
  by_cases h : candidate.pyEq persisted = true
  · simp only [h, if_true]
    exact hs
  · simp only [h, Bool.false_eq_true, if_false]
    exact storing_seq (stores_writeChanged hs) (fun _ _ ht => ht)

end Storing

end PicoDualCore
