import PicoDualCore.ConfigRollback
set_option autoImplicit false

namespace PicoDualCore
open AtomicProgram

/-- Where a power loss can fall inside a fault-free write that starts at `s`. -/
inductive WriteMoment (rules : ConfigRules) (candidate : PyValue) (s : FsState) : FsState → Prop where
  | start : WriteMoment rules candidate s s
  | staging (n : Nat) :
    WriteMoment rules candidate s (s.write .tmp ((rules.dumps candidate).take n))
  | retired : WriteMoment rules candidate s (s.retired rules candidate)
  | promoted : WriteMoment rules candidate s (s.promoted rules candidate)
  | committed : WriteMoment rules candidate s (s.committed rules candidate)
  | marked : WriteMoment rules candidate s (s.marked rules candidate)
  | released : WriteMoment rules candidate s ((s.marked rules candidate).remove .cleanup)

/-- The moments of a fault-free `begin_write`, as the crash points of a run. -/
abbrev CrashPoint (rules : ConfigRules) (candidate : PyValue) (s t : FsState) : Prop :=
  ∃ q, Proc.Visits (· = FaultPlan.none) (beginWrite rules candidate) s q t

/-- The commit rename is among the completed ones. -/
def FsState.reachedCommit (t : FsState) : Prop := (.old, .cleanup) ∈ t.renames

instance (t : FsState) : Decidable t.reachedCommit := inferInstanceAs (Decidable (_ ∈ _))

/-- The rename that takes `config.json` out of place has completed. -/
def FsState.leftPlace (t : FsState) : Prop := (.config, .old) ∈ t.renames

instance (t : FsState) : Decidable t.leftPlace := inferInstanceAs (Decidable (_ ∈ _))

/-- The configuration that counts as committed at a crash point. -/
def FsState.committedValue (candidate persisted : PyValue) (t : FsState) : PyValue :=
  if t.reachedCommit then candidate else persisted

section PowerLoss

variable {rules : ConfigRules} {candidate persisted : PyValue} {s t : FsState} {d d' : Dir}
  {v : PyValue} {flag : Bool}

theorem crashPoint_moment (hP : s.dir.value rules .config = some (.ok persisted))
    (hC : Writable rules candidate) (hne : candidate.pyEq persisted = false)
    (h : CrashPoint rules candidate s t) : WriteMoment rules candidate s t := by
  obtain ⟨q, hvis⟩ := h
  have hall : (beginWrite rules candidate).alone FaultPlan.none (WriteMoment rules candidate s)
      (fun _ _ => True) (fun _ _ => True) s :=
    alone_beginWrite hP hC hne .start .staging .retired .promoted .committed .marked .released
      trivial
  exact (Proc.alone_visits .start hall hvis).1

/-- A `.cleanup` that is present is usable. -/
def Dir.CleanupUsable (rules : ConfigRules) (d : Dir) : Prop :=
  d.get .cleanup = none ∨ (d.value rules .cleanup).isSome

theorem Dir.CleanupUsable.not_strands (h : d.CleanupUsable rules) : ¬ d.StrandsCleanup rules := by
  rintro ⟨hk, hkv, -, -⟩
  rcases h with h | h
  · simp [h] at hk
  · simp [hkv] at h

theorem recover_cleanup (s : FsState) (h : s.dir.Branch rules (.ok v)) :
    (recover rules).alone FaultPlan.none
      (fun t => t.dir.get .cleanup = none ∨ t.dir.get .cleanup = s.dir.get .cleanup)
      (fun _ _ => True) (fun _ _ => True) s := by
  cases h with
  | committed hk hc =>
    rw [recover_committed hk (Dir.value_eq_some.mp hc)]
    simp [FsState.remove]
  | predecessor hc hk =>
    obtain ⟨e, he⟩ := Dir.value_eq_none.mp hc
    rw [recover_predecessor he (Dir.value_eq_some.mp hk)]
    simp [FsState.remove, FsState.rename]
  | old hn ho =>
    have hn' : s.dir.NoCommit rules :=
      hn.imp_right (And.imp Dir.value_eq_none.mp Dir.value_eq_none.mp)
    rw [recover_old hn' (Dir.value_eq_some.mp ho)]
    simp [FsState.remove, FsState.rename]
  | config hk ho hc =>
    rw [recover_config hk (Dir.value_eq_none.mp ho) (Dir.value_eq_some.mp hc)]
    simp [FsState.remove]
  | tmp hk ho hc ht =>
    rw [recover_tmp (Dir.value_eq_none.mp hk) (Dir.value_eq_none.mp ho) (Dir.value_eq_none.mp hc)
      (Dir.value_eq_some.mp ht)]
    simp [FsState.remove, FsState.rename]

theorem cutRecovery_cleanupUsable (hv : d.choice rules = some (.ok v)) (hu : d.CleanupUsable rules)
    (h : CutRecovery rules d d') : d'.CleanupUsable rules := by
  obtain ⟨q, t, hvis, rfl⟩ := h
  have hk := recover_cleanup (boot d) (d.branch_of_choice hv)
  rcases (Proc.alone_visits (.inr rfl) hk hvis).1 with hnone | hsame
  · exact .inl hnone
  · rcases hu with hu | hu
    · exact .inl (hsame.trans hu)
    · refine .inr ?_
      rw [Dir.value, hsame]
      exact hu

theorem restarts_cleanupUsable (hv : d.choice rules = some (.ok v)) (hagree : ¬ d.OldDisagrees rules)
    (hu : d.CleanupUsable rules) (h : Relation.ReflTransGen (CutRecovery rules) d d') :
    d'.CleanupUsable rules := by
  induction h with
  | refl => exact hu
  | tail hstar hcut ih => exact cutRecovery_cleanupUsable (restarts_keep hv hagree hstar).1 ih hcut

/-- Recovery completes with `v` and leaves `config.json`, holding it, as the only file. -/
def SettlesOn (rules : ConfigRules) (d : Dir) (v : PyValue) : Prop :=
  (recovery rules d).1 = .ret v ∧
    ∃ text, (recovery rules d).2.dir = Dir.settled text ∧ decodeConfig rules .config text = .ok v

theorem settlesOn_of_choice (hv : d.choice rules = some (.ok v)) (hu : d.CleanupUsable rules) :
    SettlesOn rules d v := by
  have hret := recovery_ret_iff.mpr hv
  exact ⟨hret, settled_of_recovery hv hu.not_strands⟩

theorem restarts_settleOn (hv : d.choice rules = some (.ok v)) (hagree : ¬ d.OldDisagrees rules)
    (hu : d.CleanupUsable rules) (h : Relation.ReflTransGen (CutRecovery rules) d d') :
    SettlesOn rules d' v :=
  settlesOn_of_choice (restarts_keep hv hagree h).1 (restarts_cleanupUsable hv hagree hu h)

/-- What a crash point of a write from the steady state chooses. -/
theorem moment_choice {text : List Char} (hP : decodeConfig rules .config text = .ok persisted)
    (hC : Writable rules candidate)
    (h : WriteMoment rules candidate ⟨Dir.settled text, flag, []⟩ t) :
    t.dir.choice rules = some (.ok (t.committedValue candidate persisted)) ∧
      ¬ t.dir.OldDisagrees rules ∧ t.dir.CleanupUsable rules := by
  have hP' : validText rules text = some (.ok persisted) := validText_eq_some.mpr hP
  have hC' := hC.validText
  cases h <;>
    simp [FsState.committedValue, FsState.reachedCommit, FsState.write, FsState.retired,
      FsState.promoted, FsState.committed, FsState.marked, FsState.staged, FsState.rename,
      FsState.remove, Dir.settled, Dir.choice, Dir.order, Dir.value, Dir.get, Dir.put,
      Dir.OldDisagrees, Dir.CleanupUsable, List.findSome?_cons, hP', hC']

/-- A power loss at any point of a write from the steady state, and any power losses in the
recoveries that follow: the first recovery that completes settles on the committed configuration. -/
theorem beginWrite_powerLoss {text : List Char}
    (hP : decodeConfig rules .config text = .ok persisted) (hC : Writable rules candidate)
    (hne : candidate.pyEq persisted = false)
    (hcrash : CrashPoint rules candidate ⟨Dir.settled text, flag, []⟩ t)
    (hcuts : Relation.ReflTransGen (CutRecovery rules) t.dir d') :
    SettlesOn rules d' (t.committedValue candidate persisted) := by
  have hvalue : (Dir.settled text).value rules .config = some (.ok persisted) := validText_eq_some.mpr hP
  obtain ⟨hv, hagree, hu⟩ := moment_choice hP hC (crashPoint_moment hvalue hC hne hcrash)
  exact restarts_settleOn hv hagree hu hcuts

theorem beginWrite_powerLoss_shipped :
    let s : FsState := ⟨Dir.settled (firmwareRules.dumps (shippedConfig "Soil-1")), false, []⟩
    let t := s.retired firmwareRules (shippedConfig "Soil-2")
    SettlesOn firmwareRules t.dir
      (t.committedValue (shippedConfig "Soil-2") (shippedConfig "Soil-1")) :=
  beginWrite_powerLoss (validText_eq_some.mp shipped_writable_1.validText) shipped_writable_2
    shipped_differ_21
    (visits_retired ((Dir.value_of_get rfl).trans shipped_writable_1.validText)
      shipped_writable_2 shipped_differ_21) .refl

end PowerLoss

/-- The state with the rename log of the next write still empty. -/
def FsState.nextWrite (s : FsState) : FsState := { s with renames := [] }

/-- Recovery at a crash point returns what counts as committed there, neither the configuration
in the leftover nor a candidate before its commit. -/
structure RecoversCommitted (rules : ConfigRules) (stale persisted candidate : PyValue)
    (t : FsState) : Prop where
  committed : (recovery rules t.dir).1 = .ret (t.committedValue candidate persisted)
  notStale : stale ≠ candidate → (recovery rules t.dir).1 ≠ .ret stale
  notEarly : ¬ t.reachedCommit → (recovery rules t.dir).1 ≠ .ret candidate

section Leftover

variable {rules : ConfigRules} {stale persisted candidate : PyValue} {s t : FsState}
  {plan : FaultPlan} {text₀ text₁ : List Char} {flag : Bool}

/-- A committed write whose `.cleanup` survives. -/
theorem leftover_of_write (hos : plan.OsOnly) (hC : Writable rules persisted)
    (hwrite : (beginWrite rules persisted).run plan ⟨Dir.settled text₀, flag, []⟩ =
      (.ret .rebootRequired, s)) (hleft : (s.dir.get .cleanup).isSome) :
    s.dir = Dir.leftover (rules.dumps persisted) text₀ := by
  rcases Proc.alone_run (ends_beginWrite (s := ⟨Dir.settled text₀, flag, []⟩) hos hC) with
    ⟨c, hr, ⟨rfl, -⟩ | ⟨-, hw⟩⟩ | ⟨e, hr, -⟩
  · rw [hwrite] at hr; cases hr
  · rw [hwrite] at hw
    rcases hw.dir with hd | hd
    · exact hd
    · rw [hd] at hleft; cases hleft
  · rw [hwrite] at hr; cases hr

theorem leftover_moment (h₀ : decodeConfig rules .config text₀ = .ok stale)
    (h₁ : decodeConfig rules .config text₁ = .ok persisted) (hC : Writable rules candidate)
    (h : WriteMoment rules candidate ⟨Dir.leftover text₁ text₀, flag, []⟩ t) :
    ((t.leftPlace → t.reachedCommit) ∧
      t.dir.choice rules = some (.ok (t.committedValue candidate persisted))) ∨
    (t.leftPlace ∧ ¬ t.reachedCommit ∧
      (t.dir.choice rules = some (.ok stale) ∨ t.dir.choice rules = some (.ok candidate))) := by
  have h₀' : validText rules text₀ = some (.ok stale) := validText_eq_some.mpr h₀
  have h₁' : validText rules text₁ = some (.ok persisted) := validText_eq_some.mpr h₁
  have hC' := hC.validText
  cases h <;>
    simp [FsState.committedValue, FsState.reachedCommit, FsState.leftPlace, FsState.write,
      FsState.retired, FsState.promoted, FsState.committed, FsState.marked, FsState.staged,
      FsState.rename, FsState.remove, Dir.leftover, Dir.choice, Dir.order, Dir.value, Dir.get,
      Dir.put, List.findSome?_cons, h₀', h₁', hC']

theorem recoversCommitted (hdiffers : candidate ≠ persisted) (hstale : persisted ≠ stale)
    (hv : t.dir.choice rules = some (.ok (t.committedValue candidate persisted))) :
    RecoversCommitted rules stale persisted candidate t := by
  have hret := recovery_ret_iff.mpr hv
  refine ⟨hret, fun hne => ?_, fun hearly => ?_⟩
  · rw [hret, FsState.committedValue]
    split <;> simp [hne.symm, hstale]
  · rw [hret, FsState.committedValue, if_neg hearly]
    simp [hdiffers.symm]

theorem not_recoversCommitted (hdiffers : candidate ≠ persisted) (hstale : persisted ≠ stale)
    (hearly : ¬ t.reachedCommit)
    (hv : t.dir.choice rules = some (.ok stale) ∨ t.dir.choice rules = some (.ok candidate)) :
    ¬ RecoversCommitted rules stale persisted candidate t := by
  intro h
  have hret := recovery_ret_iff.mp h.committed
  rw [FsState.committedValue, if_neg hearly] at hret
  rcases hv with hv | hv
  · rw [hv] at hret
    exact hstale (Except.ok.inj (Option.some.inj hret)).symm
  · rw [hv] at hret
    exact hdiffers (Except.ok.inj (Option.some.inj hret))

/-- Beside a leftover `.cleanup` a power loss is harmless exactly outside the window between the
rename of `config.json` and the commit rename. -/
theorem leftover_powerLoss_iff (hos : plan.OsOnly)
    (h₀ : decodeConfig rules .config text₀ = .ok stale) (h₁ : Writable rules persisted)
    (hC : Writable rules candidate)
    (hwrite : (beginWrite rules persisted).run plan ⟨Dir.settled text₀, flag, []⟩ =
      (.ret .rebootRequired, s)) (hleft : (s.dir.get .cleanup).isSome)
    (hstale : persisted ≠ stale) (hdiffers : candidate ≠ persisted)
    (hne : candidate.pyEq persisted = false)
    (hcrash : CrashPoint rules candidate s.nextWrite t) :
    RecoversCommitted rules stale persisted candidate t ↔ (t.leftPlace → t.reachedCommit) := by
  have hs : s.nextWrite = ⟨Dir.leftover (rules.dumps persisted) text₀, s.rebootRequired, []⟩ := by
    rw [FsState.nextWrite, leftover_of_write hos h₁ hwrite hleft]
  have h₁' : decodeConfig rules .config (rules.dumps persisted) = .ok persisted :=
    validText_eq_some.mp h₁.validText
  rw [hs] at hcrash
  have hvalue : (Dir.leftover (rules.dumps persisted) text₀).value rules .config =
      some (.ok persisted) := h₁.validText
  have hmoment := crashPoint_moment hvalue hC hne hcrash
  rcases leftover_moment h₀ h₁' hC hmoment with ⟨hout, hv⟩ | ⟨hin, hearly, hv⟩
  · exact ⟨fun _ => hout, fun _ => recoversCommitted hdiffers hstale hv⟩
  · constructor
    · intro h
      exact (not_recoversCommitted hdiffers hstale hearly hv h).elim
    · intro hout
      exact (hearly (hout hin)).elim

theorem inside_retired (hs : s.renames = []) : (s.retired rules candidate).leftPlace ∧
    ¬ (s.retired rules candidate).reachedCommit := by
  simp [FsState.leftPlace, FsState.reachedCommit, FsState.retired, FsState.staged, FsState.rename,
    FsState.write, hs]

theorem outside_marked : ((s.marked rules candidate).remove .cleanup).leftPlace ∧
    ((s.marked rules candidate).remove .cleanup).reachedCommit := by
  simp [FsState.leftPlace, FsState.reachedCommit, FsState.marked, FsState.committed,
    FsState.promoted, FsState.retired, FsState.rename, FsState.remove]

theorem leftover_retired_choice (h₀ : decodeConfig rules .config text₀ = .ok stale) :
    (FsState.retired rules candidate ⟨Dir.leftover text₁ text₀, flag, []⟩).dir.choice rules =
        some (.ok stale) ∧
      ¬ (FsState.retired rules candidate ⟨Dir.leftover text₁ text₀, flag, []⟩).reachedCommit := by
  have h₀' : validText rules text₀ = some (.ok stale) := validText_eq_some.mpr h₀
  simp [FsState.reachedCommit, FsState.retired, FsState.staged, FsState.write, FsState.rename,
    Dir.leftover, Dir.choice, Dir.order, Dir.value, Dir.get, Dir.put, List.findSome?_cons, h₀']

/-- Inside the window the leftover comes back. -/
theorem leftover_powerLoss_stale (h₀ : decodeConfig rules .config text₀ = .ok stale)
    (h₁ : validText rules text₁ = some (.ok persisted)) (hC : Writable rules candidate)
    (hstale : persisted ≠ stale) (hdiffers : candidate ≠ persisted)
    (hne : candidate.pyEq persisted = false) :
    ∃ t, CrashPoint rules candidate ⟨Dir.leftover text₁ text₀, flag, []⟩ t ∧
      ¬ RecoversCommitted rules stale persisted candidate t := by
  have hvalue : (Dir.leftover text₁ text₀).value rules .config = some (.ok persisted) := h₁
  obtain ⟨hv, hearly⟩ :=
    @leftover_retired_choice rules stale candidate text₀ text₁ flag h₀
  exact ⟨_, visits_retired hvalue hC hne,
    not_recoversCommitted hdiffers hstale hearly (.inl hv)⟩

end Leftover

theorem shipped_ne {source source' : String} (h : source ≠ source') :
    shippedConfig source ≠ shippedConfig source' :=
  fun heq => h (shippedConfig_injective heq)

theorem twoConfigs_nextWrite : twoConfigs.nextWrite =
    ⟨Dir.leftover (firmwareRules.dumps (shippedConfig "Soil-2"))
      (firmwareRules.dumps (shippedConfig "Soil-1")), twoConfigs.rebootRequired, []⟩ := by
  have hdir := afterStuckCleanup_dir shipped_writable_1 shipped_writable_2 shipped_differ_21
  rw [← twoConfigs_eq] at hdir
  rw [FsState.nextWrite, hdir]

/-- Soil-1 comes back after a power loss in the write that replaces Soil-2 by Soil-3. -/
theorem leftover_not_harmless :
    ¬ ∀ t, CrashPoint firmwareRules (shippedConfig "Soil-3") twoConfigs.nextWrite t →
      RecoversCommitted firmwareRules (shippedConfig "Soil-1") (shippedConfig "Soil-2")
        (shippedConfig "Soil-3") t := by
  intro h
  rw [twoConfigs_nextWrite] at h
  obtain ⟨t, hcrash, hnot⟩ := leftover_powerLoss_stale
    (validText_eq_some.mp shipped_writable_1.validText) shipped_writable_2.validText
    shipped_writable_3 (shipped_ne (by decide)) (shipped_ne (by decide)) shipped_differ_32
  exact hnot (h t hcrash)

/-- The write of Soil-3 beside the leftover of Soil-1, cut in the window and right after its end. -/
theorem leftover_powerLoss_shipped : ∃ inside after : FsState,
    (CrashPoint firmwareRules (shippedConfig "Soil-3") twoConfigs.nextWrite inside ∧
      inside.leftPlace ∧ ¬ RecoversCommitted firmwareRules (shippedConfig "Soil-1")
        (shippedConfig "Soil-2") (shippedConfig "Soil-3") inside) ∧
    CrashPoint firmwareRules (shippedConfig "Soil-3") twoConfigs.nextWrite after ∧
      after.leftPlace ∧ RecoversCommitted firmwareRules (shippedConfig "Soil-1")
        (shippedConfig "Soil-2") (shippedConfig "Soil-3") after := by
  have hrun := afterStuckCleanup_run shipped_writable_1 shipped_writable_2 shipped_differ_21
  have hdir := afterStuckCleanup_dir shipped_writable_1 shipped_writable_2 shipped_differ_21
  rw [← twoConfigs_eq] at hrun hdir
  have hleft : (twoConfigs.dir.get .cleanup).isSome := by
    rw [hdir]
    rfl
  have hvalue : twoConfigs.nextWrite.dir.value firmwareRules .config =
      some (.ok (shippedConfig "Soil-2")) := by
    rw [twoConfigs_nextWrite]
    exact (Dir.value_of_get rfl).trans shipped_writable_2.validText
  have hiff := fun t (hcrash : CrashPoint firmwareRules (shippedConfig "Soil-3")
      twoConfigs.nextWrite t) => leftover_powerLoss_iff osOnly_of_io
    (validText_eq_some.mp shipped_writable_1.validText) shipped_writable_2 shipped_writable_3 hrun
    hleft (shipped_ne (by decide)) (shipped_ne (by decide)) shipped_differ_32 hcrash
  have hinside := visits_retired hvalue shipped_writable_3 shipped_differ_32
  have hends : (beginWrite firmwareRules (shippedConfig "Soil-3")).alone FaultPlan.none
      (fun _ => True) (fun c t => c = .rebootRequired ∧ t = (twoConfigs.nextWrite.marked
        firmwareRules (shippedConfig "Soil-3")).remove .cleanup) (fun _ _ => False)
      twoConfigs.nextWrite :=
    alone_beginWrite hvalue shipped_writable_3 shipped_differ_32 trivial (fun _ => trivial) trivial
      trivial trivial trivial trivial ⟨rfl, rfl⟩
  have hafter := Proc.visits_of_alone hends (by simp)
  obtain ⟨hleftInside, hearly⟩ := @inside_retired firmwareRules
    (shippedConfig "Soil-3") twoConfigs.nextWrite rfl
  obtain ⟨hleftAfter, hlate⟩ := @outside_marked firmwareRules
    (shippedConfig "Soil-3") twoConfigs.nextWrite
  refine ⟨_, _, ⟨hinside, hleftInside, fun hrecovers => ?_⟩, ⟨_, hafter⟩, hleftAfter,
    (hiff _ ⟨_, hafter⟩).mpr (fun _ => hlate)⟩
  exact hearly ((hiff _ hinside).mp hrecovers hleftInside)

end PicoDualCore
