import PicoDualCore.Core1Liveness
import Mathlib.Data.Int.ModEq
set_option autoImplicit false

/-!
The deadlines of Core 1's schedulers against true time, of which the ticks are the remainder. They
stay on the grid of the anchor; the health scheduler skips only what a reading from before the
passes shows as elapsed.
-/

namespace PicoDualCore
open AtomicProgram

theorem ticksDiff_ticksAdd {now next intervalMs : Nat} (hmax : intervalMs < 2 ^ 29)
    (hdue : 0 ≤ ticksDiff now next) :
    ticksDiff now (ticksAdd next intervalMs) = ticksDiff now next - intervalMs := by
  unfold ticksDiff ticksAdd TICKS_PERIOD at *
  omega

/-- The loop ends at the first boundary after the reading. -/
theorem skipElapsed_eq {now intervalMs passes next late : Nat} (hpos : 0 < intervalMs)
    (hmax : intervalMs < 2 ^ 29) (hlate : ticksDiff now next = late)
    (hpasses : late / intervalMs + 1 < passes) :
    skipElapsed now intervalMs passes next =
      some ((now + (intervalMs - late % intervalMs)) % TICKS_PERIOD) := by
  induction passes generalizing next late with
  | zero => exact absurd hpasses (Nat.not_lt_zero _)
  | succ passes ih =>
    have hdue : 0 ≤ ticksDiff now next := by omega
    have hstep := ticksDiff_ticksAdd hmax hdue
    rw [skipElapsed, if_pos hdue]
    by_cases hmore : intervalMs ≤ late
    · have hless : ticksDiff now (ticksAdd next intervalMs) = (late - intervalMs : Nat) := by omega
      have hdiv : late / intervalMs = (late - intervalMs) / intervalMs + 1 :=
        Nat.div_eq_sub_div hpos hmore
      rw [ih hless (by rw [hdiv] at hpasses; exact Nat.lt_of_succ_lt_succ hpasses),
        ← Nat.mod_eq_sub_mod hmore]
    · have hless : late < intervalMs := Nat.lt_of_not_le hmore
      have hover : ¬ 0 ≤ ticksDiff now (ticksAdd next intervalMs) := by omega
      obtain ⟨rest, rfl⟩ : ∃ rest, passes = rest + 1 := by
        refine ⟨passes - 1, ?_⟩
        have hquot := Nat.zero_le (late / intervalMs)
        generalize late / intervalMs = quot at hpasses hquot
        omega
      rw [skipElapsed, if_neg hover, Nat.mod_eq_of_lt hless]
      congr 1
      unfold ticksAdd
      unfold ticksDiff TICKS_PERIOD at *
      omega

def boundaryAfter (deadline intervalMs moment : Nat) : Nat :=
  deadline + ((moment - deadline) / intervalMs + 1) * intervalMs

section Boundaries

variable {deadline intervalMs moment : Nat}

theorem boundaryAfter_eq (h : deadline ≤ moment) : boundaryAfter deadline intervalMs moment +
    (moment - deadline) % intervalMs = moment + intervalMs := by
  have hsplit := Nat.div_add_mod (moment - deadline) intervalMs
  rw [boundaryAfter, Nat.add_mul, Nat.one_mul, Nat.mul_comm]
  omega

theorem lt_boundaryAfter (hpos : 0 < intervalMs) (h : deadline ≤ moment) :
    moment < boundaryAfter deadline intervalMs moment := by
  have hmod := Nat.mod_lt (moment - deadline) hpos
  have heq := @boundaryAfter_eq deadline intervalMs moment h
  omega

theorem boundaryAfter_le (h : deadline ≤ moment) :
    boundaryAfter deadline intervalMs moment ≤ moment + intervalMs := by
  have heq := @boundaryAfter_eq deadline intervalMs moment h
  omega

theorem boundaryAfter_modEq : boundaryAfter deadline intervalMs moment ≡ deadline [MOD intervalMs] := by
  rw [boundaryAfter, Nat.ModEq, Nat.add_mul_mod_self_right]

end Boundaries

/-- The set-up puts the first deadline on the grid of the anchor. -/
theorem regridNextBoundary_eq {anchor delayMs intervalMs : Nat} (hdelay : delayMs < 2 ^ 29) :
    regridNextBoundary (anchor % TICKS_PERIOD) ((anchor + delayMs) % TICKS_PERIOD) intervalMs =
      boundaryAfter anchor intervalMs (anchor + delayMs) % TICKS_PERIOD := by
  have helapsed : ticksDiff ((anchor + delayMs) % TICKS_PERIOD) (anchor % TICKS_PERIOD) = delayMs := by
    rw [ticksDiff_near (by omega) (by omega)]
    omega
  have hnat : (((delayMs : Int) / intervalMs + 1) * intervalMs) =
      (((delayMs / intervalMs + 1) * intervalMs : Nat) : Int) := by
    push_cast
    rfl
  unfold regridNextBoundary
  rw [helapsed, if_neg (by omega), hnat, ticksAdd_mod, boundaryAfter, Nat.add_sub_cancel_left]

theorem skipElapsed_boundary {deadline intervalMs passes upTo : Nat} (hpos : 0 < intervalMs)
    (hmax : intervalMs < 2 ^ 29) (hdue : deadline ≤ upTo) (hlate : upTo < deadline + 2 ^ 29)
    (hpasses : 2 ^ 29 < passes) :
    skipElapsed (upTo % TICKS_PERIOD) intervalMs passes (deadline % TICKS_PERIOD) =
      some (boundaryAfter deadline intervalMs upTo % TICKS_PERIOD) := by
  have hdiff : ticksDiff (upTo % TICKS_PERIOD) (deadline % TICKS_PERIOD) = (upTo - deadline : Nat) := by
    rw [ticksDiff_near (by omega) (by omega)]
    omega
  have hquot := Nat.div_le_self (upTo - deadline) intervalMs
  have hmod := Nat.mod_lt (upTo - deadline) hpos
  have heq := @boundaryAfter_eq deadline intervalMs upTo hdue
  rw [skipElapsed_eq hpos hmax hdiff (by omega), Nat.mod_add_mod]
  congr 2
  omega

structure Visit where
  asked : Bool
  now : Nat
  upTo : Nat

def visit (passes intervalMs next : Nat) (v : Visit) : Option Nat :=
  if v.asked ∧ 0 ≤ ticksDiff (v.now % TICKS_PERIOD) next then
    skipElapsed (v.upTo % TICKS_PERIOD) intervalMs passes next
  else some next

def visits (passes intervalMs : Nat) : Nat → List Visit → Option Nat
  | next, [] => some next
  | next, v :: rest => do
    let next ← visit passes intervalMs next v
    visits passes intervalMs next rest

def deadlineAfter (intervalMs deadline : Nat) (v : Visit) : Nat :=
  if v.asked ∧ deadline ≤ v.now then boundaryAfter deadline intervalMs v.upTo else deadline

/-- Time does not go back, and never is a deadline half a period ago. -/
def InTime (intervalMs : Nat) : Nat → Nat → List Visit → Prop
  | _, _, [] => True
  | time, deadline, v :: rest => time ≤ v.now ∧ v.now ≤ v.upTo ∧ v.upTo < deadline + 2 ^ 29 ∧
    InTime intervalMs v.upTo (deadlineAfter intervalMs deadline v) rest

structure Kept (anchor intervalMs time deadline : Nat) : Prop where
  grid : deadline ≡ anchor [MOD intervalMs]
  near : deadline ≤ time + intervalMs

section Turns

variable {anchor intervalMs passes time deadline : Nat}

theorem due_iff {now : Nat} (hmax : intervalMs < 2 ^ 29) (hnear : deadline ≤ now + intervalMs)
    (hlate : now < deadline + 2 ^ 29) :
    0 ≤ ticksDiff (now % TICKS_PERIOD) (deadline % TICKS_PERIOD) ↔ deadline ≤ now := by
  rw [ticksDiff_near (by omega) (by omega)]
  omega

theorem visit_kept (hpos : 0 < intervalMs) (hmax : intervalMs < 2 ^ 29) (hpasses : 2 ^ 29 < passes)
    (h : Kept anchor intervalMs time deadline) {v : Visit} (hnow : time ≤ v.now)
    (hupTo : v.now ≤ v.upTo) (hlate : v.upTo < deadline + 2 ^ 29) :
    visit passes intervalMs (deadline % TICKS_PERIOD) v =
        some (deadlineAfter intervalMs deadline v % TICKS_PERIOD) ∧
      Kept anchor intervalMs v.upTo (deadlineAfter intervalMs deadline v) := by
  have hnear := h.near
  unfold visit deadlineAfter
  simp only [@due_iff intervalMs deadline v.now hmax (by omega) (by omega)]
  by_cases hdue : v.asked = true ∧ deadline ≤ v.now
  · have hpassed : deadline ≤ v.upTo := Nat.le_trans hdue.2 hupTo
    rw [if_pos hdue, if_pos hdue]
    exact ⟨skipElapsed_boundary hpos hmax hpassed hlate hpasses,
      boundaryAfter_modEq.trans h.grid, boundaryAfter_le hpassed⟩
  · rw [if_neg hdue, if_neg hdue]
    exact ⟨rfl, h.grid, by omega⟩

theorem deadlineAfter_spec (hpos : 0 < intervalMs) {v : Visit} (hupTo : v.now ≤ v.upTo) :
    if v.asked ∧ deadline ≤ v.now then
      v.upTo < deadlineAfter intervalMs deadline v ∧
        deadlineAfter intervalMs deadline v ≤ v.upTo + intervalMs
    else deadlineAfter intervalMs deadline v = deadline := by
  unfold deadlineAfter
  by_cases hdue : v.asked = true ∧ deadline ≤ v.now
  · have hpassed : deadline ≤ v.upTo := Nat.le_trans hdue.2 hupTo
    rw [if_pos hdue, if_pos hdue]
    exact ⟨lt_boundaryAfter hpos hpassed, boundaryAfter_le hpassed⟩
  · rw [if_neg hdue, if_neg hdue]

theorem visits_kept (hpos : 0 < intervalMs) (hmax : intervalMs < 2 ^ 29) (hpasses : 2 ^ 29 < passes)
    {vs : List Visit} (h : Kept anchor intervalMs time deadline)
    (hvs : InTime intervalMs time deadline vs) :
    visits passes intervalMs (deadline % TICKS_PERIOD) vs =
      some (vs.foldl (deadlineAfter intervalMs) deadline % TICKS_PERIOD) := by
  induction vs generalizing time deadline with
  | nil => rfl
  | cons v rest ih =>
    obtain ⟨hnow, hupTo, hlate, hrest⟩ := hvs
    obtain ⟨hvisit, hkept⟩ := visit_kept hpos hmax hpasses h hnow hupTo hlate
    rw [visits, hvisit]
    exact ih hkept hrest

theorem inTime_last {vs : List Visit} {v : Visit} (h : Kept anchor intervalMs time deadline)
    (hvs : InTime intervalMs time deadline (vs ++ [v])) :
    InTime intervalMs time deadline vs ∧ ∃ time', time' ≤ v.now ∧ v.now ≤ v.upTo ∧
      v.upTo < vs.foldl (deadlineAfter intervalMs) deadline + 2 ^ 29 ∧
      Kept anchor intervalMs time' (vs.foldl (deadlineAfter intervalMs) deadline) := by
  induction vs generalizing time deadline with
  | nil => exact ⟨trivial, time, hvs.1, hvs.2.1, hvs.2.2.1, h⟩
  | cons w rest ih =>
    obtain ⟨hnow, hupTo, hlate, hrest⟩ := hvs
    have hkept : Kept anchor intervalMs w.upTo (deadlineAfter intervalMs deadline w) := by
      have hnear := h.near
      unfold deadlineAfter
      split
      · rename_i hdue
        have hpassed : deadline ≤ w.upTo := Nat.le_trans hdue.2 hupTo
        exact ⟨boundaryAfter_modEq.trans h.grid, boundaryAfter_le hpassed⟩
      · exact ⟨h.grid, by omega⟩
    obtain ⟨hbefore, hlast⟩ := ih hkept hrest
    exact ⟨⟨hnow, hupTo, hlate, hbefore⟩, hlast⟩

end Turns

/-- From the set-up on every loop of a scheduler ends, and each deadline that it leaves is on the
grid of the anchor, after the reading that it skipped up to and by one interval at most. -/
theorem scheduler_on_grid {anchor delayMs intervalMs passes : Nat} (hpos : 0 < intervalMs)
    (hmax : intervalMs ≤ 2 ^ 29 - 1) (hdelay : delayMs + intervalMs < 2 ^ 29)
    (hpasses : 2 ^ 29 < passes) :
    ∃ first, regridNextBoundary (anchor % TICKS_PERIOD) ((anchor + delayMs) % TICKS_PERIOD)
        intervalMs = first % TICKS_PERIOD ∧
      first ≡ anchor [MOD intervalMs] ∧ anchor + delayMs < first ∧
      first ≤ anchor + delayMs + intervalMs ∧ (delayMs / intervalMs + 1) * intervalMs < 2 ^ 29 ∧
      ∀ vs v, InTime intervalMs (anchor + delayMs) first (vs ++ [v]) →
        let deadline := vs.foldl (deadlineAfter intervalMs) first
        let deadline' := deadlineAfter intervalMs deadline v
        visits passes intervalMs (first % TICKS_PERIOD) vs = some (deadline % TICKS_PERIOD) ∧
        visit passes intervalMs (deadline % TICKS_PERIOD) v = some (deadline' % TICKS_PERIOD) ∧
        deadline' ≡ anchor [MOD intervalMs] ∧
        if v.asked ∧ deadline ≤ v.now then v.upTo < deadline' ∧ deadline' ≤ v.upTo + intervalMs
        else deadline' = deadline := by
  have hlt : intervalMs < 2 ^ 29 := by omega
  have hpassed : anchor ≤ anchor + delayMs := Nat.le_add_right _ _
  have hstart : Kept anchor intervalMs (anchor + delayMs)
      (boundaryAfter anchor intervalMs (anchor + delayMs)) :=
    ⟨boundaryAfter_modEq, boundaryAfter_le hpassed⟩
  refine ⟨boundaryAfter anchor intervalMs (anchor + delayMs), regridNextBoundary_eq (by omega),
    hstart.grid, lt_boundaryAfter hpos hpassed, hstart.near, ?_, ?_⟩
  · have hdelta := @boundaryAfter_le anchor intervalMs (anchor + delayMs) hpassed
    rw [boundaryAfter, Nat.add_sub_cancel_left] at hdelta
    omega
  · intro vs v hvs
    obtain ⟨hbefore, time, hnow, hupTo, hlate, hkept⟩ := inTime_last hstart hvs
    obtain ⟨hvisit, hkept'⟩ := visit_kept hpos hlt hpasses hkept hnow hupTo hlate
    exact ⟨visits_kept hpos hlt hpasses hstart hbefore, hvisit, hkept'.grid,
      deadlineAfter_spec hpos hupTo⟩

/-- A scheduler set up shortly before the ticks wrap, and a turn late by two intervals. -/
theorem scheduler_on_grid_wrapped : ∃ first deadline,
    regridNextBoundary ((2 ^ 30 - 500) % TICKS_PERIOD) ((2 ^ 30 - 500 + 120) % TICKS_PERIOD) 1000 =
      first % TICKS_PERIOD ∧
    visit (2 ^ 29 + 1) 1000 (first % TICKS_PERIOD) ⟨true, 2 ^ 30 + 600, 2 ^ 30 + 2700⟩ =
      some (deadline % TICKS_PERIOD) ∧
    deadline ≡ 2 ^ 30 - 500 [MOD 1000] ∧ 2 ^ 30 + 2700 < deadline ∧ deadline ≤ 2 ^ 30 + 3700 := by
  obtain ⟨first, hfirst, hgrid, hafter, hwithin, -, hrun⟩ := @scheduler_on_grid (2 ^ 30 - 500) 120
    1000 (2 ^ 29 + 1) (by decide) (by decide) (by decide) (by decide)
  have hearly : InTime 1000 (2 ^ 30 - 500 + 120) first
      ([] ++ [⟨true, 2 ^ 30 + 600, 2 ^ 30 + 2700⟩]) :=
    ⟨by decide, by decide, by dsimp only; omega, trivial⟩
  obtain ⟨-, hvisit, hgrid', hspec⟩ := hrun [] _ hearly
  -- the grid puts the first deadline 500 ms after the wrap
  have hfirst_due : first ≤ 2 ^ 30 + 600 := by
    unfold Nat.ModEq at hgrid
    omega
  rw [List.foldl_nil, if_pos ⟨rfl, hfirst_due⟩] at hspec
  exact ⟨first, _, hfirst, hvisit, hgrid', hspec⟩

section Blocks

variable {D : Type} {drivers : DriverSet D} {config : Core1Config} {A : Core1Input → Prop}
  {R : Core1 D → Core1 D → Prop} {c : Core1 D}

/-- The block of a scheduler, whatever its pass does and however long it takes: it ends with the
deadline that a turn leaves, which skips up to the moment at which the block ends. -/
theorem readBlock_visit (passes now : Nat) (schedulers : Schedulers) :
    (readBlock drivers config passes (now % TICKS_PERIOD) schedulers).wp A R (fun _ _ => True)
      (fun s t => visit passes schedulers.readLoopMs schedulers.nextReadMs
          ⟨true, now, t.bus.clockMs⟩ = some s.nextReadMs ∧
        s = { schedulers with nextReadMs := s.nextReadMs }) (fun _ _ => True) c := by
  unfold readBlock
  by_cases hdue : 0 ≤ ticksDiff (now % TICKS_PERIOD) schedulers.nextReadMs
  · rw [if_pos hdue]
    refine (Proc.wp_seq _ _ _).mpr (Proc.wp_mono (wp_any _ _) (fun _ _ h => h) ?_ (fun _ _ h => h))
    intro _ t _
    refine (Proc.wp_seq _ _ _).mpr (Proc.wp_atomic ?_)
    intro u _ i _
    refine ⟨trivial, ?_⟩
    show Proc.wp _ _ _ _ _ (skipped (skipElapsed u.ticksMs _ passes _) >>= _) u
    cases hskip : skipElapsed u.ticksMs schedulers.readLoopMs passes schedulers.nextReadMs with
    | none => trivial
    | some next =>
      refine ⟨?_, rfl⟩
      rw [visit, if_pos ⟨rfl, hdue⟩]
      exact hskip
  · rw [if_neg hdue]
    refine ⟨?_, rfl⟩
    rw [visit, if_neg (fun h => hdue h.2)]

theorem retryBlock_visit (passes now : Nat) (schedulers : Schedulers) :
    (retryBlock drivers config passes (now % TICKS_PERIOD) schedulers).wp A R (fun _ _ => True)
      (fun s t => (∃ asked, visit passes schedulers.failedReinitIntervalMs
          schedulers.nextFailedReinitMs ⟨asked, now, t.bus.clockMs⟩ = some s.nextFailedReinitMs) ∧
        s = { schedulers with nextFailedReinitMs := s.nextFailedReinitMs }) (fun _ _ => True) c := by
  refine (Proc.wp_seq _ _ _).mpr (Proc.wp_atomic ?_)
  intro b _ i _
  refine ⟨trivial, ?_⟩
  dsimp only
  generalize (!b.failed.isEmpty) = asked
  by_cases hdue : asked = true ∧
      0 ≤ ticksDiff (now % TICKS_PERIOD) schedulers.nextFailedReinitMs
  · rw [if_pos hdue]
    refine (Proc.wp_seq _ _ _).mpr (Proc.wp_mono (wp_any _ _) (fun _ _ h => h) ?_ (fun _ _ h => h))
    intro _ _ _
    refine (Proc.wp_seq _ _ _).mpr (Proc.wp_mono (wp_any _ _) (fun _ _ h => h) ?_ (fun _ _ h => h))
    intro _ t _
    refine (Proc.wp_seq _ _ _).mpr (Proc.wp_atomic ?_)
    intro u _ i _
    refine ⟨trivial, ?_⟩
    show Proc.wp _ _ _ _ _ (skipped (skipElapsed u.ticksMs _ passes _) >>= _) u
    cases hskip : skipElapsed u.ticksMs schedulers.failedReinitIntervalMs passes
        schedulers.nextFailedReinitMs with
    | none => trivial
    | some next =>
      refine ⟨⟨asked, ?_⟩, rfl⟩
      rw [visit, if_pos hdue]
      exact hskip
  · rw [if_neg hdue]
    refine ⟨⟨asked, ?_⟩, rfl⟩
    rw [visit, if_neg hdue]

/-- The health block skips up to the reading that it compares. -/
theorem healthBlock_visit (passes now : Nat) (schedulers : Schedulers) :
    (healthBlock passes (now % TICKS_PERIOD) schedulers : Core1Prog D Schedulers).wp A R
      (fun _ _ => True)
      (fun s _ => visit passes schedulers.healthIntervalMs schedulers.nextHealthMs
          ⟨true, now, now⟩ = some s.nextHealthMs ∧
        s = { schedulers with nextHealthMs := s.nextHealthMs }) (fun _ _ => True) c := by
  unfold healthBlock
  by_cases hdue : 0 ≤ ticksDiff (now % TICKS_PERIOD) schedulers.nextHealthMs
  · rw [if_pos hdue]
    refine (Proc.wp_seq _ _ _).mpr (Proc.wp_mono (wp_any _ _) (fun _ _ h => h) ?_ (fun _ _ h => h))
    intro _ t _
    cases hskip : skipElapsed (now % TICKS_PERIOD) schedulers.healthIntervalMs passes
        schedulers.nextHealthMs with
    | none => trivial
    | some next =>
      refine ⟨?_, rfl⟩
      rw [visit, if_pos ⟨rfl, hdue⟩]
      exact hskip
  · rw [if_neg hdue]
    refine ⟨?_, rfl⟩
    rw [visit, if_neg (fun h => hdue h.2)]

theorem activityBlock_any {Q : Nat → Core1 D → Prop} (nextActivity : Nat)
    (h : ∀ next t, Q next t) :
    (activityBlock nextActivity).wp A R (fun _ _ => True) Q (fun _ _ => True) c :=
  Proc.wp_mono (wp_any _ _) (fun _ _ h => h) (fun next t _ => h next t) (fun _ _ h => h)

/-- A turn is one visit to each scheduler, all three with the reading of its beginning; the health
scheduler skips up to that reading. -/
theorem loopTurn_visits (passes : Nat) (schedulers : Schedulers) (nextActivity : Nat) :
    (loopTurn drivers config passes schedulers nextActivity).wp A R (fun _ _ => True)
      (fun next _ => ∃ now readUpTo retryAsked retryUpTo,
        visit passes schedulers.readLoopMs schedulers.nextReadMs ⟨true, now, readUpTo⟩ =
          some next.1.nextReadMs ∧
        visit passes schedulers.failedReinitIntervalMs schedulers.nextFailedReinitMs
          ⟨retryAsked, now, retryUpTo⟩ = some next.1.nextFailedReinitMs ∧
        visit passes schedulers.healthIntervalMs schedulers.nextHealthMs ⟨true, now, now⟩ =
          some next.1.nextHealthMs ∧
        next.1.readLoopMs = schedulers.readLoopMs ∧
        next.1.failedReinitIntervalMs = schedulers.failedReinitIntervalMs ∧
        next.1.healthIntervalMs = schedulers.healthIntervalMs) (fun _ _ => True) c := by
  refine (Proc.wp_seq _ _ _).mpr (Proc.wp_mono (wp_any _ _) (fun _ _ h => h) ?_ (fun _ _ h => h))
  intro _ _ _
  refine (Proc.wp_seq _ _ _).mpr (Proc.wp_atomic fun b _ i _ => ⟨trivial, ?_⟩)
  refine (Proc.wp_seq _ _ _).mpr (Proc.wp_mono (readBlock_visit passes b.bus.clockMs schedulers)
    (fun _ _ h => h) ?_ (fun _ _ h => h))
  intro afterRead t₁ hread
  refine (Proc.wp_seq _ _ _).mpr (Proc.wp_mono (retryBlock_visit passes b.bus.clockMs afterRead)
    (fun _ _ h => h) ?_ (fun _ _ h => h))
  intro afterRetry t₂ hretry
  refine (Proc.wp_seq _ _ _).mpr (activityBlock_any nextActivity fun next t₃ => ?_)
  refine (Proc.wp_seq _ _ _).mpr (Proc.wp_mono (healthBlock_visit passes b.bus.clockMs afterRetry)
    (fun _ _ h => h) ?_ (fun _ _ h => h))
  intro afterHealth _ hhealth
  refine (Proc.wp_seq _ _ _).mpr (Proc.wp_mono (wp_any _ _) (fun _ _ h => h) ?_ (fun _ _ h => h))
  intro _ _ _
  obtain ⟨hread, hread'⟩ := hread
  obtain ⟨⟨asked, hretry⟩, hretry'⟩ := hretry
  obtain ⟨hhealth, hhealth'⟩ := hhealth
  rw [hread'] at hretry hretry'
  rw [hretry'] at hhealth hhealth'
  rw [hhealth']
  exact ⟨b.bus.clockMs, t₁.bus.clockMs, asked, t₂.bus.clockMs, hread, hretry, hhealth, rfl, rfl, rfl⟩

end Blocks

theorem add_div_eq_iff {intervalMs late took : Nat} (hpos : 0 < intervalMs) :
    (late + took) / intervalMs = late / intervalMs ↔ took < intervalMs - late % intervalMs := by
  have hsplit := Nat.div_add_mod late intervalMs
  have hmod := Nat.mod_lt late hpos
  have hsum : late + took = late % intervalMs + took + late / intervalMs * intervalMs := by
    rw [Nat.mul_comm]
    omega
  rw [hsum, Nat.add_mul_div_right _ _ hpos]
  constructor
  · intro heq
    have hzero : (late % intervalMs + took) / intervalMs = 0 := by omega
    have hless := (Nat.div_eq_zero_iff_lt hpos).mp hzero
    omega
  · intro hless
    rw [Nat.div_eq_of_lt (by omega), Nat.zero_add]

def everySecond : Schedulers where
  readLoopMs := 1000
  healthIntervalMs := 1000
  failedReinitIntervalMs := 1000
  nextReadMs := 1000
  nextHealthMs := 1000
  nextFailedReinitMs := 1000

/-- A health block that is due `late` milliseconds after its deadline leaves the first deadline
after the reading. It is ahead of the clock at the end of the block exactly if no further interval
was over by then, counted from the old deadline; and a later reading finds the block due exactly if
one was over since the earlier reading, be it before that end or after. -/
theorem healthBlock_ahead_iff {D : Type} {A : Core1Input → Prop} {R : Core1 D → Core1 D → Prop}
    {passes now late : Nat} {schedulers : Schedulers} (hpos : 0 < schedulers.healthIntervalMs)
    (hmax : schedulers.healthIntervalMs ≤ 2 ^ 29 - 1) (hpasses : 2 ^ 29 < passes)
    (hdue : ticksDiff (now % TICKS_PERIOD) schedulers.nextHealthMs = late) (c : Core1 D) :
    ∃ deadline, now < deadline ∧ deadline ≤ now + schedulers.healthIntervalMs ∧
      skipElapsed (now % TICKS_PERIOD) schedulers.healthIntervalMs passes schedulers.nextHealthMs =
        some (deadline % TICKS_PERIOD) ∧
      (healthBlock passes (now % TICKS_PERIOD) schedulers).wp A R (fun _ _ => True)
        (fun s t => s = { schedulers with nextHealthMs := deadline % TICKS_PERIOD } ∧
          (t.bus.clockMs < deadline ↔ (late + (t.bus.clockMs - now)) / schedulers.healthIntervalMs =
            late / schedulers.healthIntervalMs) ∧
          ∀ next, now ≤ next → next < now + 2 ^ 29 →
            (0 ≤ ticksDiff (next % TICKS_PERIOD) s.nextHealthMs ↔
              (late + (next - now)) / schedulers.healthIntervalMs ≠
                late / schedulers.healthIntervalMs))
        (fun _ _ => True) c := by
  have hless : schedulers.healthIntervalMs < 2 ^ 29 := by omega
  have hlate : late < 2 ^ 29 := by
    unfold ticksDiff TICKS_PERIOD at hdue
    omega
  have hquot := Nat.div_le_self late schedulers.healthIntervalMs
  have hskip := @skipElapsed_eq _ _ passes _ late hpos hless hdue (by omega)
  rw [Nat.mod_add_mod] at hskip
  have hmod := Nat.mod_lt late hpos
  refine ⟨now + (schedulers.healthIntervalMs - late % schedulers.healthIntervalMs), by omega,
    by omega, hskip, ?_⟩
  unfold healthBlock
  rw [if_pos (by omega)]
  refine (Proc.wp_seq _ _ _).mpr (Proc.wp_mono (wp_any _ _) (fun _ _ h => h) ?_ (fun _ _ h => h))
  intro _ t _
  rw [hskip]
  refine ⟨rfl, ?_, fun next hafter hnear => ?_⟩
  · rw [add_div_eq_iff hpos]
    omega
  · rw [ne_eq, add_div_eq_iff hpos]
    dsimp only
    rw [ticksDiff_near (by omega) (by omega)]
    omega

/-- A report on time, a second after the set-up. -/
theorem healthBlock_ahead_iff_onTime : ∃ deadline, 1000 < deadline ∧ deadline ≤ 2000 ∧
    (healthBlock (2 ^ 29 + 1) (1000 % TICKS_PERIOD) everySecond : Core1Prog Driver Schedulers).wp
      (fun _ => True) Proc.Alone (fun _ _ => True)
      (fun s t => s.nextHealthMs = deadline % TICKS_PERIOD ∧
        (t.bus.clockMs < deadline ↔ (t.bus.clockMs - 1000) / 1000 = 0)) (fun _ _ => True)
      (Core1.initial Driver 0 1000) := by
  obtain ⟨deadline, hafter, hwithin, -, hblock⟩ := @healthBlock_ahead_iff Driver (fun _ => True)
    Proc.Alone (2 ^ 29 + 1) 1000 0 everySecond (by decide) (by decide) (by decide) (by decide)
    (Core1.initial Driver 0 1000)
  refine ⟨deadline, hafter, hwithin, Proc.wp_mono hblock (fun _ _ h => h) ?_ (fun _ _ h => h)⟩
  rintro _ t ⟨rfl, hahead, -⟩
  rw [Nat.zero_add] at hahead
  exact ⟨rfl, hahead⟩

def probeDevice (deviceId rom : String) : PyValue :=
  .dict [(.str "id", .str deviceId), (.str "device_type", .str "ds18b20"),
    (.str "config", .dict [(.str "pin", .int 16), (.str "rom", .str rom)])]

def probesConfig : PyDict :=
  Json.store (Json.store (withDevices [probeDevice "d1" "28ff641e0f1603d4",
    probeDevice "d2" "28ff641e0f1603d5"]) "read_loop_sec" (.int 1)) "health_interval_sec" (.int 1)

def probe (deviceId : String) (rom : Bytes) : ManagedDevice Driver where
  deviceId := deviceId
  deviceType := "ds18b20"
  driver := .ds18b20 ⟨.int 0, ⟨rom, deviceId, .int 750, rom⟩⟩
  name := .none
  initializationAttemptsUsed := 1

def twoProbes : Core1 Driver :=
  { Core1.initial Driver 0 1000 with active :=
      [probe "d1" [0x28, 0xff, 0x64, 0x1e, 0x0f, 0x16, 0x03, 0xd4],
        probe "d2" [0x28, 0xff, 0x64, 0x1e, 0x0f, 0x16, 0x03, 0xd5]] }

/-- The conversions of two sensors take a second and a half, and the deadline after the report is
half a second old. The last 20 ms of the turn are the sleep after the block. -/
theorem loopTurn_behind : ¬ ∀ (items : PyDict) (passes nextActivity : Nat)
    (schedulers : Schedulers) (next : Schedulers × Nat) (i : Core1Input) (c t : Core1 Driver),
    validateConfig (.dict items) = .ok (.dict items) →
    (loopTurn boardDrivers (splitConfigCore1 items) passes schedulers nextActivity).run i c =
      (.ret next, t) →
    0 < schedulers.healthIntervalMs → schedulers.healthIntervalMs ≤ 2 ^ 29 - 1 →
    0 ≤ ticksDiff c.ticksMs schedulers.nextHealthMs →
    ticksDiff ((t.bus.clockMs - 20) % TICKS_PERIOD) next.1.nextHealthMs < 0 := by
  intro h
  have hturn := h probesConfig 5 2000 everySecond
  have hlate : (match (loopTurn boardDrivers (splitConfigCore1 probesConfig) 5 everySecond 2000).run
      quietBus twoProbes with
    | (.ret next, t) =>
      decide (0 ≤ ticksDiff ((t.bus.clockMs - 20) % TICKS_PERIOD) next.1.nextHealthMs)
    | _ => false) = true := by decide
  cases hrun : (loopTurn boardDrivers (splitConfigCore1 probesConfig) 5 everySecond 2000).run
      quietBus twoProbes with
  | mk outcome t =>
    rw [hrun] at hlate
    cases outcome with
    | ret next =>
      have hahead := hturn next quietBus twoProbes t (validateConfig_self (by decide)) hrun
        (by decide) (by decide) (by decide)
      have hbehind := of_decide_eq_true hlate
      omega
    | raise e => cases hlate
    | stop => cases hlate

end PicoDualCore
