import Mathlib.Data.List.Chain
import PicoDualCore.Core0State
set_option autoImplicit false

/-!
Uptime: the sum of the tick differences is the true time since the boot tick, however each core
samples it, and so both cores stamp the same instant alike.
-/

namespace PicoDualCore
open AtomicProgram

def uptimeAfter (state : UptimeState) (times : List Nat) : UptimeState :=
  times.foldl (fun state t => currentUptimeMs state (t % TICKS_PERIOD)) state

/-- What the samples returned. -/
def uptimesAt (state : UptimeState) : List Nat → List Int
  | [] => []
  | t :: times =>
    let state := currentUptimeMs state (t % TICKS_PERIOD)
    state.accumulatedMs :: uptimesAt state times

/-- Samples in time order since the boot tick, less than half a tick period apart. -/
def Sampled (bootMs : Nat) (times : List Nat) : Prop :=
  List.IsChain (fun a b => a ≤ b ∧ b - a < TICKS_PERIOD / 2) (bootMs :: times)

instance (bootMs : Nat) (times : List Nat) : Decidable (Sampled bootMs times) :=
  inferInstanceAs (Decidable (List.IsChain _ _))

/-- `_current_utc_timestamp` of Core 1. -/
def core1UtcTimestamp (formatUtcEpochMs : Int → Except PyError String) (mailboxes : Mailboxes)
    (uptimeMs : Int) : Except PyError (Option String) :=
  match mailboxes.utcSnapshot with
  | none => .ok none
  | some snapshot => (formatUtcEpochMs (snapshot.runtimeStartEpochMs + uptimeMs)).map some

def messageTime (formatUtcEpochMs : Int → Except PyError String) (mailboxes : Mailboxes)
    (state : UptimeState) (nowMs : Nat) : Except PyError (Int × Option String) × UptimeState :=
  let state := currentUptimeMs state nowMs
  ((core1UtcTimestamp formatUtcEpochMs mailboxes state.accumulatedMs).map
    (fun timestamp => (state.accumulatedMs, timestamp)), state)

/-- A difference of less than half a period is the true one. -/
theorem ticksDiff_exact {a b : Nat} (hle : a ≤ b) (hlt : b - a < TICKS_PERIOD / 2) :
    ticksDiff (b % TICKS_PERIOD) (a % TICKS_PERIOD) = (b : Int) - a := by
  unfold TICKS_PERIOD at hlt
  exact ticksDiff_near (by omega) (by omega)

section Samples

variable {bootMs : Nat} {times times' : List Nat} {t : Nat} {state : UptimeState}

/-- The state holds the true uptime of the instant `t` of its last sample. -/
structure ExactAt (bootMs t : Nat) (state : UptimeState) : Prop where
  ticks : state.lastTicksMs = t % TICKS_PERIOD
  uptime : state.accumulatedMs = (t : Int) - bootMs

theorem exactAt_create (bootMs : Nat) :
    ExactAt bootMs bootMs (createUptimeState (bootMs % TICKS_PERIOD)) :=
  ⟨rfl, by simp [createUptimeState]⟩

theorem ExactAt.sample {t' : Nat} (h : ExactAt bootMs t state) (hle : t ≤ t')
    (hlt : t' - t < TICKS_PERIOD / 2) :
    ExactAt bootMs t' (currentUptimeMs state (t' % TICKS_PERIOD)) := by
  refine ⟨rfl, ?_⟩
  have hdiff := ticksDiff_exact hle hlt
  simp only [currentUptimeMs, h.ticks, hdiff, h.uptime]
  omega

theorem ExactAt.samples (h : ExactAt bootMs t state)
    (hchain : List.IsChain (fun a b => a ≤ b ∧ b - a < TICKS_PERIOD / 2) (t :: times)) :
    uptimesAt state times = times.map (fun t : Nat => (t : Int) - bootMs) ∧
      ExactAt bootMs (times.getLastD t) (uptimeAfter state times) := by
  induction times generalizing t state with
  | nil => exact ⟨rfl, h⟩
  | cons t' times ih =>
    obtain ⟨⟨hle, hlt⟩, htail⟩ := List.isChain_cons_cons.mp hchain
    have hsample := h.sample hle hlt
    obtain ⟨huptimes, hafter⟩ := ih hsample htail
    refine ⟨?_, by rw [List.getLastD_cons]; exact hafter⟩
    simp only [uptimesAt, List.map_cons, huptimes, hsample.uptime]

theorem uptimesAt_exact (h : Sampled bootMs times) :
    uptimesAt (createUptimeState (bootMs % TICKS_PERIOD)) times =
      times.map (fun t : Nat => (t : Int) - bootMs) :=
  ((exactAt_create bootMs).samples h).1

theorem sampled_sorted (h : Sampled bootMs times) : times.Pairwise (· ≤ ·) := by
  have hchain : List.IsChain (· ≤ ·) (bootMs :: times) := h.imp (fun _ _ hab => hab.1)
  exact (List.isChain_iff_pairwise.mp hchain).of_cons

theorem uptimesAt_monotone (h : Sampled bootMs times) :
    (uptimesAt (createUptimeState (bootMs % TICKS_PERIOD)) times).Pairwise (· ≤ ·) := by
  rw [uptimesAt_exact h, List.pairwise_map]
  exact (sampled_sorted h).imp (fun hab => by omega)

/-- A sample at `t` after earlier ones returns the true uptime of `t`. -/
theorem sample_exact (h : Sampled bootMs (times ++ [t])) :
    (currentUptimeMs (uptimeAfter (createUptimeState (bootMs % TICKS_PERIOD)) times)
      (t % TICKS_PERIOD)).accumulatedMs = (t : Int) - bootMs := by
  have hafter := ((exactAt_create bootMs).samples h).2
  have hlast : (times ++ [t]).getLastD bootMs = t := by simp
  rw [hlast] at hafter
  simpa [uptimeAfter] using hafter.uptime

end Samples

theorem currentUtcTimestamp_run (boot : Boot) (b : Board) (i : CoreInput) :
    ((currentUtcTimestamp boot).run i b).1 = match b.core0.utcSnapshot with
      | none => .ret none
      | some snapshot =>
        match boot.formatUtcEpochMs (snapshot.runtimeStartEpochMs +
          (currentUptimeMs b.core0.uptime b.ticksMs).accumulatedMs) with
        | .ok timestamp => .ret (some timestamp)
        | .error e => .raise (.python e) := by
  unfold currentUtcTimestamp uptimeMs look
  simp only [Proc.bind_eq, Proc.run_bind, Proc.run_atomic]
  cases b.core0.utcSnapshot with
  | none => rfl
  | some snapshot =>
    simp only [Proc.run_bind, Proc.run_atomic]
    cases boot.formatUtcEpochMs (snapshot.runtimeStartEpochMs +
      (currentUptimeMs b.core0.uptime b.ticksMs).accumulatedMs) <;> rfl

/-- The two cores, each with its own history of samples since the same boot tick, at one instant. -/
structure SameInstant (bootMs : Nat) (b : Board) (state : UptimeState) : Prop where
  core0 : ∃ times, Sampled bootMs (times ++ [b.nowMs]) ∧
    b.core0.uptime = uptimeAfter (createUptimeState (bootMs % TICKS_PERIOD)) times
  core1 : ∃ times, Sampled bootMs (times ++ [b.nowMs]) ∧
    state = uptimeAfter (createUptimeState (bootMs % TICKS_PERIOD)) times
  snapshot : b.mailboxes.utcSnapshot = b.core0.utcSnapshot

theorem SameInstant.core0_uptime {bootMs : Nat} {b : Board} {state : UptimeState}
    (h : SameInstant bootMs b state) :
    (currentUptimeMs b.core0.uptime b.ticksMs).accumulatedMs = (b.nowMs : Int) - bootMs := by
  obtain ⟨times, hs, hstate⟩ := h.core0
  rw [hstate]
  exact sample_exact hs

theorem SameInstant.core1_uptime {bootMs : Nat} {b : Board} {state : UptimeState}
    (h : SameInstant bootMs b state) :
    (currentUptimeMs state b.ticksMs).accumulatedMs = (b.nowMs : Int) - bootMs := by
  obtain ⟨times, hs, rfl⟩ := h.core1
  exact sample_exact hs

/-- Core 0's time stamp is the one in Core 1's message time, and so is an error. -/
def StampsAgree (boot : Boot) (b : Board) (state : UptimeState) (i : CoreInput) : Prop :=
  ((currentUtcTimestamp boot).run i b).1 =
    match (messageTime boot.formatUtcEpochMs b.mailboxes state b.ticksMs).1 with
    | .ok (_, timestamp) => .ret timestamp
    | .error e => .raise (.python e)

/-- Every sample is the true time since boot, samples never decrease, and at one instant both
cores read the same uptime and make the same time stamp. -/
theorem uptime_exact (bootMs : Nat) :
    (∀ times, Sampled bootMs times →
      uptimesAt (createUptimeState (bootMs % TICKS_PERIOD)) times =
        times.map (fun t : Nat => (t : Int) - bootMs) ∧
      (uptimesAt (createUptimeState (bootMs % TICKS_PERIOD)) times).Pairwise (· ≤ ·)) ∧
    ∀ b state, SameInstant bootMs b state →
      (currentUptimeMs b.core0.uptime b.ticksMs).accumulatedMs =
        (currentUptimeMs state b.ticksMs).accumulatedMs ∧
      ∀ boot i, StampsAgree boot b state i := by
  refine ⟨fun times h => ⟨uptimesAt_exact h, uptimesAt_monotone h⟩, fun b state h => ?_⟩
  have hsame := h.core0_uptime.trans h.core1_uptime.symm
  refine ⟨hsame, fun boot i => ?_⟩
  unfold StampsAgree messageTime core1UtcTimestamp
  dsimp only
  rw [currentUtcTimestamp_run, h.snapshot, ← hsame]
  cases b.core0.utcSnapshot with
  | none => rfl
  | some snapshot =>
    dsimp only
    cases boot.formatUtcEpochMs (snapshot.runtimeStartEpochMs +
      (currentUptimeMs b.core0.uptime b.ticksMs).accumulatedMs) <;> rfl

def wrappingTimes : List Nat := [1073741820, 1073741900, 1500000000, 2000000000, 2147483700]

def wrappedBoard : Board :=
  let disk : FsState := ⟨⟨none, none, none, none⟩, false, []⟩
  let board := Board.initial 1073741800 2147483700 1000 2000 none disk
  { board with core0 := { board.core0 with
      uptime := uptimeAfter (createUptimeState (1073741800 % TICKS_PERIOD)) [1200000000, 1700000000] } }

theorem uptime_exact_wraps :
    uptimesAt (createUptimeState (1073741800 % TICKS_PERIOD)) wrappingTimes =
      [20, 100, 426258200, 926258200, 1073741900] ∧
    (currentUptimeMs wrappedBoard.core0.uptime wrappedBoard.ticksMs).accumulatedMs = 1073741900 := by
  have hlaw := uptime_exact 1073741800
  have hsame := (hlaw.2 wrappedBoard
    (uptimeAfter (createUptimeState (1073741800 % TICKS_PERIOD))
      [1073741820, 1073741900, 1500000000, 2000000000])
    ⟨⟨[1200000000, 1700000000], by decide, rfl⟩, ⟨_, by decide, rfl⟩, rfl⟩).1
  refine ⟨(hlaw.1 wrappingTimes (by decide)).1.trans (by decide), hsame.trans ?_⟩
  rfl

end PicoDualCore
