import PicoDualCore.AtomicClock
import PicoDualCore.DriverReads
import PicoDualCore.ValidationSpec
import Mathlib.Data.List.Perm.Subperm
set_option autoImplicit false

namespace PicoDualCore
open AtomicProgram

def Prompt (i : BusInput) : Prop := i.lateMs = 0

abbrev SleepsAtMost {α : Type} (d : Nat) (P : α → Prop) (p : BusProg α) : Prop :=
  Proc.Takes Prompt Bus.clockMs d P p

def StaysWithin {α : Type} (d : Nat) (start : Bus) (p : BusProg α) : Prop :=
  ∀ bus, Proc.Spent Bus.clockMs d start bus →
    p.wp Prompt Proc.Alone (fun _ t => Proc.Spent Bus.clockMs d start t)
      (fun _ t => Proc.Spent Bus.clockMs d start t)
      (fun _ t => Proc.Spent Bus.clockMs d start t) bus

section Rules
open Proc

variable {α β : Type} {P : α → Prop} {Q : β → Prop} {d : Nat}

theorem sleeps_transfer {transaction : BusInput → Transaction} {answer : BusInput → α}
    (h : ∀ i, P (answer i)) : SleepsAtMost 0 P (transfer transaction answer) := by
  refine takes_atomic (fun bus i hi => ?_)
  have hnow : bus.clockMs + i.lateMs = bus.clockMs := by
    rw [show i.lateMs = 0 from hi, Nat.add_zero]
  cases hout : i.outcome with
  | done =>
    refine ⟨?_, ?_⟩
    · simp only [hnow]
      exact Spent.refl
    · rintro a ha
      cases ha
      exact h i
  | fail message =>
    refine ⟨?_, ?_⟩
    · simp only [hnow]
      exact Spent.refl
    · rintro a ha
      cases ha
  | memory =>
    refine ⟨?_, ?_⟩
    · simp only [hnow]
      exact Spent.refl
    · rintro a ha
      cases ha

theorem sleeps_answered {transaction : BusInput → Transaction} {answer : BusInput → α} :
    SleepsAtMost 0 (fun _ => True) (transfer transaction answer) :=
  sleeps_transfer (fun _ => trivial)

theorem sleeps_computed : SleepsAtMost 0 (fun _ => True) computed := by
  refine takes_atomic (fun bus i _ => ?_)
  cases i.outcome <;> exact ⟨Spent.refl, fun _ _ => trivial⟩

theorem sleeps_sleepMs (ms : Nat) : SleepsAtMost ms (fun _ => True) (sleepMs ms) := by
  refine takes_atomic (fun bus i hi => ⟨⟨?_, ?_⟩, fun _ _ => trivial⟩)
  · exact Nat.le_trans (Nat.le_add_right _ _) (Nat.le_add_right _ _)
  · rw [show i.lateMs = 0 from hi]
    exact Nat.le_refl _

theorem sleeps_sleepMs_le {ms : Nat} (h : ms ≤ d) : SleepsAtMost d (fun _ => True) (sleepMs ms) :=
  takes_mono (sleeps_sleepMs ms) h (fun _ h => h)

theorem sleeps_describing {describe : String → String} {p : BusProg α} (h : SleepsAtMost d P p) :
    SleepsAtMost d P (describing describe p) :=
  takes_handle (w := 0) h (fun e => by cases e <;> exact takes_throw)

theorem sleeps_normalizing {describe : String → String} {p : BusProg α} (h : SleepsAtMost d P p) :
    SleepsAtMost d P (normalizing describe p) :=
  takes_handle (w := 0) h (fun e => by cases e <;> exact takes_throw)

theorem sleeps_ofExcept {r : Except Exc α} (h : ∀ a, r = .ok a → P a) :
    SleepsAtMost 0 P (Proc.ofExcept r) := by
  cases r with
  | ok a => exact takes_pure (h a rfl)
  | error e => exact takes_throw

theorem sleeps_python {r : Except PyError α} (h : ∀ a, r = .ok a → P a) :
    SleepsAtMost 0 P (python r) := by
  refine sleeps_ofExcept (fun a ha => h a ?_)
  cases r with
  | ok b =>
    cases ha
    rfl
  | error e => cases ha

theorem sleeps_evaluated {r : Except PyError α} : SleepsAtMost 0 (fun _ => True) (python r) :=
  sleeps_python (fun _ _ => trivial)

theorem sleeps_checked {r : DeviceCheck Unit} {accepted : Prop}
    (h : DevicePost r (fun _ => accepted)) : SleepsAtMost 0 (fun _ => accepted) (checked r) := by
  cases r with
  | ok _ => exact takes_pure h
  | error e => exact takes_throw

theorem sleeps_attempt {p : BusProg α} (h : SleepsAtMost d (fun _ => True) p) :
    SleepsAtMost d (fun _ => True) ((do
      let a ← p
      pure (Except.ok (ε := String) a)).handle (fun e => match e with
        | .osError message => pure (Except.error message)
        | e => .raise e)) := by
  refine takes_handle (w := 0) (takes_seq (w := 0) h (fun _ _ => takes_pure trivial)) (fun e => ?_)
  cases e with
  | osError message => exact takes_pure trivial
  | _ => exact takes_throw

theorem staysWithin_now {start : Bus} {a : α} : StaysWithin d start (pure a) := fun _ h => h

theorem staysWithin_then {start : Bus} {p : BusProg α} {f : α → BusProg β}
    (hp : SleepsAtMost 0 (fun _ => True) p) (hf : ∀ a, StaysWithin d start (f a)) :
    StaysWithin d start (p >>= f) := by
  intro bus h
  have hsame : ∀ t, Spent Bus.clockMs 0 bus t → Spent Bus.clockMs d start t := fun t ht => h.trans ht
  exact (wp_seq _ _ _).mpr (wp_mono (hp bus) (fun _ t hG => hsame t hG)
    (fun a t hQ => hf a t (hsame t hQ.2)) (fun _ t hX => hsame t hX))

/-- A poll of the clock: over the timeout the wait ends, and below it the pause still fits. -/
theorem staysWithin_poll {start : Bus} {timeoutMs pauseMs : Nat} {e : Exc} {rest : BusProg Unit}
    (hd : timeoutMs + pauseMs ≤ d) (hrest : StaysWithin d start rest) :
    StaysWithin d start (do
      let now ← ticksMs
      if timeoutMs ≤ now - start.clockMs then throw e
      else do
        sleepMs pauseMs
        rest) := by
  intro bus h
  refine (wp_seq _ _ _).mpr (wp_atomic ?_)
  rintro t rfl i hi
  have hnow : t.clockMs + i.lateMs = t.clockMs := by rw [show i.lateMs = 0 from hi, Nat.add_zero]
  simp only [hnow]
  refine ⟨h, ?_⟩
  by_cases hover : timeoutMs ≤ t.clockMs - start.clockMs
  · rw [if_pos hover]
    exact h
  · rw [if_neg hover]
    refine (wp_seq _ _ _).mpr (wp_atomic ?_)
    rintro u rfl j hj
    have hslept : Spent Bus.clockMs d start
        { t with clockMs := t.clockMs + pauseMs + j.lateMs } := by
      have hj : j.lateMs = 0 := hj
      have := h.1
      exact ⟨by simp only; omega, by simp only; omega⟩
    exact ⟨hslept, hrest _ hslept⟩

/-- A wait that reads the clock first and then stays within `d` of that reading. -/
theorem sleeps_deadline {f : Nat → BusProg Unit}
    (h : ∀ start : Bus, StaysWithin d start (f start.clockMs)) :
    SleepsAtMost d (fun _ => True) (ticksMs >>= f) := by
  intro bus
  refine (wp_seq _ _ _).mpr (wp_atomic ?_)
  rintro t rfl i hi
  have hnow : t.clockMs + i.lateMs = t.clockMs := by rw [show i.lateMs = 0 from hi, Nat.add_zero]
  simp only [hnow]
  exact ⟨Spent.refl, wp_mono (h t t Spent.refl) (fun _ _ hG => hG) (fun _ _ hQ => ⟨trivial, hQ⟩)
    (fun _ _ hX => hX)⟩

end Rules

open Proc

theorem tableItem_mem {α : Type} {v : PyValue} {table : List (PyValue × α)} {a : α}
    (h : v.tableItem table = .ok a) : ∃ entry ∈ table, entry.2 = a := by
  unfold PyValue.tableItem at h
  by_cases hhash : (!v.hashable) = true
  · rw [if_pos hhash] at h
    cases h
  · rw [if_neg hhash] at h
    cases hfind : table.find? (fun entry => entry.1.pyEq v) with
    | none =>
      rw [hfind] at h
      cases h
    | some entry =>
      rw [hfind] at h
      cases h
      exact ⟨entry, List.mem_of_find?_eq_some hfind, rfl⟩

theorem getD_le {table : List Nat} {bound index : Nat} (h : ∀ n ∈ table, n ≤ bound) :
    table.getD index 0 ≤ bound := by
  rw [List.getD_eq_getElem?_getD]
  cases hget : table[index]? with
  | none => exact Nat.zero_le _
  | some n => exact h n (List.mem_of_getElem? hget)

theorem IsIntBetween.toNat_le {low high n : Int} {v : PyValue} (h : IsIntBetween low high v)
    (hn : v.asInt = .ok n) : n.toNat ≤ high.toNat := by
  obtain ⟨m, rfl, -, hm⟩ := h
  cases hn
  exact Int.toNat_le_toNat hm

namespace Bme280

theorem sleeps_readU8 (address : Int) (register : Nat) :
    SleepsAtMost 0 (fun _ => True) (readU8 address register) :=
  takes_then (sleeps_describing sleeps_answered) (fun _ _ => takes_pure trivial)

theorem sleeps_writeU8 (address : Int) (register : Nat) (value : UInt8) :
    SleepsAtMost 0 (fun _ => True) (writeU8 address register value) :=
  sleeps_describing sleeps_answered

theorem sleeps_detectFrom (candidates : List PyValue) (lastError : String)
    (items : List PyValue) :
    SleepsAtMost 0 (fun _ => True) (detectFrom candidates lastError items) := by
  induction items generalizing lastError with
  | nil => exact takes_throw
  | cons candidate rest ih =>
    refine takes_then sleeps_evaluated (fun address _ => ?_)
    refine takes_then (sleeps_attempt (sleeps_readU8 _ _)) (fun answer _ => ?_)
    cases answer with
    | error message => exact ih message
    | ok chipId => exact takes_ite (fun _ => takes_pure trivial) (fun _ => ih _)

theorem staysWithin_waitForNvmFrom (address : Int) (start : Bus) (passes : Nat) :
    StaysWithin 102 start (waitForNvmFrom address start.clockMs passes) := by
  induction passes with
  | zero => exact fun _ _ => trivial
  | succ passes ih =>
    refine staysWithin_then (sleeps_readU8 _ _) (fun status => ?_)
    by_cases hstatus : status &&& STATUS_IM_UPDATE = 0
    · rw [if_pos hstatus]
      exact staysWithin_now
    · rw [if_neg hstatus]
      exact staysWithin_poll (by decide) ih

theorem sleeps_waitForNvm (address : Int) :
    SleepsAtMost 102 (fun _ => True) (waitForNvm address) :=
  sleeps_deadline (fun start => staysWithin_waitForNvmFrom address start _)

theorem sleeps_readCalibration (address : Int) :
    SleepsAtMost 0 (fun _ => True) (readCalibration address) := by
  refine sleeps_describing (takes_then sleeps_answered (fun _ _ => ?_))
  exact takes_then sleeps_answered (fun _ _ => takes_pure trivial)

theorem sleeps_configure (address : Int) (settings : Settings) (mode : Nat) :
    SleepsAtMost 0 (fun _ => True) (configure address settings mode) := by
  refine takes_then sleeps_evaluated (fun _ _ => ?_)
  refine takes_then (sleeps_writeU8 _ _ _) (fun _ _ => ?_)
  refine takes_then sleeps_evaluated (fun _ _ => ?_)
  refine takes_then (sleeps_writeU8 _ _ _) (fun _ _ => ?_)
  refine takes_then sleeps_evaluated (fun _ _ => ?_)
  refine takes_then sleeps_evaluated (fun _ _ => ?_)
  exact sleeps_writeU8 _ _ _

theorem sleeps_init (candidates : List PyValue) (settings : Settings) :
    SleepsAtMost 104 (fun _ => True) (init candidates settings) := by
  refine takes_then (sleeps_detectFrom _ _ _) (fun address _ => ?_)
  refine takes_seq (d := 2) (w := 102) (P := fun _ => True)
    (takes_then (sleeps_writeU8 _ _ _) (fun _ _ => sleeps_sleepMs 2)) (fun _ _ => ?_)
  refine takes_seq (d := 102) (w := 0) (sleeps_waitForNvm _) (fun _ _ => ?_)
  refine takes_then (sleeps_readCalibration _) (fun calibration _ => ?_)
  refine takes_then (P := fun _ => True) (takes_ite (fun _ => takes_throw)
    (fun _ => takes_pure trivial)) (fun _ _ => ?_)
  exact takes_then (sleeps_configure _ _ _) (fun _ _ => takes_pure trivial)

theorem sleeps_initializeDevice (config : PyDict) :
    SleepsAtMost 104 (fun _ => Accepted config) (initializeDevice config) := by
  refine takes_then (sleeps_checked (validateConfig_post config)) (fun _ haccepted => ?_)
  refine takes_then sleeps_evaluated (fun candidates _ => ?_)
  refine takes_then sleeps_evaluated (fun offsetT _ => ?_)
  refine takes_then sleeps_evaluated (fun offsetP _ => ?_)
  refine takes_then sleeps_evaluated (fun offsetH _ => ?_)
  refine takes_then sleeps_evaluated (fun seaLevelPa _ => ?_)
  exact takes_seq (w := 0) (sleeps_init _ _) (fun _ _ => takes_pure haccepted)

theorem channelUs_le {code overheadUs : Nat} :
    channelUs code overheadUs ≤ 36800 + overheadUs := by
  have hfactor : OVERSAMPLING_MULTIPLIER.getD code 0 ≤ 16 := getD_le (by decide)
  unfold channelUs MEASURE_PER_SAMPLE_US
  split
  · exact Nat.zero_le _
  · omega

theorem measurementTimeMs_le (osrsT osrsP osrsH : Nat) :
    measurementTimeMs osrsT osrsP osrsH ≤ 115 := by
  have ht := @channelUs_le osrsT 0
  have hp := @channelUs_le osrsP MEASURE_PH_OVERHEAD_US
  have hh := @channelUs_le osrsH MEASURE_PH_OVERHEAD_US
  unfold measurementTimeMs MEASURE_BASE_US
  unfold MEASURE_PH_OVERHEAD_US at hp hh ⊢
  omega

theorem sleeps_read (address : Int) (settings : Settings) :
    SleepsAtMost 115 (fun _ => True) (read address settings) := by
  refine takes_then sleeps_evaluated (fun osrsT _ => ?_)
  refine takes_then sleeps_evaluated (fun osrsP _ => ?_)
  refine takes_then (sleeps_writeU8 _ _ _) (fun _ _ => ?_)
  refine takes_then sleeps_evaluated (fun osrsH _ => ?_)
  refine takes_seq (w := 0) (sleeps_sleepMs_le (measurementTimeMs_le _ _ _)) (fun _ _ => ?_)
  exact takes_then (sleeps_describing sleeps_answered) (fun _ _ => takes_pure trivial)

end Bme280

namespace Sht35

theorem sleeps_writeCommand (address : Int) (command : Nat) :
    SleepsAtMost 0 (fun _ => True) (writeCommand address command) :=
  sleeps_describing sleeps_answered

theorem sleeps_readInto (address : Int) (size : Nat) :
    SleepsAtMost 0 (fun _ => True) (readInto address size) := sleeps_describing sleeps_answered

theorem sleeps_verifyWordCrc (data : Bytes) (offset : Nat) :
    SleepsAtMost 0 (fun _ => True) (verifyWordCrc data offset) :=
  takes_ite (fun _ => takes_pure trivial) (fun _ => takes_throw)

theorem sleeps_measurement {α : Type} {address : Int} {value : Bytes → α} :
    SleepsAtMost 0 (fun _ => True) (do
      let measurement ← readInto address 6
      verifyWordCrc measurement 0
      verifyWordCrc measurement 3
      pure (value measurement)) := by
  refine takes_then (sleeps_readInto _ _) (fun measurement _ => ?_)
  refine takes_then (sleeps_verifyWordCrc _ _) (fun _ _ => ?_)
  exact takes_then (sleeps_verifyWordCrc _ _) (fun _ _ => takes_pure trivial)

theorem sleeps_probe (address : Int) : SleepsAtMost 2 (fun _ => True) (probe address) := by
  refine takes_then (sleeps_writeCommand _ _) (fun _ _ => ?_)
  refine takes_seq (d := 1) (w := 1) (sleeps_sleepMs _) (fun _ _ => ?_)
  refine takes_then (sleeps_writeCommand _ _) (fun _ _ => ?_)
  exact takes_seq (d := 1) (w := 0) (sleeps_sleepMs _) (fun _ _ => sleeps_measurement)

theorem sleeps_detectFrom (candidates : List PyValue) (lastError : String)
    (items : List PyValue) :
    SleepsAtMost (2 * items.length) (fun _ => True) (detectFrom candidates lastError items) := by
  induction items generalizing lastError with
  | nil => exact takes_throw
  | cons candidate rest ih =>
    refine takes_then sleeps_evaluated (fun address _ => ?_)
    refine takes_mono (d := 2 + 2 * rest.length) (takes_seq (sleeps_attempt (sleeps_probe _))
      (fun answer _ => ?_)) (by simp only [List.length_cons]; omega) (fun _ h => h)
    cases answer with
    | error message => exact ih message
    | ok serial => exact takes_pure trivial

theorem length_candidates {config : PyDict} {candidates : List PyValue} (h : Accepted config)
    (hcandidates : ((config.get? "i2c_address_candidates").getD
      (.tuple (DEFAULT_I2C_ADDRESS_CANDIDATES.map .int))).iterate = .ok candidates) :
    candidates.length ≤ 2 := by
  have hlisted := h.candidates
  unfold PyDict.getD at hlisted
  cases hget : config.get? "i2c_address_candidates" with
  | none =>
    rw [hget] at hcandidates
    cases hcandidates
    decide
  | some v =>
    rw [hget] at hcandidates hlisted
    simp only [Option.getD_some] at hcandidates hlisted
    cases hlisted with
    | inl hnone =>
      rw [hnone] at hcandidates
      cases hcandidates
    | inr hlist =>
      obtain ⟨addresses, rfl, -, hnodup, hvalid⟩ := hlist
      cases hcandidates
      rw [List.length_map]
      exact (List.subperm_of_subset hnodup hvalid).length_le

theorem sleeps_initializeDevice (config : PyDict) :
    SleepsAtMost 4 (fun device : Device => device.sensor.waitMs ≤ 16) (initializeDevice config) := by
  refine takes_then (sleeps_checked (validateConfig_post config)) (fun _ haccepted => ?_)
  refine takes_then (P := fun candidates => candidates.length ≤ 2)
    (sleeps_python (fun candidates h => length_candidates haccepted h)) (fun candidates hlength => ?_)
  refine takes_then sleeps_evaluated (fun offsetT _ => ?_)
  refine takes_then sleeps_evaluated (fun offsetH _ => ?_)
  refine takes_then (P := fun shot : Nat × Nat => shot.2 ≤ 16)
    (sleeps_python (fun shot h => ?_)) (fun shot hshot => ?_)
  · obtain ⟨entry, hentry, rfl⟩ := tableItem_mem h
    simp only [SINGLE_SHOT, List.mem_cons, List.not_mem_nil, or_false] at hentry
    rcases hentry with rfl | rfl | rfl <;> decide
  · refine takes_seq (d := 4) (w := 0) (P := fun sensor : Sensor => sensor.waitMs ≤ 16) ?_
      (fun sensor hsensor => takes_pure hsensor)
    refine takes_seq (d := 4) (w := 0) (P := fun _ => True)
      (takes_mono (sleeps_detectFrom candidates "None" candidates) (by omega) (fun _ h => h))
      (fun found _ => ?_)
    exact takes_then (sleeps_writeCommand _ _) (fun _ _ => takes_pure hshot)

theorem sleeps_read {sensor : Sensor} (h : sensor.waitMs ≤ 16) :
    SleepsAtMost 16 (fun _ => True) (read sensor) := by
  refine takes_then (sleeps_writeCommand _ _) (fun _ _ => ?_)
  exact takes_seq (w := 0) (sleeps_sleepMs_le h) (fun _ _ => sleeps_measurement)

end Sht35

namespace Ltr390

theorem sleeps_readU8 (register : Nat) : SleepsAtMost 0 (fun _ => True) (readU8 register) :=
  takes_then (sleeps_describing sleeps_answered) (fun _ _ => takes_pure trivial)

theorem sleeps_writeU8 (register : Nat) (value : UInt8) :
    SleepsAtMost 0 (fun _ => True) (writeU8 register value) := sleeps_describing sleeps_answered

theorem sleeps_readRaw20 (register : Nat) :
    SleepsAtMost 0 (fun _ => True) (readRaw20 register) :=
  takes_then (sleeps_describing sleeps_answered) (fun _ _ => takes_pure trivial)

theorem sleeps_init (gainCode resolutionCode rateCode : Nat) (windowFactor : PyValue) :
    SleepsAtMost 0 (fun _ => True) (init gainCode resolutionCode rateCode windowFactor) := by
  refine takes_then (P := fun _ => True) (takes_then (sleeps_readU8 _) (fun partId _ =>
    takes_ite (fun _ => takes_pure trivial) (fun _ => takes_throw))) (fun partId _ => ?_)
  refine takes_then (P := fun _ => True) ?_ (fun _ _ => ?_)
  · refine takes_then (sleeps_writeU8 _ _) (fun _ _ => ?_)
    refine takes_then (sleeps_readRaw20 _) (fun _ _ => ?_)
    refine takes_then (sleeps_writeU8 _ _) (fun _ _ => ?_)
    exact takes_then (sleeps_readRaw20 _) (fun _ _ => takes_pure trivial)
  refine takes_then (sleeps_writeU8 _ _) (fun _ _ => ?_)
  refine takes_then (sleeps_writeU8 _ _) (fun _ _ => ?_)
  refine takes_then (sleeps_writeU8 _ _) (fun _ _ => ?_)
  exact takes_then (sleeps_writeU8 _ _) (fun _ _ => takes_pure trivial)

theorem sleeps_initializeDevice (config : PyDict) :
    SleepsAtMost 0 (fun _ => True) (initializeDevice config) := by
  refine takes_then (sleeps_checked (validateConfig_post config)) (fun _ _ => ?_)
  refine takes_then sleeps_evaluated (fun offsetLux _ => ?_)
  refine takes_then sleeps_evaluated (fun offsetUvIndex _ => ?_)
  refine takes_then sleeps_evaluated (fun below _ => ?_)
  refine takes_ite (fun _ => ?_) (fun _ => ?_)
  · exact takes_then (P := fun _ => False) takes_throw (fun _ h => h.elim)
  · refine takes_then sleeps_evaluated (fun gainCode _ => ?_)
    refine takes_then sleeps_evaluated (fun resolutionCode _ => ?_)
    refine takes_then sleeps_evaluated (fun rateCode _ => ?_)
    exact takes_then (sleeps_init _ _ _ _) (fun _ _ => takes_pure trivial)

theorem dataReadyTimeoutMs_le (resolutionCode : Nat) : dataReadyTimeoutMs resolutionCode ≤ 460 := by
  have htime : CONVERSION_TIME.getD resolutionCode 0 ≤ 4000 := getD_le (by decide)
  unfold dataReadyTimeoutMs WAKE_ALLOWANCE_MS READY_GUARD_MS
  omega

theorem staysWithin_waitForDataReadyFrom {timeoutMs : Nat} (h : timeoutMs ≤ 460) (start : Bus)
    (passes : Nat) :
    StaysWithin 465 start (waitForDataReadyFrom timeoutMs start.clockMs passes) := by
  induction passes with
  | zero => exact fun _ _ => trivial
  | succ passes ih =>
    refine staysWithin_then (sleeps_readU8 _) (fun status => ?_)
    by_cases hstatus : status &&& STATUS_DATA_READY ≠ 0
    · rw [if_pos hstatus]
      exact staysWithin_now
    · rw [if_neg hstatus]
      exact staysWithin_poll (Nat.add_le_add_right h _) ih

theorem sleeps_readChannel {timeoutMs : Nat} (h : timeoutMs ≤ 460) (mainCtrl : UInt8)
    (dataRegister : Nat) :
    SleepsAtMost 465 (fun _ => True) (readChannel timeoutMs mainCtrl dataRegister) := by
  refine takes_then (sleeps_writeU8 _ _) (fun _ _ => ?_)
  refine takes_seq (d := 465) (w := 0) (P := fun _ => True)
    (sleeps_deadline (fun start => staysWithin_waitForDataReadyFrom h start _)) (fun _ _ => ?_)
  exact sleeps_readRaw20 _

theorem sleeps_read (sensor : Sensor) : SleepsAtMost 930 (fun _ => True) (read sensor) := by
  have h := dataReadyTimeoutMs_le sensor.resolutionCode
  refine takes_seq (d := 465) (w := 465) (sleeps_readChannel h _ _) (fun alsRaw _ => ?_)
  refine takes_seq (d := 465) (w := 0) (sleeps_readChannel h _ _) (fun uvRaw _ => ?_)
  exact takes_then (sleeps_writeU8 _ _) (fun _ _ => takes_pure trivial)

end Ltr390

namespace Ds18b20

theorem sleeps_initializeDevice (config : PyDict) :
    SleepsAtMost 0 (fun device : Device => IsIntBetween 750 1000 device.sensor.conversionMs)
      (initializeDevice config) := by
  refine takes_then (sleeps_checked (validateConfig_post config)) (fun _ haccepted => ?_)
  refine takes_then sleeps_evaluated (fun offset _ => ?_)
  refine takes_then sleeps_evaluated (fun rom _ => ?_)
  refine takes_then sleeps_evaluated (fun romHex _ => ?_)
  refine takes_then sleeps_evaluated (fun bytes _ => ?_)
  refine takes_then (P := fun sensor : Sensor => IsIntBetween 750 1000 sensor.conversionMs)
    (takes_then (sleeps_describing sleeps_answered) (fun roms _ => ?_))
    (fun sensor hsensor => takes_pure hsensor)
  cases roms.find? (fun found => found == bytes) with
  | some found => exact takes_pure haccepted.conversion
  | none => exact takes_throw

theorem sleeps_read {sensor : Sensor} (h : IsIntBetween 750 1000 sensor.conversionMs) :
    SleepsAtMost 1000 (fun _ => True) (read sensor) := by
  refine takes_then (sleeps_normalizing sleeps_answered) (fun _ _ => ?_)
  refine takes_seq (d := 1000) (w := 0) (P := fun _ => True)
    (takes_then (sleeps_python (fun ms hms => h.toNat_le hms))
      (fun ms hms => sleeps_sleepMs_le hms)) (fun _ _ => ?_)
  refine takes_then (sleeps_normalizing sleeps_answered) (fun value _ => ?_)
  cases value with
  | none => exact takes_throw
  | some value => exact takes_ite (fun _ => takes_pure trivial) (fun _ => takes_throw)

end Ds18b20

namespace Yl69Fc28

theorem sleeps_setPower (power : Option Int) (activeLow enabled : Bool) :
    SleepsAtMost 0 (fun _ => True) (setPower power activeLow enabled) := by
  cases power with
  | none => exact takes_pure trivial
  | some pin => exact sleeps_normalizing sleeps_answered

theorem sleeps_optionalPin (config : PyDict) (key : String) (value : Option Nat) :
    SleepsAtMost 0 (fun _ => True) (optionalPin config key value) := by
  unfold optionalPin
  cases config.get? key with
  | none => exact takes_pure trivial
  | some v =>
    refine takes_then (P := fun _ => True) ?_ (fun _ _ => takes_pure trivial)
    cases v with
    | int pin => exact sleeps_answered
    | _ => exact takes_throw

structure Bounded (device : Device) : Prop where
  settle : IsIntBetween 0 2000 device.settleMs
  sampleDelay : IsIntBetween 0 50 device.sampleDelayMs
  samples : device.samples.length ≤ 101

theorem sleeps_initializeDevice (config : PyDict) :
    SleepsAtMost 0 Bounded (initializeDevice config) := by
  refine takes_then (sleeps_checked (validateConfig_post config)) (fun _ haccepted => ?_)
  refine takes_then (sleeps_optionalPin _ _ _) (fun digital _ => ?_)
  refine takes_then (sleeps_optionalPin _ _ _) (fun power _ => ?_)
  refine takes_then sleeps_evaluated (fun dryRaw _ => ?_)
  refine takes_then sleeps_evaluated (fun wetRaw _ => ?_)
  refine takes_then (sleeps_python (fun count hcount => haccepted.samples.toNat_le hcount))
    (fun count hcount => ?_)
  refine takes_then (sleeps_setPower _ _ _) (fun _ _ => ?_)
  exact takes_pure ⟨haccepted.settle, haccepted.sampleDelay, by simpa using hcount⟩

theorem sleeps_readSample : SleepsAtMost 0 (fun _ => True) readSample :=
  sleeps_normalizing sleeps_answered

theorem sleeps_readSamples {sampleDelayMs : Nat} (h : sampleDelayMs ≤ 50) (left : Nat) :
    SleepsAtMost (50 * left) (fun _ => True) (readSamples sampleDelayMs left) := by
  induction left with
  | zero => exact takes_pure trivial
  | succ left ih =>
    refine takes_then sleeps_readSample (fun sample _ => ?_)
    have hrest : SleepsAtMost (50 * left) (fun _ => True) (do
        let rest ← readSamples sampleDelayMs left
        pure (sample :: rest)) := takes_seq (w := 0) ih (fun _ _ => takes_pure trivial)
    refine takes_mono (d := 50 + 50 * left) (P := fun _ => True) ?_
      (by omega) (fun _ h => h)
    refine takes_ite (fun _ => ?_) (fun _ => ?_)
    · exact takes_seq (sleeps_sleepMs_le h) (fun _ _ => hrest)
    · exact takes_mono hrest (Nat.le_add_left _ _) (fun _ h => h)

theorem sleeps_readFilteredRaw {device : Device} (h : Bounded device) :
    SleepsAtMost 5050 (fun _ => True) (readFilteredRaw device) := by
  refine takes_then sleeps_readSample (fun _ _ => ?_)
  refine takes_then (sleeps_python (fun ms hms => h.sampleDelay.toNat_le hms)) (fun ms hms => ?_)
  have hsamples := h.samples
  refine takes_seq (w := 0) (takes_mono (sleeps_readSamples hms _) ?_ (fun _ h => h))
    (fun _ _ => takes_pure trivial)
  omega

theorem sleeps_readDigital (digital : Option Int) :
    SleepsAtMost 0 (fun _ => True) (readDigital digital) := by
  cases digital with
  | none => exact takes_pure trivial
  | some pin => exact sleeps_normalizing sleeps_answered

theorem sleeps_settle {device : Device} (h : Bounded device) :
    SleepsAtMost 2000 (fun _ => True) (settle device) := by
  refine takes_then (sleeps_python (fun ms hms => h.settle.toNat_le hms)) (fun ms hms => ?_)
  exact takes_ite (fun _ => sleeps_sleepMs_le hms)
    (fun _ => takes_mono (takes_pure trivial) (Nat.zero_le _) (fun _ h => h))

theorem sleeps_read {device : Device} (h : Bounded device) :
    SleepsAtMost 7050 (fun _ => True) (read device) := by
  refine takes_then (sleeps_setPower _ _ _) (fun _ _ => ?_)
  refine takes_finish (d := 7050) (w := 0) ?_ (sleeps_setPower _ _ _)
  refine takes_seq (d := 2000) (w := 5050) (sleeps_settle h) (fun _ _ => ?_)
  refine takes_seq (d := 5050) (w := 0) (sleeps_readFilteredRaw h) (fun raw _ => ?_)
  exact takes_then (sleeps_readDigital _) (fun _ _ => takes_pure trivial)

end Yl69Fc28

def INITIALIZE_MS : Nat := 200
def READ_MS : Nat := 7100

def Driver.Short (driver : Driver) : Prop := SleepsAtMost READ_MS (fun _ => True) driver.read

theorem sleeps_initialized (deviceType : String) (config : PyDict) :
    SleepsAtMost INITIALIZE_MS Driver.Short (Driver.initialized deviceType config) := by
  have hread : ∀ {α : Type} {d : Nat} {p : BusProg α}, SleepsAtMost d (fun _ => True) p →
      d ≤ READ_MS → SleepsAtMost READ_MS (fun _ => True) (do
        let _ ← p
        computed) :=
    fun h hd => takes_mono (takes_seq (w := 0) h (fun _ _ => sleeps_computed)) hd (fun _ h => h)
  refine takes_ite (fun _ => ?_) (fun _ => takes_ite (fun _ => ?_) (fun _ => takes_ite (fun _ => ?_)
    (fun _ => takes_ite (fun _ => ?_) (fun _ => takes_ite (fun _ => ?_) (fun _ => takes_throw)))))
  · refine takes_mono (takes_seq (w := 0) (Bme280.sleeps_initializeDevice config) (fun device _ =>
      takes_pure ?_)) (by decide) (fun _ h => h)
    exact hread (Bme280.sleeps_read _ _) (by decide)
  · refine takes_mono (takes_seq (w := 0) (Ltr390.sleeps_initializeDevice config) (fun device _ =>
      takes_pure ?_)) (by decide) (fun _ h => h)
    exact hread (Ltr390.sleeps_read _) (by decide)
  · refine takes_mono (takes_seq (w := 0) (Ds18b20.sleeps_initializeDevice config)
      (fun device hdevice => takes_pure ?_)) (by decide) (fun _ h => h)
    exact hread (Ds18b20.sleeps_read hdevice) (by decide)
  · refine takes_mono (takes_seq (w := 0) (Sht35.sleeps_initializeDevice config)
      (fun device hdevice => takes_pure ?_)) (by decide) (fun _ h => h)
    exact hread (Sht35.sleeps_read hdevice) (by decide)
  · refine takes_mono (takes_seq (w := 0) (Yl69Fc28.sleeps_initializeDevice config)
      (fun device hdevice => takes_pure ?_)) (by decide) (fun _ h => h)
    exact hread (Yl69Fc28.sleeps_read hdevice) (by decide)

end PicoDualCore
