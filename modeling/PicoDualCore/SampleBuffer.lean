import PicoDualCore.DriverReads
import PicoDualCore.OrderStatistic
import Mathlib.Data.Nat.Basic
set_option autoImplicit false

/-!
The reads of the YL-69 / FC-28 driver with the sample buffer that it keeps between them, and what
the filtered raw count depends on.
-/

namespace PicoDualCore.Yl69Fc28
open AtomicProgram

/-- The bus, and the buffer that the constructor allocates. -/
structure Probe where
  bus : Bus
  samples : List Nat

abbrev ProbeProg (α : Type) := Proc Probe BusInput Exc α

def onBus {α : Type} (p : BusProg α) : ProbeProg α :=
  p.zoom Probe.bus (fun probe bus => { probe with bus }) id id

def storeSample (index sample : Nat) : ProbeProg Unit :=
  .atomic (fun probe _ => (.ok (), { probe with samples := probe.samples.set index sample }))

def fillSamples (sampleDelayMs : Nat) : Nat → Nat → ProbeProg Unit
  | _, 0 => pure ()
  | index, left + 1 => do
    let sample ← onBus readSample
    storeSample index sample
    if sampleDelayMs ≠ 0 then onBus (sleepMs sampleDelayMs)
    fillSamples sampleDelayMs (index + 1) left

def readFilteredRawBuffered (device : Device) : ProbeProg Nat := do
  let _ ← onBus readSample
  let sampleDelayMs ← onBus (python device.sampleDelayMs.asInt)
  fillSamples sampleDelayMs.toNat 0 device.samples.length
  let samples ← (.atomic (fun probe _ => (.ok probe.samples, probe)) : ProbeProg (List Nat))
  let ordered := samples.mergeSort
  pure (ordered.getD (ordered.length / 2) 0)

/-- The power goes off again on every way out. -/
def readBuffered (device : Device) : ProbeProg (Nat × Option Nat) := do
  onBus (setPower device.power device.activeLow true)
  (do
    onBus (settle device)
    let raw ← readFilteredRawBuffered device
    let digital ← onBus (readDigital device.digital)
    pure (raw, digital)).finish (onBus (setPower device.power device.activeLow false))

/-- The conversions of the analog input, in the order of the log. -/
def conversions (log : List Transaction) : List Nat :=
  log.filterMap (fun transaction => match transaction with
    | .adcRead raw => some raw
    | _ => none)

def Converts {α : Type} (P : α → List Nat → Prop) (p : BusProg α) : Prop :=
  ∀ bus : Bus, p.wp (fun _ => True) (fun s t => t.log = s.log) (fun _ _ => True)
    (fun a t => ∃ raws, conversions t.log = conversions bus.log ++ raws ∧ P a raws)
    (fun _ _ => True) bus

section Converts

variable {α β : Type}

theorem converts_pure {P : α → List Nat → Prop} {a : α} (h : P a []) : Converts P (pure a) :=
  fun _ => ⟨[], (List.append_nil _).symm, h⟩

theorem converts_python {r : Except PyError α} : Converts (fun _ raws => raws = []) (python r) := by
  cases r with
  | ok a => exact converts_pure rfl
  | error e => exact fun _ => trivial

theorem converts_normalizing {P : α → List Nat → Prop} {p : BusProg α} {describe : String → String}
    (h : Converts P p) : Converts P (normalizing describe p) := by
  intro bus
  refine (Proc.wp_handle _ _ _).mpr (Proc.wp_mono (h bus) (fun _ _ h => h) (fun _ _ h => h) ?_)
  intro e _ _
  cases e <;> trivial

theorem converts_transfer {P : α → List Nat → Prop} {transaction : BusInput → Transaction}
    {answer : BusInput → α} (h : ∀ i, P (answer i) (conversions [transaction i])) :
    Converts P (transfer transaction answer) := by
  intro bus
  refine Proc.wp_atomic (fun t ht i _ => ⟨trivial, ?_⟩)
  dsimp only
  cases i.outcome with
  | done =>
    refine ⟨conversions [transaction i], ?_, h i⟩
    dsimp only
    rw [conversions, List.filterMap_append, ht]
    rfl
  | fail message => trivial
  | memory => trivial

theorem converts_readSample : Converts (fun raw raws => raws = [raw]) readSample :=
  converts_normalizing (converts_transfer (fun _ => rfl))

theorem converts_setPower (power : Option Int) (activeLow enabled : Bool) :
    Converts (fun _ raws => raws = []) (setPower power activeLow enabled) := by
  cases power with
  | none => exact converts_pure rfl
  | some pin => exact converts_normalizing (converts_transfer (fun _ => rfl))

theorem converts_readDigital (digital : Option Int) :
    Converts (fun _ raws => raws = []) (readDigital digital) := by
  cases digital with
  | none => exact converts_pure rfl
  | some pin => exact converts_normalizing (converts_transfer (fun _ => rfl))

theorem converts_sleepMs (ms : Nat) : Converts (fun _ raws => raws = []) (sleepMs ms) := by
  intro bus
  refine Proc.wp_atomic (fun t ht i _ => ⟨trivial, [], ?_, rfl⟩)
  rw [List.append_nil]
  exact congrArg conversions ht

theorem converts_settle (device : Device) : Converts (fun _ raws => raws = []) (settle device) := by
  intro bus
  refine (Proc.wp_seq _ _ _).mpr (Proc.wp_mono (converts_python bus) (fun _ _ h => h) ?_
    (fun _ _ h => h))
  rintro settleMs t ⟨raws, ht, rfl⟩
  dsimp only
  rw [List.append_nil] at ht
  by_cases hsettle : device.power.isSome = true ∧ settleMs ≠ 0
  · rw [if_pos hsettle, ← ht]
    exact converts_sleepMs _ t
  · rw [if_neg hsettle]
    exact ⟨[], ht.trans (List.append_nil _).symm, rfl⟩

end Converts

/-- Time passes. -/
def Waits (s t : Probe) : Prop := t.samples = s.samples ∧ t.bus.log = s.bus.log

def Sampling {α : Type} (Q : α → Probe → Prop) (p : ProbeProg α) (s : Probe) : Prop :=
  p.wp (fun _ => True) Waits (fun s t => t.samples.length = s.samples.length) Q (fun _ _ => True) s

section Sampling

variable {α β : Type} {s : Probe}

theorem sampling_seq {Q : β → Probe → Prop} {P : α → Probe → Prop} {p : ProbeProg α}
    {f : α → ProbeProg β} (hp : Sampling P p s) (hf : ∀ a t, P a t → Sampling Q (f a) t) :
    Sampling Q (p >>= f) s :=
  (Proc.wp_seq _ _ _).mpr (Proc.wp_mono hp (fun _ _ h => h) hf (fun _ _ h => h))

theorem sampling_onBus {P : α → List Nat → Prop} {p : BusProg α} (h : Converts P p) :
    Sampling (fun a t => t.samples = s.samples ∧
      ∃ raws, conversions t.bus.log = conversions s.bus.log ++ raws ∧ P a raws) (onBus p) s := by
  unfold Sampling onBus
  refine Proc.wp_zoom (J := fun t => t.samples = s.samples) (fun _ _ => trivial) ?_ ?_
    (fun _ _ ht hQ => ⟨ht, hQ⟩) (fun _ _ _ _ => trivial) rfl (h s.bus)
  · exact fun _ _ ht hu => ⟨hu.2, hu.1.trans ht⟩
  · exact fun _ _ ht _ => ⟨rfl, ht, rfl⟩

theorem sampling_storeSample (index sample : Nat) :
    Sampling (fun _ t => t.samples = s.samples.set index sample ∧ t.bus.log = s.bus.log)
      (storeSample index sample) s :=
  Proc.wp_atomic (fun t ht _ _ => ⟨List.length_set, by simp [ht.1], ht.2⟩)

theorem take_set_succ {index sample : Nat} {samples : List Nat} (h : index < samples.length) :
    (samples.set index sample).take (index + 1) = samples.take index ++ [sample] := by
  rw [List.take_succ_eq_append_getElem (by simpa using h), List.take_set_of_le (Nat.le_refl _),
    List.getElem_set_self]

/-- The entries from `index` on are overwritten one after the other. -/
theorem sampling_fillSamples (sampleDelayMs index left : Nat)
    (hroom : index + left = s.samples.length) :
    Sampling (fun _ t => ∃ raws, raws.length = left ∧
      conversions t.bus.log = conversions s.bus.log ++ raws ∧
      t.samples = s.samples.take index ++ raws) (fillSamples sampleDelayMs index left) s := by
  induction left generalizing index s with
  | zero =>
    refine ⟨[], rfl, (List.append_nil _).symm, ?_⟩
    rw [List.append_nil, List.take_of_length_le (by omega)]
  | succ left ih =>
    refine sampling_seq (sampling_onBus converts_readSample) ?_
    rintro sample t ⟨hsamples, raws, hlog, rfl⟩
    refine sampling_seq (sampling_storeSample index sample) ?_
    rintro - u ⟨hset, hsame⟩
    rw [hsamples] at hset
    have hrest : ∀ v : Probe, v.samples = u.samples →
        conversions v.bus.log = conversions u.bus.log →
        Sampling (fun _ t => ∃ raws, raws.length = left + 1 ∧
          conversions t.bus.log = conversions s.bus.log ++ raws ∧
          t.samples = s.samples.take index ++ raws)
          (fillSamples sampleDelayMs (index + 1) left) v := by
      intro v hv hlog'
      have hnext : v.samples = s.samples.set index sample := hv.trans hset
      refine Proc.wp_mono (ih (index + 1) (s := v) ?_) (fun _ _ h => h) ?_ (fun _ _ h => h)
      · rw [hnext, List.length_set]
        omega
      · rintro - w ⟨raws, hlength, hw, htail⟩
        refine ⟨sample :: raws, by rw [List.length_cons, hlength], ?_, ?_⟩
        · rw [hw, hlog', congrArg conversions hsame, hlog, List.append_assoc]
          rfl
        · rw [htail, hnext, take_set_succ (by omega), List.append_assoc]
          rfl
    unfold Sampling
    by_cases hdelay : sampleDelayMs ≠ 0
    · rw [if_pos hdelay]
      refine sampling_seq (sampling_onBus (converts_sleepMs sampleDelayMs)) ?_
      rintro - v ⟨hv, raws, hlog', rfl⟩
      exact hrest v hv (hlog'.trans (List.append_nil _))
    · rw [if_neg hdelay]
      exact hrest u rfl rfl

/-- The count is the median of the conversions after the first. -/
theorem sampling_readFilteredRawBuffered {device : Device}
    (hlength : s.samples.length = device.samples.length) :
    Sampling (fun raw t => ∃ first raws, raws.length = device.samples.length ∧
      conversions t.bus.log = conversions s.bus.log ++ first :: raws ∧
      raw = OrderStatistic.median raws 0) (readFilteredRawBuffered device) s := by
  refine sampling_seq (sampling_onBus converts_readSample) ?_
  rintro first t ⟨ht, _, hlog, rfl⟩
  refine sampling_seq (sampling_onBus converts_python) ?_
  rintro sampleDelayMs u ⟨hu, _, hlog', rfl⟩
  have hroom : 0 + device.samples.length = u.samples.length := by
    rw [hu, ht, hlength, Nat.zero_add]
  refine sampling_seq (sampling_fillSamples sampleDelayMs.toNat 0 _ hroom) ?_
  rintro - v ⟨raws, hcount, hv, hsamples⟩
  have hlook : Sampling (fun samples w => samples = v.samples ∧ w.bus.log = v.bus.log)
      (.atomic (fun probe _ => (.ok probe.samples, probe)) : ProbeProg (List Nat)) v :=
    Proc.wp_atomic (fun _ hw _ _ => ⟨rfl, hw⟩)
  refine sampling_seq hlook ?_
  rintro _ w ⟨rfl, hw⟩
  refine ⟨first, raws, hcount, ?_, ?_⟩
  · rw [congrArg conversions hw, hv, hlog', hlog, List.append_nil, List.append_assoc]
    rfl
  · rw [hsamples, List.take_zero, List.nil_append, List.length_mergeSort]
    rfl

theorem sampling_readBuffered {device : Device}
    (hlength : s.samples.length = device.samples.length) :
    Sampling (fun answer t => ∃ first raws, raws.length = device.samples.length ∧
      conversions t.bus.log = conversions s.bus.log ++ first :: raws ∧
      answer.1 = OrderStatistic.median raws 0) (readBuffered device) s := by
  refine sampling_seq (sampling_onBus (converts_setPower _ _ true)) ?_
  rintro - t ⟨ht, _, hlog, rfl⟩
  rw [List.append_nil] at hlog
  have hoff : ∀ (Q : Probe → Prop) (u : Probe), (∀ v : Probe, conversions v.bus.log =
      conversions u.bus.log → Q v) →
      Sampling (fun _ v => Q v) (onBus (setPower device.power device.activeLow false)) u := by
    intro Q u h
    refine Proc.wp_mono (sampling_onBus (converts_setPower _ _ false)) (fun _ _ h => h) ?_
      (fun _ _ h => h)
    rintro - v ⟨-, _, hv, rfl⟩
    exact h v (hv.trans (List.append_nil _))
  refine (Proc.wp_finish _ _ _).mpr ?_
  have hbody : Sampling (fun answer v => ∃ first raws, raws.length = device.samples.length ∧
      conversions v.bus.log = conversions s.bus.log ++ first :: raws ∧
      answer.1 = OrderStatistic.median raws 0) (do
        onBus (settle device)
        let raw ← readFilteredRawBuffered device
        let digital ← onBus (readDigital device.digital)
        pure (raw, digital)) t := by
    refine sampling_seq (sampling_onBus (converts_settle device)) ?_
    rintro - u ⟨hu, _, hlog', rfl⟩
    refine sampling_seq (sampling_readFilteredRawBuffered (by rw [hu, ht, hlength])) ?_
    rintro raw v ⟨first, raws, hcount, hv, hraw⟩
    refine sampling_seq (sampling_onBus (converts_readDigital device.digital)) ?_
    rintro digital w ⟨-, _, hw, rfl⟩
    refine ⟨first, raws, hcount, ?_, hraw⟩
    rw [hw, List.append_nil, hv, hlog', List.append_nil, hlog]
  refine Proc.wp_mono hbody (fun _ _ h => h) ?_ ?_
  · rintro answer v ⟨first, raws, hcount, hv, hraw⟩
    exact hoff _ v (fun w hw => ⟨first, raws, hcount, hw.trans hv, hraw⟩)
  · exact fun e v _ => hoff _ v (fun _ _ => trivial)

end Sampling

/-- What a driver may look like after any earlier reads, each ended in any way or not at all, and
anything that went over the bus between them. -/
inductive Served (device : Device) : Probe → Prop where
  | made (bus : Bus) : Served device ⟨bus, device.samples⟩
  | between {s : Probe} (bus : Bus) : Served device s → Served device { s with bus }
  | read {s t : Probe} {q : ProbeProg (Nat × Option Nat)} : Served device s →
      Proc.Reaches (fun _ => True) Waits (readBuffered device) s q t → Served device t

theorem waits_refl (s : Probe) : Waits s s := ⟨rfl, rfl⟩

theorem waits_trans {s t u : Probe} (h : Waits s t) (h' : Waits t u) : Waits s u :=
  ⟨h'.1.trans h.1, h'.2.trans h.2⟩

/-- A read as far as it has come, and its postcondition if it is complete. -/
theorem reaches_readBuffered {device : Device} {s t : Probe} {q : ProbeProg (Nat × Option Nat)}
    (hlength : s.samples.length = device.samples.length)
    (h : Proc.Reaches (fun _ => True) Waits (readBuffered device) s q t) :
    t.samples.length = device.samples.length ∧ ∃ u, Waits u t ∧
      Sampling (fun answer t => ∃ first raws, raws.length = device.samples.length ∧
        conversions t.bus.log = conversions s.bus.log ++ first :: raws ∧
        answer.1 = OrderStatistic.median raws 0) q u :=
  Proc.wp_reaches (I := fun t => t.samples.length = device.samples.length) waits_refl waits_trans
    (fun _ _ ha hG => hG.trans ha) (fun _ _ ha hE => ⟨hE, (congrArg List.length hE.1).trans ha⟩)
    hlength (sampling_readBuffered hlength) h

/-- Whatever the earlier reads left in the buffer, it has its length. -/
theorem Served.length {device : Device} {s : Probe} (h : Served device s) :
    s.samples.length = device.samples.length := by
  induction h with
  | made bus => rfl
  | between bus _ ih => exact ih
  | read _ hrun ih => exact (reaches_readBuffered ih hrun).1

theorem Served.read_median {device : Device} {s t : Probe} {answer : Nat × Option Nat}
    (h : Served device s)
    (hrun : Proc.Reaches (fun _ => True) Waits (readBuffered device) s (.ret answer) t) :
    ∃ first raws, raws.length = device.samples.length ∧
      conversions t.bus.log = conversions s.bus.log ++ first :: raws ∧
      answer.1 = OrderStatistic.median raws 0 := by
  obtain ⟨-, u, hu, first, raws, hcount, hlog, hraw⟩ := reaches_readBuffered h.length hrun
  exact ⟨first, raws, hcount, (congrArg conversions hu.2).trans hlog, hraw⟩

/-- A completed read makes one conversion more than it has samples. Its count is the same as that of
any other read, after any other history, that has the same samples; and it is between two of the
samples that are left when fewer than half are corrupted. -/
theorem readBuffered_robust {device : Device} (hodd : device.samples.length % 2 = 1) {s t : Probe}
    {answer : Nat × Option Nat} (hs : Served device s)
    (hrun : Proc.Reaches (fun _ => True) Waits (readBuffered device) s (.ret answer) t) :
    ∃ first raws, raws.length = device.samples.length ∧
      conversions t.bus.log = conversions s.bus.log ++ first :: raws ∧
      (∀ s' t' answer' first', Served device s' →
        Proc.Reaches (fun _ => True) Waits (readBuffered device) s' (.ret answer') t' →
        conversions t'.bus.log = conversions s'.bus.log ++ first' :: raws →
        answer'.1 = answer.1) ∧
      ∀ intact : List Nat, intact.Sublist raws →
        device.samples.length ≤ intact.length + (device.samples.length - 1) / 2 →
        (∃ low ∈ intact, low ≤ answer.1) ∧ ∃ high ∈ intact, answer.1 ≤ high := by
  obtain ⟨first, raws, hcount, hlog, hraw⟩ := hs.read_median hrun
  refine ⟨first, raws, hcount, hlog, ?_, ?_⟩
  · intro s' t' answer' first' hs' hrun' hlog'
    obtain ⟨other, raws', -, hother, hraw'⟩ := hs'.read_median hrun'
    have hsame : other :: raws' = first' :: raws := List.append_cancel_left (hother.symm.trans hlog')
    rw [hraw, hraw', (List.cons.inj hsame).2]
  · intro intact hsub hfew
    rw [hraw]
    exact OrderStatistic.median_between hsub (by rw [hcount]; exact hodd) (by rw [hcount]; exact hfew)

def looseProbe : Device where
  dryRaw := .int 60000
  wetRaw := .int 20000
  settleMs := .int 200
  sampleDelayMs := .int 2
  samples := [0, 0, 0]
  digital := none
  power := none
  activeLow := true

def converting (byte : UInt8) : BusInput where
  outcome := .done
  byte := fun _ => byte
  roms := []
  lateMs := 0

/-- A read that breaks off after its first sample, and a complete one after it. -/
theorem readBuffered_robust_interrupted : ∃ s t, Served looseProbe s ∧ s.samples = [2313, 0, 0] ∧
    Proc.Reaches (fun _ => True) Waits (readBuffered looseProbe) s (.ret (1028, none)) t ∧
    ∃ first raws, raws.length = 3 ∧
      conversions t.bus.log = conversions s.bus.log ++ first :: raws ∧
      ∀ intact : List Nat, intact.Sublist raws → 3 ≤ intact.length + 1 →
        (∃ low ∈ intact, low ≤ 1028) ∧ ∃ high ∈ intact, 1028 ≤ high := by
  let broken := Proc.advance (converting 9) 3 (readBuffered looseProbe) ⟨{}, [0, 0, 0]⟩
  have hserved : Served looseProbe broken.2 :=
    .read (.made {}) (Proc.reaches_advance trivial 3 .refl)
  obtain ⟨q, hq, hret, -⟩ := Proc.run_visits (fun _ => True) (i := converting 4) trivial
    (readBuffered looseProbe) broken.2
  have hsorted : [1028, 1028, 1028].mergeSort = [1028, 1028, 1028] :=
    List.mergeSort_of_pairwise (by decide)
  have hcomplete : ((readBuffered looseProbe).run (converting 4) broken.2).1 =
      .ret ([1028, 1028, 1028].mergeSort.getD ([1028, 1028, 1028].mergeSort.length / 2) 0, none) :=
    rfl
  rw [hsorted] at hcomplete
  have hanswer : q = .ret (1028, none) := hret _ hcomplete
  have hrun : Proc.Reaches (fun _ => True) Waits (readBuffered looseProbe) broken.2
      (.ret (1028, none)) ((readBuffered looseProbe).run (converting 4) broken.2).2 := by
    rw [← hanswer]
    exact hq.mono (fun _ h => h) (fun _ _ h => h.elim)
  obtain ⟨first, raws, hcount, hlog, -, hrobust⟩ := readBuffered_robust (by decide) hserved hrun
  exact ⟨_, _, hserved, rfl, hrun, first, raws, hcount, hlog, hrobust⟩

end PicoDualCore.Yl69Fc28
