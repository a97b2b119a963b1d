import PicoDualCore.DriverReads
import PicoDualCore.DriverSpec
import Mathlib.Data.Rat.Lemmas
import Mathlib.Algebra.Order.Ring.Abs
import Mathlib.Data.Nat.Prime.Pow
import Mathlib.Tactic.FieldSimp
import Mathlib.Tactic.Ring
import Mathlib.Tactic.Linarith
import Mathlib.Tactic.LinearCombination
import Mathlib.Tactic.IntervalCases
set_option autoImplicit false

/-!
The compensation of the BME280 over the rational numbers, and the measurements for which the divisor
of the pressure is zero.
-/

namespace PicoDualCore.Bme280
open AtomicProgram

def SENTINEL_20 : Nat := 0x80000
def SENTINEL_16 : Nat := 0x8000

def Calibration.digT (c : Calibration) (i : Nat) : Int := c.t.getD (i - 1) 0
def Calibration.digP (c : Calibration) (i : Nat) : Int := c.p.getD (i - 1) 0
def Calibration.digH (c : Calibration) (i : Nat) : Int := c.h.getD (i - 1) 0

/-- `int(x)` rounds towards zero. -/
def truncated (x : Rat) : Int := x.num.tdiv x.den

def compensateTemperature (c : Calibration) (adcT : Nat) : Int × Rat :=
  let var1 : Rat := ((adcT : Rat) / 16384 - c.digT 1 / 1024) * c.digT 2
  let var2 : Rat := ((adcT : Rat) / 131072 - c.digT 1 / 8192) *
    ((adcT : Rat) / 131072 - c.digT 1 / 8192) * c.digT 3
  (truncated (var1 + var2), (var1 + var2) / 5120)

def pressureDivisor (c : Calibration) (tFine : Int) : Rat :=
  let var1 : Rat := (tFine : Rat) / 2 - 64000
  let var1 : Rat := ((c.digP 3 * var1 * var1) / 524288 + c.digP 2 * var1) / 524288
  (1 + var1 / 32768) * c.digP 1

/-- The error is the `ArithmeticError`. -/
def compensatePressure (c : Calibration) (tFine : Int) (adcP : Nat) : Except String Rat :=
  let var1 : Rat := (tFine : Rat) / 2 - 64000
  let var2 : Rat := (var1 * var1 * c.digP 6) / 32768
  let var2 : Rat := var2 + var1 * c.digP 5 * 2
  let var2 : Rat := var2 / 4 + c.digP 4 * 65536
  let var1 : Rat := pressureDivisor c tFine
  if var1 = 0 then .error "Invalid BME280 pressure calibration"
  else
    let pressure : Rat := 1048576 - adcP
    let pressure : Rat := (pressure - var2 / 4096) * 6250 / var1
    let var1 : Rat := (c.digP 9 * pressure * pressure) / 2147483648
    let var2 : Rat := (pressure * c.digP 8) / 32768
    .ok (pressure + (var1 + var2 + c.digP 7) / 16)

def clampHumidity (value : Rat) : Rat :=
  if 100 < value then 100 else if value < 0 then 0 else value

def compensateHumidity (c : Calibration) (tFine : Int) (adcH : Nat) : Rat :=
  let varH : Rat := tFine - 76800
  let varH : Rat := (adcH - (c.digH 4 * 64 + c.digH 5 / 16384 * varH)) *
    (c.digH 2 / 65536 *
      (1 + c.digH 6 / 67108864 * varH * (1 + c.digH 3 / 67108864 * varH)))
  let varH : Rat := varH * (1 - c.digH 1 * varH / 524288)
  clampHumidity varH

/-- Temperature, pressure and humidity; a skipped channel has no value. -/
structure Measurement where
  temperatureC : Option Rat
  pressurePa : Option Rat
  humidityPercent : Option Rat
  deriving DecidableEq, Repr

def compensated (c : Calibration) (adcT adcP adcH : Nat) : Except String Measurement :=
  if adcT ≠ SENTINEL_20 then do
    let (tFine, temperatureC) := compensateTemperature c adcT
    let pressurePa ← (if adcP ≠ SENTINEL_20 then do
      let pressure ← compensatePressure c tFine adcP
      pure (some pressure)
    else pure none)
    let humidityPercent :=
      if adcH ≠ SENTINEL_16 then some (compensateHumidity c tFine adcH) else none
    pure ⟨some temperatureC, pressurePa, humidityPercent⟩
  else pure ⟨none, none, none⟩

/-- `read` of the sensor; an answer that is an error is the `ArithmeticError`. -/
def measure (address : Int) (settings : Settings) (c : Calibration) :
    BusProg (Except String Measurement) := do
  let channels ← read address settings
  pure (compensated c (channels.getD 0 0) (channels.getD 1 0) (channels.getD 2 0))

theorem truncated_div (n : Int) {d : Int} (hd : 0 < d) :
    truncated ((n : Rat) / (d : Rat)) = n.tdiv d := by
  have hne : d ≠ 0 := by omega
  obtain ⟨c, hn, hc⟩ := Rat.num_den_mk hne (Rat.divInt_eq_div n d).symm
  have hpos : 0 < c := by
    by_contra h
    have hden : (0 : Int) < ((n : Rat) / (d : Rat)).den := by
      exact_mod_cast ((n : Rat) / (d : Rat)).pos
    nlinarith
  calc truncated ((n : Rat) / (d : Rat))
      = (c * ((n : Rat) / (d : Rat)).num).tdiv (c * ((n : Rat) / (d : Rat)).den) :=
        (Int.mul_tdiv_mul_of_pos _ _ hpos).symm
    _ = n.tdiv d := by rw [← hn, ← hc]

/-- `2 ^ 34` times the fine temperature, before it is truncated. -/
def fineNumerator (c : Calibration) (adcT : Nat) : Int :=
  let u : Int := adcT - 16 * c.digT 1
  u * (2 ^ 20 * c.digT 2 + u * c.digT 3)

theorem tFine_eq (c : Calibration) (adcT : Nat) :
    (compensateTemperature c adcT).1 = (fineNumerator c adcT).tdiv (2 ^ 34) := by
  rw [← truncated_div _ (by norm_num)]
  unfold compensateTemperature fineNumerator
  dsimp only
  congr 1
  push_cast
  field_simp
  ring

/-- The divisor is the factor `dig_P1` and a quadratic in the fine temperature. -/
theorem pressureDivisor_eq_zero {c : Calibration} (haccepted : c.digP1 ≠ 0) (tFine : Int) :
    pressureDivisor c tFine = 0 ↔
      (tFine - 128000) * (c.digP 3 * (tFine - 128000) + 2 ^ 20 * c.digP 2) = -2 ^ 55 := by
  have hp1 : (c.digP 1 : Rat) ≠ 0 := by exact_mod_cast haccepted
  have heq : pressureDivisor c tFine * 2 ^ 55 =
      ((tFine - 128000) * (c.digP 3 * (tFine - 128000) + 2 ^ 20 * c.digP 2) + 2 ^ 55) *
        c.digP 1 := by
    unfold pressureDivisor
    ring
  constructor
  · intro h
    rw [h, zero_mul] at heq
    have hfactor := (mul_eq_zero.mp heq.symm).resolve_right hp1
    have hint : (tFine - 128000) * (c.digP 3 * (tFine - 128000) + 2 ^ 20 * c.digP 2) +
        2 ^ 55 = 0 := by
      exact_mod_cast hfactor
    omega
  · intro h
    have hcast : ((tFine : Rat) - 128000) * (c.digP 3 * (tFine - 128000) + 2 ^ 20 * c.digP 2) =
        -2 ^ 55 := by exact_mod_cast h
    rw [hcast, neg_add_cancel, zero_mul] at heq
    exact (mul_eq_zero.mp heq).resolve_right (by norm_num)

theorem pow_two_of_mul {x y : Int} {n : Nat} (h : x * y = -2 ^ n) :
    ∃ k ≤ n, (x = 2 ^ k ∧ y = -2 ^ (n - k)) ∨ (x = -2 ^ k ∧ y = 2 ^ (n - k)) := by
  have hdvd : x.natAbs ∣ 2 ^ n := by
    have habs := congrArg Int.natAbs h
    rw [Int.natAbs_mul, Int.natAbs_neg, Int.natAbs_pow] at habs
    exact ⟨y.natAbs, habs.symm⟩
  obtain ⟨k, hk, hx⟩ := (Nat.dvd_prime_pow Nat.prime_two).mp hdvd
  have hsplit : (2 : Int) ^ n = 2 ^ k * 2 ^ (n - k) := by rw [← pow_add, Nat.add_sub_cancel' hk]
  have hne : (2 : Int) ^ k ≠ 0 := by positivity
  refine ⟨k, hk, ?_⟩
  rcases Int.natAbs_eq x with hpos | hneg
  · left
    rw [hx] at hpos
    push_cast at hpos
    rw [hpos, hsplit] at h
    exact ⟨hpos, mul_left_cancel₀ hne (by linear_combination h)⟩
  · right
    rw [hx] at hneg
    push_cast at hneg
    rw [hneg, hsplit] at h
    exact ⟨hneg, mul_left_cancel₀ hne (by linear_combination -h)⟩

/-- With coefficients of 16 bits only six values are possible, each for one relation between the
coefficients. -/
theorem roots_iff {p2 p3 x : Int} (hp2 : -2 ^ 15 ≤ p2 ∧ p2 < 2 ^ 15)
    (hp3 : -2 ^ 15 ≤ p3 ∧ p3 < 2 ^ 15) (hx : -2 ^ 23 < x ∧ x < 2 ^ 23) :
    x * (p3 * x + 2 ^ 20 * p2) = -2 ^ 55 ↔ ∃ k ≤ 2,
      (2 ^ k * p3 + p2 = -2 ^ (15 - k) ∧ x = 2 ^ (20 + k)) ∨
      (2 ^ k * p3 - p2 = -2 ^ (15 - k) ∧ x = -2 ^ (20 + k)) := by
  constructor
  · intro h
    obtain ⟨k, -, hroot⟩ := pow_two_of_mul h
    have hk : k < 23 := by
      by_contra hge
      have hpow : (2 : Int) ^ 23 ≤ 2 ^ k := pow_le_pow_right₀ (by norm_num) (by omega)
      rcases hroot with ⟨rfl, -⟩ | ⟨rfl, -⟩ <;> omega
    rcases hroot with ⟨rfl, hy⟩ | ⟨rfl, hy⟩
    · by_cases hlow : k < 20
      · exfalso
        interval_cases k <;> norm_num at hy <;> omega
      · refine ⟨k - 20, by omega, .inl ⟨?_, by rw [Nat.add_sub_cancel' (by omega)]⟩⟩
        interval_cases k <;> norm_num at hy ⊢ <;> omega
    · by_cases hlow : k < 20
      · exfalso
        interval_cases k <;> norm_num at hy <;> omega
      · refine ⟨k - 20, by omega, .inr ⟨?_, by rw [Nat.add_sub_cancel' (by omega)]⟩⟩
        interval_cases k <;> norm_num at hy ⊢ <;> omega
  · rintro ⟨k, hk, ⟨hrel, rfl⟩ | ⟨hrel, rfl⟩⟩
    · interval_cases k <;> norm_num at hrel ⊢ <;> omega
    · interval_cases k <;> norm_num at hrel ⊢ <;> omega

theorem u16Le_bounds (data : Bytes) (offset : Nat) :
    0 ≤ u16Le data offset ∧ u16Le data offset < 2 ^ 16 := by
  have hlow := (data.getD offset 0).toNat_lt
  have hhigh := (data.getD (offset + 1) 0).toNat_lt
  have hword : (data.getD offset 0).toNat ||| (data.getD (offset + 1) 0).toNat <<< 8 < 2 ^ 16 := by
    refine Nat.or_lt_two_pow (by omega) ?_
    rw [Nat.shiftLeft_eq]
    omega
  unfold u16Le
  generalize (data.getD offset 0).toNat ||| (data.getD (offset + 1) 0).toNat <<< 8 = word at *
  omega

theorem s16Le_bounds (data : Bytes) (offset : Nat) :
    -2 ^ 15 ≤ s16Le data offset ∧ s16Le data offset < 2 ^ 15 := by
  have hword := u16Le_bounds data offset
  unfold s16Le
  split <;> omega

theorem channel_lt (a b c : UInt8) : a.toNat <<< 12 ||| b.toNat <<< 4 ||| c.toNat >>> 4 < 2 ^ 20 := by
  have ha := a.toNat_lt
  have hb := b.toNat_lt
  have hc := c.toNat_lt
  have hfirst : a.toNat <<< 12 < 2 ^ 20 := by
    rw [Nat.shiftLeft_eq]
    omega
  have hsecond : b.toNat <<< 4 < 2 ^ 20 := by
    rw [Nat.shiftLeft_eq]
    omega
  have hthird : c.toNat >>> 4 < 2 ^ 20 := by
    rw [Nat.shiftRight_eq_div_pow]
    omega
  exact Nat.or_lt_two_pow (Nat.or_lt_two_pow hfirst hsecond) hthird

/-- Words as the calibration block holds them. -/
structure Calibration.Words (c : Calibration) : Prop where
  t1 : 0 ≤ c.digT 1 ∧ c.digT 1 < 2 ^ 16
  t2 : -2 ^ 15 ≤ c.digT 2 ∧ c.digT 2 < 2 ^ 15
  t3 : -2 ^ 15 ≤ c.digT 3 ∧ c.digT 3 < 2 ^ 15
  p2 : -2 ^ 15 ≤ c.digP 2 ∧ c.digP 2 < 2 ^ 15
  p3 : -2 ^ 15 ≤ c.digP 3 ∧ c.digP 3 < 2 ^ 15

theorem digT_eq {c : Calibration} {t1 t2 t3 : Int} (h : c.t = [t1, t2, t3]) :
    c.digT 1 = t1 ∧ c.digT 2 = t2 ∧ c.digT 3 = t3 := by
  unfold Calibration.digT
  rw [h]
  exact ⟨rfl, rfl, rfl⟩

theorem digP_eq {c : Calibration} {p1 p2 p3 : Int} {rest : List Int}
    (h : c.p = p1 :: p2 :: p3 :: rest) : c.digP 2 = p2 ∧ c.digP 3 = p3 := by
  unfold Calibration.digP
  rw [h]
  exact ⟨rfl, rfl⟩

theorem decodeCalibration_words (b1 b2 : Bytes) : (decodeCalibration b1 b2).Words := by
  obtain ⟨ht1, ht2, ht3⟩ := digT_eq (c := decodeCalibration b1 b2) rfl
  obtain ⟨hp2, hp3⟩ := digP_eq (c := decodeCalibration b1 b2) rfl
  constructor
  · rw [ht1]
    exact u16Le_bounds b1 0
  · rw [ht2]
    exact s16Le_bounds b1 2
  · rw [ht3]
    exact s16Le_bounds b1 4
  · rw [hp2]
    exact s16Le_bounds b1 8
  · rw [hp3]
    exact s16Le_bounds b1 10

section Fine

variable {c : Calibration} {adcT : Nat}

theorem fineNumerator_bounds (hc : c.Words) (hadc : adcT < 2 ^ 20) :
    -2 ^ 56 ≤ fineNumerator c adcT ∧ fineNumerator c adcT ≤ 2 ^ 56 := by
  obtain ⟨hlow, hhigh⟩ := hc.t1
  have hu : |(adcT : Int) - 16 * c.digT 1| ≤ 2 ^ 20 := abs_le.mpr ⟨by omega, by omega⟩
  have ht2 : |2 ^ 20 * c.digT 2| ≤ 2 ^ 35 := by
    have h := hc.t2
    exact abs_le.mpr ⟨by omega, by omega⟩
  have ht3 : |c.digT 3| ≤ 2 ^ 15 := by
    have h := hc.t3
    exact abs_le.mpr ⟨by omega, by omega⟩
  refine abs_le.mp ?_
  unfold fineNumerator
  dsimp only
  generalize (adcT : Int) - 16 * c.digT 1 = u at hu
  have hsum : |2 ^ 20 * c.digT 2 + u * c.digT 3| ≤ 2 ^ 36 := by
    calc |2 ^ 20 * c.digT 2 + u * c.digT 3|
        ≤ |2 ^ 20 * c.digT 2| + |u * c.digT 3| := abs_add_le _ _
      _ = |2 ^ 20 * c.digT 2| + |u| * |c.digT 3| := by rw [abs_mul u]
      _ ≤ 2 ^ 35 + 2 ^ 20 * 2 ^ 15 :=
        add_le_add ht2 (mul_le_mul hu ht3 (abs_nonneg _) (by norm_num))
      _ = 2 ^ 36 := by norm_num
  calc |u * (2 ^ 20 * c.digT 2 + u * c.digT 3)|
      = |u| * |2 ^ 20 * c.digT 2 + u * c.digT 3| := abs_mul _ _
    _ ≤ 2 ^ 20 * 2 ^ 36 := mul_le_mul hu hsum (abs_nonneg _) (by norm_num)
    _ = 2 ^ 56 := by norm_num

theorem tdiv_eq (n : Int) : n.tdiv (2 ^ 34) = if 0 ≤ n then n / 2 ^ 34 else -(-n / 2 ^ 34) := by
  by_cases h : 0 ≤ n
  · rw [if_pos h, Int.tdiv_eq_ediv_of_nonneg h]
  · rw [if_neg h, ← Int.tdiv_eq_ediv_of_nonneg (by omega), Int.neg_tdiv, Int.neg_neg]

theorem tdiv_eq_iff_of_pos {n k : Int} (hk : 0 < k) :
    n.tdiv (2 ^ 34) = k ↔ k * 2 ^ 34 ≤ n ∧ n < (k + 1) * 2 ^ 34 := by
  rw [tdiv_eq]
  split <;> omega

theorem tdiv_eq_iff_of_neg {n k : Int} (hk : k < 0) :
    n.tdiv (2 ^ 34) = k ↔ (k - 1) * 2 ^ 34 < n ∧ n ≤ k * 2 ^ 34 := by
  rw [tdiv_eq]
  split <;> omega

end Fine

/-- The divisor is zero: the channels are not skipped, the coefficients of the pressure are in one
of six relations, and the fine temperature is the one that belongs to it. -/
def Singular (c : Calibration) (adcT adcP : Nat) : Prop :=
  adcT ≠ SENTINEL_20 ∧ adcP ≠ SENTINEL_20 ∧ ∃ k ≤ 2,
    (2 ^ k * c.digP 3 + c.digP 2 = -2 ^ (15 - k) ∧
      (128000 + 2 ^ (20 + k)) * 2 ^ 34 ≤ fineNumerator c adcT ∧
      fineNumerator c adcT < (128000 + 2 ^ (20 + k) + 1) * 2 ^ 34) ∨
    (2 ^ k * c.digP 3 - c.digP 2 = -2 ^ (15 - k) ∧
      (128000 - 2 ^ (20 + k) - 1) * 2 ^ 34 < fineNumerator c adcT ∧
      fineNumerator c adcT ≤ (128000 - 2 ^ (20 + k)) * 2 ^ 34)

instance (c : Calibration) (adcT adcP : Nat) : Decidable (Singular c adcT adcP) :=
  inferInstanceAs (Decidable (_ ∧ _ ∧ ∃ k ≤ 2, _))

section Singular

variable {c : Calibration} {adcT : Nat}

theorem tFine_bounds (hc : c.Words) (hadc : adcT < 2 ^ 20) :
    -2 ^ 22 ≤ (compensateTemperature c adcT).1 ∧ (compensateTemperature c adcT).1 ≤ 2 ^ 22 := by
  have hn := fineNumerator_bounds hc hadc
  rw [tFine_eq, tdiv_eq]
  generalize fineNumerator c adcT = n at hn
  split <;> omega

/-- The branch that raises, in terms of the words of the calibration and of the channel. -/
theorem pressureDivisor_eq_zero_iff (hc : c.Words) (haccepted : c.digP1 ≠ 0)
    (hadc : adcT < 2 ^ 20) : pressureDivisor c (compensateTemperature c adcT).1 = 0 ↔ ∃ k ≤ 2,
      (2 ^ k * c.digP 3 + c.digP 2 = -2 ^ (15 - k) ∧
        (128000 + 2 ^ (20 + k)) * 2 ^ 34 ≤ fineNumerator c adcT ∧
        fineNumerator c adcT < (128000 + 2 ^ (20 + k) + 1) * 2 ^ 34) ∨
      (2 ^ k * c.digP 3 - c.digP 2 = -2 ^ (15 - k) ∧
        (128000 - 2 ^ (20 + k) - 1) * 2 ^ 34 < fineNumerator c adcT ∧
        fineNumerator c adcT ≤ (128000 - 2 ^ (20 + k)) * 2 ^ 34) := by
  have hfine := tFine_bounds hc hadc
  rw [pressureDivisor_eq_zero haccepted, roots_iff hc.p2 hc.p3 (by omega)]
  have hvalue : ∀ root : Int, (compensateTemperature c adcT).1 - 128000 = root ↔
      (fineNumerator c adcT).tdiv (2 ^ 34) = 128000 + root := by
    intro root
    rw [tFine_eq]
    omega
  refine exists_congr (fun k => and_congr_right (fun _ => or_congr ?_ ?_))
  · have hpos : (0 : Int) < 128000 + 2 ^ (20 + k) := by positivity
    rw [hvalue, tdiv_eq_iff_of_pos hpos]
  · have hpow : (2 : Int) ^ 20 ≤ 2 ^ (20 + k) := pow_le_pow_right₀ (by norm_num) (by omega)
    have hneg : (128000 + -2 ^ (20 + k) : Int) < 0 := by omega
    rw [hvalue, tdiv_eq_iff_of_neg hneg, ← Int.sub_eq_add_neg]

theorem compensatePressure_ok_iff (c : Calibration) (tFine : Int) (adcP : Nat) :
    (∃ pressure, compensatePressure c tFine adcP = .ok pressure) ↔ pressureDivisor c tFine ≠ 0 := by
  unfold compensatePressure
  dsimp only
  by_cases hdivisor : pressureDivisor c tFine = 0
  · rw [if_pos hdivisor]
    refine iff_of_false ?_ (fun h => h hdivisor)
    rintro ⟨pressure, h⟩
    cases h
  · rw [if_neg hdivisor]
    exact iff_of_true ⟨_, rfl⟩ hdivisor

theorem compensated_ok_iff (hc : c.Words) (haccepted : c.digP1 ≠ 0) (hadc : adcT < 2 ^ 20)
    (adcP adcH : Nat) :
    (∃ m, compensated c adcT adcP adcH = .ok m) ↔ ¬ Singular c adcT adcP := by
  have hzero := pressureDivisor_eq_zero_iff hc haccepted hadc
  have hpressure := compensatePressure_ok_iff c (compensateTemperature c adcT).1 adcP
  unfold Singular compensated
  rw [← hzero]
  generalize compensateTemperature c adcT = fine at hpressure ⊢
  by_cases ht : adcT = SENTINEL_20
  · rw [if_neg (fun h => h ht)]
    exact ⟨fun _ h => h.1 ht, fun _ => ⟨_, rfl⟩⟩
  rw [if_pos ht]
  dsimp only
  by_cases hp : adcP = SENTINEL_20
  · rw [if_neg (fun h => h hp)]
    exact ⟨fun _ h => h.2.1 hp, fun _ => ⟨_, rfl⟩⟩
  rw [if_pos hp]
  cases hresult : compensatePressure c fine.1 adcP with
  | error e =>
    have hdivisor : pressureDivisor c fine.1 = 0 := by
      by_contra hne
      obtain ⟨pressure, hok⟩ := hpressure.mpr hne
      rw [hresult] at hok
      cases hok
    refine iff_of_false ?_ (fun h => h ⟨ht, hp, hdivisor⟩)
    rintro ⟨m, hm⟩
    cases hm
  | ok pressure =>
    exact iff_of_true ⟨_, rfl⟩ (fun h => hpressure.mp ⟨pressure, hresult⟩ h.2.2)

end Singular

/-- The exceptions of a transfer are among `X`. -/
def Raises (A : BusInput → Prop) (X : Exc → Prop) : Prop :=
  ∀ i, A i → match i.outcome with
    | .done => True
    | .fail _ => ∀ text, X (.osError text)
    | .memory => X .memoryError

section Read

variable {A : BusInput → Prop} {X : Exc → Prop} {d : Bytes}

theorem total_transfer {α : Type} {Q : α → Prop} (hX : Raises A X) {describe : String → String}
    {transaction : BusInput → Transaction} {answer : BusInput → α} (hQ : ∀ i, A i → Q (answer i))
    (bus : Bus) : (describing describe (transfer transaction answer)).total A (fun a _ => Q a)
      (fun e _ => X e) bus := by
  refine Proc.total_handle (Proc.total_atomic (fun i hi => ?_))
  have hraises := hX i hi
  cases hi' : i.outcome with
  | done => exact hQ i hi
  | fail message =>
    rw [hi'] at hraises
    exact hraises _
  | memory =>
    rw [hi'] at hraises
    exact hraises

theorem total_python {α β : Type} {Q : β → Bus → Prop} {r : Except PyError α} {a : α}
    {f : α → BusProg β} {bus : Bus} (h : r = .ok a)
    (hf : (f a).total A Q (fun e _ => X e) bus) :
    (python r >>= f).total A Q (fun e _ => X e) bus := by
  rw [h]
  exact hf

theorem total_measure {config : PyDict} (h : Accepted config) (hX : Raises A X)
    (hbytes : ∀ i, A i → i.bytes 8 = d) (address : Int) (c : Calibration) (bus : Bus) :
    (measure address (settingsOf config) c).total A
      (fun answer _ => answer = compensated c ((rawChannels d).getD 0 0)
        ((rawChannels d).getD 1 0) ((rawChannels d).getD 2 0)) (fun e _ => X e) bus := by
  obtain ⟨osrsT, ht⟩ := h.temperature.asInt
  obtain ⟨osrsP, hp⟩ := h.pressure.asInt
  obtain ⟨osrsH, hh⟩ := h.humidity.asInt
  have hread : (read address (settingsOf config)).total A
      (fun channels _ => channels = rawChannels d) (fun e _ => X e) bus := by
    refine total_python ht (total_python hp ?_)
    refine Proc.total_bind (Proc.total_mono (total_transfer (Q := fun _ => True) hX
      (fun _ _ => trivial) bus) (fun _ bus _ => ?_) (fun _ _ h => h))
    refine total_python hh (Proc.total_bind (Proc.total_atomic (fun _ _ => ?_)))
    refine Proc.total_bind (Proc.total_mono (total_transfer (Q := fun bytes => bytes = d) hX
      hbytes _) (fun bytes _ hd => ?_) (fun _ _ h => h))
    show rawChannels bytes = rawChannels d
    rw [hd]
  refine Proc.total_bind (Proc.total_mono hread (fun channels _ hchannels => ?_) (fun _ _ h => h))
  rw [hchannels]
  exact rfl

end Read

def answering (d : Bytes) : BusInput where
  outcome := .done
  byte := fun k => d.getD k 0
  roms := []
  lateMs := 0

theorem answering_bytes {d : Bytes} (hd : d.length = 8) : (answering d).bytes 8 = d := by
  refine List.ext_getElem (by simp [BusInput.bytes, hd]) (fun k hk hk' => ?_)
  simp [BusInput.bytes, answering, hk']

/-- Whatever the bus does with the eight bytes, the read returns values or raises what the manager
handles. -/
def Contained (config : PyDict) (address : Int) (c : Calibration) (d : Bytes) : Prop :=
  ∀ bus, (measure address (settingsOf config) c).total (fun i => i.bytes 8 = d)
    (fun answer _ => ∃ m, answer = .ok m) (fun e _ => e.operational = true) bus

theorem contained_iff {config : PyDict} (h : Accepted config) (address : Int) (c : Calibration)
    {d : Bytes} (hd : d.length = 8) : Contained config address c d ↔
      ∃ m, compensated c ((rawChannels d).getD 0 0) ((rawChannels d).getD 1 0)
        ((rawChannels d).getD 2 0) = .ok m := by
  constructor
  · intro htotal
    have hX : Raises (fun i => i = answering d) (fun _ => False) := by
      rintro i rfl
      exact trivial
    have hresult := Proc.total_run (total_measure h hX
      (fun i hi => by rw [hi, answering_bytes hd]) address c {}) rfl
    have hsafe := Proc.total_run (htotal {}) (answering_bytes hd)
    rcases hresult with ⟨answer, hrun, rfl⟩ | ⟨_, _, hfalse⟩
    · rcases hsafe with ⟨_, hrun', hm⟩ | ⟨e, hrun', _⟩
      · rw [hrun] at hrun'
        cases hrun'
        exact hm
      · rw [hrun] at hrun'
        cases hrun'
    · exact hfalse.elim
  · rintro ⟨m, hm⟩ bus
    have hX : Raises (fun i => i.bytes 8 = d) (fun e => e.operational = true) := by
      intro i _
      cases i.outcome <;> simp [Exc.operational]
    refine Proc.total_mono (total_measure h hX (fun _ hi => hi) address c bus) ?_ (fun _ _ h => h)
    rintro answer - rfl
    exact ⟨m, hm⟩

theorem digP1_of_validateCalibration {c : Calibration} (h : validateCalibration c = pure ()) :
    c.digP1 ≠ 0 := by
  intro hzero
  unfold validateCalibration at h
  rw [if_pos hzero] at h
  cases h

theorem measure_contained_iff {config : PyDict} (hvalid : validateConfig config = .ok ())
    (address : Int) (b1 b2 : Bytes) {d : Bytes} (hd : d.length = 8)
    (haccepted : validateCalibration (decodeCalibration b1 b2) = pure ()) :
    Contained config address (decodeCalibration b1 b2) d ↔
      ¬ Singular (decodeCalibration b1 b2) ((rawChannels d).getD 0 0) ((rawChannels d).getD 1 0) := by
  rw [contained_iff ((validateConfig_post config).of_ok hvalid) address _ hd]
  exact compensated_ok_iff (decodeCalibration_words b1 b2) (digP1_of_validateCalibration haccepted)
    (channel_lt (d.getD 3 0) (d.getD 4 0) (d.getD 5 0)) _ _

def indoorConfig : PyDict :=
  [(.str "i2c_bus", .int 0), (.str "sea_level_pressure_pa", .int 101325)]

def ordinaryBlock1 : Bytes :=
  [0x70, 0x6B, 0x43, 0x67, 0x18, 0xFC, 0x7D, 0x8E, 0x43, 0xD6, 0xD0, 0x0B, 0x27, 0x0B, 0x8C, 0x00,
    0xF9, 0xFF, 0x8C, 0x3C, 0xF8, 0xC6, 0x70, 0x17, 0x00, 0x4B]

def ordinaryBlock2 : Bytes := [0x6D, 0x01, 0x00, 0x14, 0x2A, 0x03, 0x1E]

theorem measure_contained_iff_ordinary :
    Contained indoorConfig 118 (decodeCalibration ordinaryBlock1 ordinaryBlock2)
      [0x65, 0x5A, 0xC0, 0x7E, 0xED, 0x00, 0x70, 0x00] :=
  (measure_contained_iff (by decide) 118 ordinaryBlock1 ordinaryBlock2 rfl rfl).mpr (by decide)

/-- `dig_P2` of `-2 ^ 15` and `dig_P3` of zero, with temperature words that reach the root. -/
def singularBlock1 : Bytes :=
  [0x00, 0x00, 0x00, 0x60, 0x00, 0x00, 0x01, 0x00, 0x00, 0x80, 0x00, 0x00, 0x27, 0x0B, 0x8C, 0x00,
    0xF9, 0xFF, 0x8C, 0x3C, 0xF8, 0xC6, 0x70, 0x17, 0x00, 0x4B]

theorem measure_not_contained : ¬ ∀ config, validateConfig config = .ok () →
    ∀ (address : Int) (b1 b2 d : Bytes), b1.length = 26 → b2.length = 7 → d.length = 8 →
      validateCalibration (decodeCalibration b1 b2) = pure () →
      Contained config address (decodeCalibration b1 b2) d := by
  intro hclaim
  have hvalid : validateConfig indoorConfig = .ok () := by decide
  have hcontained := hclaim indoorConfig hvalid 118 singularBlock1 ordinaryBlock2
    [0x50, 0x00, 0x00, 0xBF, 0x80, 0x00, 0x70, 0x00] rfl rfl rfl rfl
  have hok := (contained_iff ((validateConfig_post indoorConfig).of_ok hvalid) 118 _ rfl).mp
    hcontained
  refine (compensated_ok_iff (decodeCalibration_words _ _) (by decide)
    (channel_lt 0xBF 0x80 0x00) _ _).mp hok ?_
  decide

end PicoDualCore.Bme280
