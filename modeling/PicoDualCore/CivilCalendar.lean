import Mathlib.Algebra.Group.Nat.Defs
import Mathlib.Data.List.Forall2
import Mathlib.Data.Nat.Notation
set_option autoImplicit false

/-!
The Gregorian calendar of a count of seconds, by counting through the years and the months, and
texts with fields of fixed width: the greater the count, the greater the date and its text.
-/

namespace CivilCalendar

section Periods

variable {len : ℕ → ℕ} {i n n' : ℕ} {p p' : ℕ × ℕ}

def locate (len : ℕ → ℕ) : ℕ → ℕ → ℕ → ℕ × ℕ
  | 0, i, n => (i, n)
  | fuel + 1, i, n => if n < len i then (i, n) else locate len fuel (i + 1) (n - len i)

inductive Located (len : ℕ → ℕ) : ℕ → ℕ → ℕ × ℕ → Prop where
  | here {i n : ℕ} (h : n < len i) : Located len i n (i, n)
  | later {i n : ℕ} {p : ℕ × ℕ} (h : Located len (i + 1) n p) : Located len i (len i + n) p

theorem located (hpos : ∀ i, 0 < len i) (fuel : ℕ) (hfuel : n ≤ fuel) :
    Located len i n (locate len fuel i n) := by
  induction fuel generalizing i n with
  | zero =>
    obtain rfl : n = 0 := Nat.le_zero.mp hfuel
    exact .here (hpos i)
  | succ fuel ih =>
    unfold locate
    split
    · exact .here ‹_›
    · obtain ⟨rest, rfl⟩ : ∃ rest, n = len i + rest := ⟨n - len i, by omega⟩
      have hlen := hpos i
      rw [Nat.add_sub_cancel_left]
      exact .later (ih (by omega))

theorem Located.first_le (h : Located len i n p) : i ≤ p.1 := by
  induction h with
  | here => exact Nat.le_refl _
  | later _ ih => exact Nat.le_of_succ_le ih

theorem Located.second_lt (h : Located len i n p) : p.2 < len p.1 := by
  induction h with
  | here h => exact h
  | later _ ih => exact ih

theorem Located.lt (h : Located len i n p) (h' : Located len i n' p') (hlt : n < n') :
    p.1 < p'.1 ∨ p.1 = p'.1 ∧ p.2 < p'.2 := by
  induction h generalizing n' with
  | here h =>
    cases h' with
    | here => exact .inr ⟨rfl, hlt⟩
    | later h' => exact .inl h'.first_le
  | later h ih =>
    cases h' with
    | here h' => omega
    | later h' => exact ih h' (by omega)

def total (len : ℕ → ℕ) : ℕ → ℕ → ℕ
  | 0, _ => 0
  | k + 1, i => len i + total len k (i + 1)

theorem Located.first_lt (h : Located len i n p) {k : ℕ} (hn : n < total len k i) :
    p.1 < i + k := by
  induction h generalizing k with
  | here h =>
    cases k with
    | zero => cases hn
    | succ k => exact Nat.lt_add_of_pos_right (Nat.succ_pos k)
  | later h ih =>
    cases k with
    | zero => cases hn
    | succ k =>
      rw [total] at hn
      have hlater := ih (Nat.lt_of_add_lt_add_left hn)
      omega

end Periods

def isLeapYear (year : ℕ) : Bool := year % 4 == 0 && (year % 100 != 0 || year % 400 == 0)

def daysInYear (year : ℕ) : ℕ := if isLeapYear year then 366 else 365

def daysInMonth (year : ℕ) : ℕ → ℕ
  | 2 => if isLeapYear year then 29 else 28
  | 4 | 6 | 9 | 11 => 30
  | _ => 31

structure CivilTime where
  year : ℕ
  month : ℕ
  day : ℕ
  hour : ℕ
  minute : ℕ
  second : ℕ
  deriving DecidableEq, Repr

def CivilTime.fields (t : CivilTime) : List ℕ :=
  [t.year, t.month, t.day, t.hour, t.minute, t.second]

def yearOf (day : ℕ) : ℕ × ℕ := locate daysInYear day 1970 day

def monthOf (year yearDay : ℕ) : ℕ × ℕ := locate (daysInMonth year) yearDay 1 yearDay

def civilTime (seconds : ℕ) : CivilTime :=
  let (year, yearDay) := yearOf (seconds / 86400)
  let (month, monthDay) := monthOf year yearDay
  { year, month, day := monthDay + 1
    hour := seconds % 86400 / 3600
    minute := seconds % 3600 / 60
    second := seconds % 60 }

example : civilTime 951868799 = ⟨2000, 2, 29, 23, 59, 59⟩ := by decide

theorem daysInYear_pos (year : ℕ) : 0 < daysInYear year := by
  unfold daysInYear
  split <;> decide

theorem daysInMonth_bounds (year month : ℕ) :
    0 < daysInMonth year month ∧ daysInMonth year month ≤ 31 := by
  unfold daysInMonth
  split <;> (try split) <;> decide

theorem total_daysInMonth (year : ℕ) : total (daysInMonth year) 12 1 = daysInYear year := by
  cases h : isLeapYear year <;> simp [total, daysInMonth, daysInYear, h]

def daysBefore (year : ℕ) : ℕ :=
  365 * year + (year + 3) / 4 + (year + 399) / 400 - (year + 99) / 100

theorem daysBefore_succ (year : ℕ) : daysBefore (year + 1) = daysBefore year + daysInYear year := by
  have h4 : (year + 1 + 3) / 4 = (year + 3) / 4 + if year % 4 = 0 then 1 else 0 := by
    split <;> omega
  have h100 : (year + 1 + 99) / 100 = (year + 99) / 100 + if year % 100 = 0 then 1 else 0 := by
    split <;> omega
  have h400 : (year + 1 + 399) / 400 = (year + 399) / 400 + if year % 400 = 0 then 1 else 0 := by
    split <;> omega
  have hfewer : (year + 99) / 100 ≤ (year + 3) / 4 := by omega
  have hcentury : year % 100 = 0 → year % 4 = 0 := by omega
  have hcycle : year % 400 = 0 → year % 100 = 0 := by omega
  rw [daysBefore, daysBefore, daysInYear, isLeapYear, h4, h100, h400]
  generalize (year + 3) / 4 = n4 at hfewer ⊢
  generalize (year + 99) / 100 = n100 at hfewer ⊢
  generalize (year + 399) / 400 = n400
  generalize year % 4 = r4 at hcentury ⊢
  generalize year % 100 = r100 at hcentury hcycle ⊢
  generalize year % 400 = r400 at hcycle ⊢
  grind

theorem total_daysInYear (k year : ℕ) :
    total daysInYear k year + daysBefore year = daysBefore (year + k) := by
  induction k generalizing year with
  | zero => simp [total]
  | succ k ih =>
    have hlater := ih (year + 1)
    rw [daysBefore_succ, Nat.add_right_comm year 1 k] at hlater
    rw [total, ← Nat.add_assoc year k 1, ← hlater]
    omega

section Times

variable {s s' : ℕ}

theorem year_located (day : ℕ) : Located daysInYear 1970 day (yearOf day) :=
  located daysInYear_pos day (Nat.le_refl _)

theorem month_located (year yearDay : ℕ) :
    Located (daysInMonth year) 1 yearDay (monthOf year yearDay) :=
  located (fun month => (daysInMonth_bounds year month).1) yearDay (Nat.le_refl _)

theorem civilTime_fits (hs : s < 253402300800) :
    List.Forall₂ (fun n bound => n < bound) (civilTime s).fields [10000, 13, 32, 24, 60, 60] := by
  have hyear := year_located (s / 86400)
  have hmonth := month_located (yearOf (s / 86400)).1 (yearOf (s / 86400)).2
  have htotal := total_daysInYear 8030 1970
  have hbefore : daysBefore 1970 = 719528 ∧ daysBefore (1970 + 8030) = 3652425 := by decide
  have hyears : (yearOf (s / 86400)).1 < 1970 + 8030 := hyear.first_lt (by omega)
  have hmonths : (monthOf (yearOf (s / 86400)).1 (yearOf (s / 86400)).2).1 < 1 + 12 :=
    hmonth.first_lt (by
      rw [total_daysInMonth]
      exact hyear.second_lt)
  have hday := hmonth.second_lt
  have hlength := (daysInMonth_bounds (yearOf (s / 86400)).1
    (monthOf (yearOf (s / 86400)).1 (yearOf (s / 86400)).2).1).2
  refine .cons ?_ (.cons ?_ (.cons ?_ (.cons ?_ (.cons ?_ (.cons ?_ .nil))))) <;>
    dsimp only [civilTime] <;> omega

/-- A later second has a greater date. -/
theorem civilTime_lt (h : s < s') : (civilTime s).fields < (civilTime s').fields := by
  simp only [CivilTime.fields, civilTime, List.cons_lt_cons_iff]
  rcases Nat.lt_or_ge (s / 86400) (s' / 86400) with hday | hday
  · rcases (year_located _).lt (year_located _) hday with hyear | ⟨hyear, hyearDay⟩
    · exact .inl hyear
    · rw [hyear]
      refine .inr ⟨rfl, ?_⟩
      rcases (month_located _ _).lt (month_located _ _) hyearDay with hmonth | ⟨hmonth, hmonthDay⟩
      · exact .inl hmonth
      · exact .inr ⟨hmonth, .inl (Nat.succ_lt_succ hmonthDay)⟩
  · have hsame : s / 86400 = s' / 86400 := by omega
    rw [hsame]
    refine .inr ⟨rfl, .inr ⟨rfl, .inr ⟨rfl, ?_⟩⟩⟩
    omega

end Times

section Texts

variable {α : Type} [LT α] {l l' a b : List α} {w n n' : ℕ}

theorem append_lt_of_lt (hlength : l.length = l'.length) (h : l < l') : l ++ a < l' ++ b := by
  induction l generalizing l' with
  | nil =>
    cases l' with
    | nil => cases h
    | cons => cases hlength
  | cons x l ih =>
    cases l' with
    | nil => cases hlength
    | cons y l' =>
      rw [List.cons_append, List.cons_append, List.cons_lt_cons_iff]
      rw [List.cons_lt_cons_iff] at h
      exact h.imp id (fun hrest => ⟨hrest.1, ih (Nat.succ.inj hlength) hrest.2⟩)

def zeroPadded (width n : ℕ) : List Char := (Nat.toDigits 10 n).leftpad width '0'

def lastDigits : ℕ → ℕ → List Char
  | 0, _ => []
  | w + 1, n => lastDigits w (n / 10) ++ [Nat.digitChar (n % 10)]

theorem length_lastDigits (w n : ℕ) : (lastDigits w n).length = w := by
  induction w generalizing n with
  | zero => rfl
  | succ w ih => simp [lastDigits, ih]

theorem lastDigits_zero (w : ℕ) : lastDigits w 0 = List.replicate w '0' := by
  induction w with
  | zero => rfl
  | succ w ih =>
    rw [lastDigits, Nat.zero_div, ih, List.replicate_succ']
    rfl

omit [LT α] in
theorem leftpad_concat (x c : α) (l : List α) :
    (l ++ [c]).leftpad (w + 1) x = l.leftpad w x ++ [c] := by
  simp [List.leftpad]

theorem zeroPadded_eq (h : n < 10 ^ (w + 1)) : zeroPadded (w + 1) n = lastDigits (w + 1) n := by
  induction w generalizing n with
  | zero =>
    have hn : n < 10 := by simpa using h
    rw [zeroPadded, Nat.toDigits_of_lt_base hn, lastDigits, Nat.mod_eq_of_lt hn]
    rfl
  | succ w ih =>
    rcases Nat.lt_or_ge n 10 with hn | hn
    · rw [zeroPadded, Nat.toDigits_of_lt_base hn, lastDigits, Nat.div_eq_of_lt hn,
        Nat.mod_eq_of_lt hn, lastDigits_zero]
      simp [List.leftpad]
    · rw [zeroPadded, Nat.toDigits_of_base_le (by decide) hn, leftpad_concat]
      have hdiv : n / 10 < 10 ^ (w + 1) := by
        rw [Nat.pow_succ] at h
        omega
      rw [← zeroPadded, ih hdiv]
      rfl

theorem digitChar_lt {d d' : ℕ} (h : d < d') (h' : d' < 10) : d.digitChar < d'.digitChar := by
  have hall : ∀ d' < 10, ∀ d < d', d.digitChar < d'.digitChar := by decide
  exact hall d' h' d h

theorem lastDigits_lt (h : n < n') (h' : n' < 10 ^ w) : lastDigits w n < lastDigits w n' := by
  induction w generalizing n n' with
  | zero =>
    rw [Nat.pow_zero] at h'
    omega
  | succ w ih =>
    rcases Nat.lt_or_ge (n / 10) (n' / 10) with hdiv | hdiv
    · have hbound : n' / 10 < 10 ^ w := by
        rw [Nat.pow_succ] at h'
        omega
      refine append_lt_of_lt ?_ (ih hdiv hbound)
      rw [length_lastDigits, length_lastDigits]
    · have hsame : n / 10 = n' / 10 := by omega
      rw [lastDigits, lastDigits, hsame]
      refine List.append_left_lt (List.cons_lt_cons_iff.mpr (.inl (digitChar_lt ?_ ?_))) <;> omega

def joinFields : List (ℕ × Char) → List ℕ → List Char
  | (width, separator) :: pattern, n :: fields =>
    zeroPadded width n ++ separator :: joinFields pattern fields
  | _, _ => []

def FieldFits (n : ℕ) (p : ℕ × Char) : Prop := 0 < p.1 ∧ n < 10 ^ p.1

theorem FieldFits.eq {c : Char} (h : FieldFits n (w, c)) : zeroPadded w n = lastDigits w n := by
  obtain ⟨k, rfl⟩ : ∃ k, w = k + 1 := ⟨w - 1, by have := h.1; dsimp only at this; omega⟩
  exact zeroPadded_eq h.2

theorem FieldFits.length {c : Char} (h : FieldFits n (w, c)) : (zeroPadded w n).length = w := by
  rw [h.eq, length_lastDigits]

theorem joinFields_lt {pattern : List (ℕ × Char)} {fields fields' : List ℕ}
    (hfit : List.Forall₂ FieldFits fields pattern) (hfit' : List.Forall₂ FieldFits fields' pattern)
    (h : fields < fields') : joinFields pattern fields < joinFields pattern fields' := by
  induction hfit generalizing fields' with
  | nil =>
    cases hfit'
    cases h
  | cons hn _ ih =>
    cases hfit' with
    | cons hn' hrest' =>
      rw [joinFields, joinFields, hn.eq, hn'.eq]
      rcases List.cons_lt_cons_iff.mp h with hlt | ⟨rfl, hrest⟩
      · refine append_lt_of_lt ?_ (lastDigits_lt hlt hn'.2)
        rw [length_lastDigits, length_lastDigits]
      · exact List.append_left_lt (List.cons_lt_cons_iff.mpr (.inr ⟨rfl, ih hrest' hrest⟩))

theorem zeroPadded_digit {c : Char} (hc : c ∈ zeroPadded w n) : c.isDigit = true := by
  rw [zeroPadded, List.leftpad, List.mem_append] at hc
  rcases hc with hc | hc
  · rw [(List.mem_replicate.mp hc).2]
    rfl
  · exact Nat.isDigit_of_mem_toDigits (by decide) (by decide) hc

theorem joinFields_chars {pattern : List (ℕ × Char)} {fields : List ℕ} {c : Char}
    (hc : c ∈ joinFields pattern fields) : c.isDigit = true ∨ c ∈ pattern.map Prod.snd := by
  fun_induction joinFields pattern fields with
  | case1 width separator pattern n fields ih =>
    rcases List.mem_append.mp hc with hc | hc
    · exact .inl (zeroPadded_digit hc)
    · rcases List.mem_cons.mp hc with rfl | hc
      · exact .inr List.mem_cons_self
      · exact (ih hc).imp id (List.mem_cons_of_mem _)
  | case2 => cases hc

end Texts

end CivilCalendar
