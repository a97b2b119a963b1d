import Mathlib.Data.List.GetD
set_option autoImplicit false

/-!
Shift registers that feed a polynomial back, as a checksum of the bits shifted in. The register is
linear over exclusive or, so that an error shows in it on its own.
-/

namespace FeedbackRegister

variable {w : Nat}

def shift (poly s : BitVec w) : BitVec w := if s.msb then s <<< 1 ^^^ poly else s <<< 1

def shifts (poly : BitVec w) : Nat → BitVec w → BitVec w
  | 0, s => s
  | count + 1, s => shifts poly count (shift poly s)

def feed (poly s : BitVec w) (b : Bool) : BitVec w :=
  if s.msb != b then s <<< 1 ^^^ poly else s <<< 1

def run (poly s : BitVec w) (bits : List Bool) : BitVec w := bits.foldl (feed poly) s

def load : List Bool → BitVec w
  | [] => 0
  | b :: rest => load rest >>> 1 ^^^ if b then BitVec.twoPow w (w - 1) else 0

section Linear

variable {poly s t : BitVec w}

theorem feed_false : feed poly s false = shift poly s := by simp [feed, shift]

theorem feed_xor (a b : Bool) : feed poly (s ^^^ t) (a ^^ b) = feed poly s a ^^^ feed poly t b := by
  have hcancel : s <<< 1 ^^^ poly ^^^ (t <<< 1 ^^^ poly) = s <<< 1 ^^^ t <<< 1 := by
    rw [BitVec.xor_assoc, BitVec.xor_comm poly, BitVec.xor_assoc, BitVec.xor_self, BitVec.xor_zero]
  unfold feed
  rw [BitVec.msb_xor, BitVec.shiftLeft_xor_distrib]
  cases s.msb <;> cases t.msb <;> cases a <;> cases b <;> simp [hcancel, BitVec.xor_assoc]
  all_goals rw [BitVec.xor_comm poly]

theorem shift_xor : shift poly (s ^^^ t) = shift poly s ^^^ shift poly t := by
  have h := @feed_xor w poly s t false false
  simpa only [Bool.xor_false, feed_false] using h

theorem run_xor {xs ys : List Bool} (h : xs.length = ys.length) :
    run poly (s ^^^ t) (List.zipWith xor xs ys) = run poly s xs ^^^ run poly t ys := by
  induction xs generalizing ys s t with
  | nil =>
    cases ys with
    | nil => rfl
    | cons y ys => cases h
  | cons x xs ih =>
    cases ys with
    | nil => cases h
    | cons y ys =>
      have hstep := ih (s := feed poly s x) (t := feed poly t y) (Nat.succ.inj h)
      rw [← feed_xor] at hstep
      exact hstep

theorem run_append (xs ys : List Bool) : run poly s (xs ++ ys) = run poly (run poly s xs) ys :=
  List.foldl_append

theorem run_zeros (count : Nat) : run poly s (List.replicate count false) = shifts poly count s := by
  induction count generalizing s with
  | zero => rfl
  | succ count ih =>
    rw [List.replicate_succ, shifts, ← ih, ← feed_false]
    rfl

theorem shifts_zero (count : Nat) : shifts poly count 0 = 0 := by
  induction count with
  | zero => rfl
  | succ count ih =>
    have hstep : shift poly 0 = 0 := by simp [shift]
    rw [shifts, hstep, ih]

theorem shift_eq_zero (hpoly : poly.getLsbD 0 = true) (h : shift poly s = 0) : s = 0 := by
  unfold shift at h
  cases hmsb : s.msb with
  | true =>
    -- the lowest bit of the polynomial stays
    rw [hmsb, if_pos rfl] at h
    have hbit := congrArg (fun x : BitVec w => x.getLsbD 0) h
    simp [hpoly] at hbit
  | false =>
    rw [hmsb, if_neg Bool.false_ne_true] at h
    refine BitVec.eq_of_getMsbD_eq (fun i _ => ?_)
    cases i with
    | zero => rw [← BitVec.msb_eq_getMsbD_zero, hmsb, BitVec.ofNat_eq_ofNat, BitVec.getMsbD_zero]
    | succ i =>
      have hbit := congrArg (fun x : BitVec w => x.getMsbD i) h
      simpa using hbit

theorem shifts_eq_zero (hpoly : poly.getLsbD 0 = true) {count : Nat}
    (h : shifts poly count s = 0) : s = 0 := by
  induction count generalizing s with
  | zero => exact h
  | succ count ih => exact shift_eq_zero hpoly (ih h)

end Linear

section Load

variable {poly s : BitVec w}

theorem getMsbD_twoPow_high {i : Nat} (hi : i < w) :
    (BitVec.twoPow w (w - 1)).getMsbD i = decide (i = 0) := by
  rw [BitVec.getMsbD_eq_getLsbD, BitVec.getLsbD_twoPow]
  simp only [hi, decide_true, Bool.true_and]
  by_cases h : i = 0
  · subst h
    simp
    omega
  · have hne : ¬ w - 1 = w - 1 - i := by omega
    simp [h, hne]

theorem getMsbD_load {bits : List Bool} {i : Nat} (hi : i < w) :
    (load bits : BitVec w).getMsbD i = bits.getD i false := by
  induction bits generalizing i with
  | nil => simp [load]
  | cons b rest ih =>
    have hfirst : (if b then BitVec.twoPow w (w - 1) else 0).getMsbD i = (b && decide (i = 0)) := by
      cases b with
      | true => simp [getMsbD_twoPow_high hi]
      | false => simp
    rw [load, BitVec.getMsbD_xor, BitVec.getMsbD_ushiftRight, hfirst]
    cases i with
    | zero => simp
    | succ i =>
      have hrest := ih (Nat.lt_of_succ_lt hi)
      simp [hi, hrest]

theorem load_eq_zero {bits : List Bool} (hfits : bits.length ≤ w)
    (h : (load bits : BitVec w) = 0) : true ∉ bits := by
  intro hmem
  obtain ⟨i, hlt, hi⟩ := List.getElem_of_mem hmem
  have hbit := @getMsbD_load w bits i (Nat.lt_of_lt_of_le hlt hfits)
  rw [h, List.getD_eq_getElem _ _ hlt, hi] at hbit
  simp at hbit

theorem shift_load {bits : List Bool} (hfits : bits.length < w) :
    shift poly (load bits >>> 1) = load bits := by
  have hmsb : (load bits >>> 1 : BitVec w).msb = false := by
    rw [BitVec.msb_eq_getMsbD_zero, BitVec.getMsbD_ushiftRight]
    simp
  rw [shift, hmsb, if_neg Bool.false_ne_true]
  refine BitVec.eq_of_getMsbD_eq (fun i hi => ?_)
  rw [BitVec.getMsbD_shiftLeft, BitVec.getMsbD_ushiftRight, getMsbD_load hi]
  by_cases hlast : i + 1 < w
  · simp [hlast, getMsbD_load hi]
  · have hpast : bits.length ≤ i := by omega
    rw [List.getD_eq_default _ _ hpast]
    simp [hlast]

theorem feed_eq (hw : 0 < w) (b : Bool) :
    feed poly s b = shift poly (s ^^^ if b then BitVec.twoPow w (w - 1) else 0) := by
  cases b with
  | false => simp [feed_false]
  | true =>
    have hmsb : (BitVec.twoPow w (w - 1)).msb = true := by
      rw [BitVec.msb_eq_getMsbD_zero, getMsbD_twoPow_high hw]
      rfl
    have hout : BitVec.twoPow w (w - 1) <<< 1 = 0 := by
      refine BitVec.eq_of_getMsbD_eq (fun i _ => ?_)
      rw [BitVec.getMsbD_shiftLeft]
      by_cases hi : i + 1 < w
      · simp [getMsbD_twoPow_high hi]
      · simp [BitVec.getMsbD_of_ge _ _ (Nat.le_of_not_lt hi)]
    simp only [feed, shift, if_true, BitVec.msb_xor, hmsb, BitVec.shiftLeft_xor_distrib, hout,
      BitVec.ofNat_eq_ofNat, BitVec.xor_zero]

/-- As many bits as the register holds may be loaded at once. -/
theorem run_eq_shifts {bits : List Bool} (hfits : bits.length ≤ w) :
    run poly s bits = shifts poly bits.length (s ^^^ load bits) := by
  induction bits generalizing s with
  | nil => simp [run, load, shifts]
  | cons b rest ih =>
    have hroom : rest.length < w := hfits
    have hw : 0 < w := Nat.lt_of_le_of_lt (Nat.zero_le _) hroom
    calc run poly s (b :: rest) = run poly (feed poly s b) rest := rfl
      _ = shifts poly rest.length (feed poly s b ^^^ load rest) := ih (Nat.le_of_lt hroom)
      _ = shifts poly rest.length (shift poly (s ^^^ load (b :: rest))) := by
        rw [feed_eq hw, load, BitVec.xor_comm (load rest >>> 1), ← BitVec.xor_assoc,
          @shift_xor w poly _ (load rest >>> 1), shift_load hroom]

end Load

/-- Some bits are set, all of them among so many consecutive ones. -/
def Burst (width : Nat) (bits : List Bool) : Prop :=
  ∃ before burst after, bits = List.replicate before false ++ burst ++ List.replicate after false ∧
    burst.length ≤ width ∧ true ∈ burst

/-- A burst no longer than the register shows in it, whatever was shifted in beside it. -/
theorem run_burst_ne {poly s : BitVec w} (hpoly : poly.getLsbD 0 = true) {bits error : List Bool}
    (hlength : bits.length = error.length) (hburst : Burst w error) :
    run poly s (List.zipWith xor bits error) ≠ run poly s bits := by
  obtain ⟨before, burst, after, rfl, hfits, hset⟩ := hburst
  intro hsame
  have hsplit := @run_xor w poly s 0 _ _ hlength
  rw [BitVec.ofNat_eq_ofNat, BitVec.xor_zero, hsame] at hsplit
  have hzero := congrArg (run poly s bits ^^^ ·) hsplit
  dsimp only at hzero
  rw [← BitVec.xor_assoc, BitVec.xor_self, BitVec.zero_xor, run_append, run_append, run_zeros,
    run_zeros] at hzero
  have hstart : shifts poly before (0 : BitVec w) = 0 := shifts_zero before
  rw [BitVec.ofNat_eq_ofNat] at hstart
  have hrun := shifts_eq_zero hpoly hzero.symm
  rw [hstart, run_eq_shifts hfits, BitVec.zero_xor] at hrun
  exact load_eq_zero hfits (shifts_eq_zero hpoly hrun) hset

end FeedbackRegister
