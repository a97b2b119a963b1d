import Mathlib.Data.List.Count
import Mathlib.Data.List.GetD
import Mathlib.Order.Lattice
set_option autoImplicit false

/-!
The entry of a rank in a list, as a sorted copy shows it, and how far a few wrong entries can move
it.
-/

namespace OrderStatistic

variable {α : Type} [LinearOrder α]

def nth (xs : List α) (k : Nat) (d : α) : α := (xs.mergeSort (fun a b => decide (a ≤ b))).getD k d

def median (xs : List α) (d : α) : α := nth xs (xs.length / 2) d

section Ranks

variable {xs : List α} {k : Nat} {d : α}

theorem sorted (xs : List α) : (xs.mergeSort (fun a b => decide (a ≤ b))).Pairwise (· ≤ ·) := by
  have h := @List.pairwise_mergeSort α (fun a b => decide (a ≤ b))
    (fun a b c hab hbc => by simp at *; exact le_trans hab hbc)
    (fun a b => by simpa using le_total a b) xs
  exact h.imp (fun h => of_decide_eq_true h)

/-- So many entries are not above the one of rank `k`. -/
theorem lt_countP_le (hk : k < xs.length) :
    k < xs.countP (fun x => decide (x ≤ nth xs k d)) := by
  have hperm := List.mergeSort_perm xs (fun a b => decide (a ≤ b))
  have hsorted := sorted xs
  rw [← hperm.countP_eq]
  rw [← hperm.length_eq] at hk
  unfold nth
  generalize xs.mergeSort (fun a b => decide (a ≤ b)) = ys at *
  rw [List.getD_eq_getElem _ _ hk]
  have hall : (ys.take (k + 1)).countP (fun x => decide (x ≤ ys[k])) = (ys.take (k + 1)).length := by
    refine List.countP_eq_length.mpr (fun x hx => ?_)
    obtain ⟨i, hi, rfl⟩ := List.getElem_of_mem hx
    rw [List.getElem_take, decide_eq_true_eq]
    rw [List.length_take] at hi
    rcases Nat.lt_or_ge i k with hlt | hge
    · exact List.pairwise_iff_getElem.mp hsorted i k (by omega) hk hlt
    · obtain rfl : i = k := by omega
      exact le_rfl
  have hsub := (List.take_sublist (k + 1) ys).countP_le (p := fun x => decide (x ≤ ys[k]))
  rw [hall, List.length_take] at hsub
  omega

theorem le_countP_ge (hk : k < xs.length) :
    xs.length - k ≤ xs.countP (fun x => decide (nth xs k d ≤ x)) := by
  have hperm := List.mergeSort_perm xs (fun a b => decide (a ≤ b))
  have hsorted := sorted xs
  rw [← hperm.countP_eq, ← hperm.length_eq]
  rw [← hperm.length_eq] at hk
  unfold nth
  generalize xs.mergeSort (fun a b => decide (a ≤ b)) = ys at *
  rw [List.getD_eq_getElem _ _ hk]
  have hall : (ys.drop k).countP (fun x => decide (ys[k] ≤ x)) = (ys.drop k).length := by
    refine List.countP_eq_length.mpr (fun x hx => ?_)
    obtain ⟨i, hi, rfl⟩ := List.getElem_of_mem hx
    rw [List.getElem_drop, decide_eq_true_eq]
    rw [List.length_drop] at hi
    cases i with
    | zero => exact le_rfl
    | succ i => exact List.pairwise_iff_getElem.mp hsorted k (k + (i + 1)) hk (by omega) (by omega)
  have hsub := (List.drop_sublist k ys).countP_le (p := fun x => decide (ys[k] ≤ x))
  rw [hall, List.length_drop] at hsub
  exact hsub

end Ranks

section Parts

variable {xs part : List α} {k : Nat} {d : α}

omit [LinearOrder α] in
theorem exists_mem_of_countP {p : α → Bool} (h : part.Sublist xs)
    (hcount : xs.length < xs.countP p + part.length) : ∃ x ∈ part, p x = true := by
  by_contra hnone
  have hpart : part.countP (fun x => ¬ p x) = part.length :=
    List.countP_eq_length.mpr (fun x hx => by simpa using fun hp => hnone ⟨x, hx, hp⟩)
  have hsub := h.countP_le (p := fun x => ¬ p x)
  have hsplit := List.length_eq_countP_add_countP p (l := xs)
  omega

theorem nth_between (h : part.Sublist xs) (hk : k < xs.length)
    (hlow : xs.length ≤ part.length + k) (hhigh : k < part.length) :
    (∃ a ∈ part, a ≤ nth xs k d) ∧ ∃ b ∈ part, nth xs k d ≤ b := by
  have hbelow := lt_countP_le (d := d) hk
  have habove := le_countP_ge (d := d) hk
  obtain ⟨a, ha, hle⟩ := exists_mem_of_countP h (p := fun x => decide (x ≤ nth xs k d)) (by omega)
  obtain ⟨b, hb, hge⟩ := exists_mem_of_countP h (p := fun x => decide (nth xs k d ≤ x)) (by omega)
  exact ⟨⟨a, ha, of_decide_eq_true hle⟩, ⟨b, hb, of_decide_eq_true hge⟩⟩

/-- The median of an odd number of entries, fewer than half of which are wrong, is between two of
the others. -/
theorem median_between (h : part.Sublist xs) (hodd : xs.length % 2 = 1)
    (hwrong : xs.length ≤ part.length + (xs.length - 1) / 2) :
    (∃ a ∈ part, a ≤ median xs d) ∧ ∃ b ∈ part, median xs d ≤ b :=
  nth_between h (by omega) (by omega) (by omega)

end Parts

end OrderStatistic
