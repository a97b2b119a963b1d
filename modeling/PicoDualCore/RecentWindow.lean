import Mathlib.Data.List.DropRight
import Mathlib.Data.List.Nodup
set_option autoImplicit false

/-!
A bounded record of what has come last. Whoever is not in the record when it comes is spaced: the
same one comes again only after as many different others as the record holds.
-/

namespace RecentWindow

variable {α : Type} {c : Nat} {xs before between after : List α} {x : α}

inductive Spaced (c : Nat) : List α → Prop where
  | nil : Spaced c []
  | come (xs : List α) (x : α) (h : Spaced c xs) (hnew : x ∉ xs.rtake c) : Spaced c (xs ++ [x])

theorem length_rtake (c : Nat) (xs : List α) : (xs.rtake c).length = min c xs.length := by
  simp [List.rtake]
  omega

theorem rtake_suffix (c : Nat) (xs : List α) : xs.rtake c <:+ xs := List.drop_suffix _ _

theorem rtake_append (c : Nat) (xs : List α) (x : α) : (xs ++ [x]).rtake c =
    if c < (xs.rtake c ++ [x]).length then (xs.rtake c ++ [x]).drop 1 else xs.rtake c ++ [x] := by
  have hlength := length_rtake c xs
  by_cases hc : c = 0
  · simp [hc]
  by_cases hfull : c ≤ xs.length
  · have hdrop : (xs ++ [x]).length - c = xs.length - c + 1 := by
      simp
      omega
    rw [if_pos (by simp; omega), List.rtake, hdrop, List.rtake, ← List.drop_drop,
      List.drop_append_of_le_length (by omega)]
  · rw [if_neg (by simp; omega), List.rtake, List.rtake, Nat.sub_eq_zero_of_le (by simp; omega),
      Nat.sub_eq_zero_of_le (by omega)]
    simp

theorem rtake_append_of_le (h : c ≤ between.length) :
    (before ++ between).rtake c = between.rtake c := by
  rw [List.rtake, List.rtake, List.length_append, List.drop_append]
  have hdrop : before.length + between.length - c - before.length = between.length - c := by omega
  rw [hdrop, List.drop_eq_nil_of_le (by omega), List.nil_append]

theorem Spaced.nodup (h : Spaced c xs) : (xs.rtake c).Nodup := by
  induction h with
  | nil => simp
  | come xs x h hnew ih =>
    have hwhole : (xs.rtake c ++ [x]).Nodup := by
      simpa [List.nodup_append, ih] using fun a ha (heq : a = x) => hnew (heq ▸ ha)
    rw [rtake_append]
    by_cases hfull : c < (xs.rtake c ++ [x]).length
    · rw [if_pos hfull]
      exact hwhole.sublist (List.drop_sublist _ _)
    · rw [if_neg hfull]
      exact hwhole

/-- Whoever is not in the record of `before ++ x :: between` was followed by at least `c`. -/
theorem le_of_notMem (h : x ∉ (before ++ x :: between).rtake c) : c ≤ between.length := by
  by_contra hshort
  refine h ?_
  have hdrop : (before ++ x :: between).length - c ≤ before.length := by
    simp
    omega
  rw [List.rtake, List.drop_append_of_le_length hdrop]
  simp

/-- Between two comings of the same one there are `c` different others. -/
theorem Spaced.apart (h : Spaced c xs) (hsplit : xs = before ++ x :: between ++ x :: after) :
    ∃ others, others <:+ between ∧ others.length = c ∧ others.Nodup ∧ x ∉ others := by
  induction h generalizing after with
  | nil => simp at hsplit
  | come xs y h hnew ih =>
    rcases List.eq_nil_or_concat after with rfl | ⟨rest, last, rfl⟩
    · obtain ⟨rfl, hlast⟩ := List.append_inj' hsplit rfl
      obtain rfl : y = x := by simpa using hlast
      have hlong := le_of_notMem hnew
      have hrecord : (before ++ y :: between).rtake c = between.rtake c := by
        have hcut := @rtake_append_of_le _ c (before ++ [y]) between hlong
        simpa using hcut
      have hnodup := h.nodup
      rw [hrecord] at hnew hnodup
      refine ⟨between.rtake c, rtake_suffix c between, ?_, hnodup, hnew⟩
      rw [length_rtake]
      omega
    · have hcut : xs ++ [y] = (before ++ x :: between ++ x :: rest) ++ [last] := by
        simpa using hsplit
      exact ih (List.append_inj' hcut rfl).1

end RecentWindow
