import Mathlib.Algebra.Group.Nat.Defs
set_option autoImplicit false

/-!
Variable-length numbers: seven bits a byte, lowest first, the high bit set on every byte but
the last.
-/

namespace Base128

abbrev Bytes := List UInt8

/-- The bytes of `n`, with a bound on how many are written. -/
def encodeUpTo : Nat → Nat → Bytes
  | 0, _ => []
  | fuel + 1, n =>
    if n < 128 then [UInt8.ofNat n] else UInt8.ofNat (n % 128 + 128) :: encodeUpTo fuel (n / 128)

def encode (n : Nat) : Bytes := encodeUpTo (n + 1) n

inductive Decoded where
  | number (n : Nat) (rest : Bytes)
  | truncated
  | overlong
  deriving DecidableEq, Repr

/-- Reads at most `limit` bytes. -/
def decode : Nat → Bytes → Decoded
  | 0, _ => .overlong
  | _ + 1, [] => .truncated
  | limit + 1, b :: rest =>
    if b.toNat < 128 then .number b.toNat rest
    else match decode limit rest with
      | .number n rest => .number (b.toNat % 128 + 128 * n) rest
      | .truncated => .truncated
      | .overlong => .overlong

theorem toNat_ofNat {n : Nat} (h : n < 256) : (UInt8.ofNat n).toNat = n := by
  simp [Nat.mod_eq_of_lt h]

theorem encodeUpTo_fuel {fuel n : Nat} (h : n < fuel) :
    encodeUpTo fuel n = encode n := by
  suffices H : ∀ k fuel fuel' : Nat, k < fuel → k < fuel' →
      encodeUpTo fuel k = encodeUpTo fuel' k from H n fuel (n + 1) h (by omega)
  intro k
  induction k using Nat.strongRecOn with
  | ind k ih =>
    intro fuel fuel' hf hf'
    obtain ⟨f, rfl⟩ : ∃ f, fuel = f + 1 := ⟨fuel - 1, by omega⟩
    obtain ⟨f', rfl⟩ : ∃ f, fuel' = f + 1 := ⟨fuel' - 1, by omega⟩
    by_cases hk : k < 128
    · simp [encodeUpTo, hk]
    · simp only [encodeUpTo, hk, if_false]
      rw [ih (k / 128) (by omega) f f' (by omega) (by omega)]

theorem encode_small {n : Nat} (h : n < 128) : encode n = [UInt8.ofNat n] := by
  simp [encode, encodeUpTo, h]

theorem encode_large {n : Nat} (h : ¬ n < 128) :
    encode n = UInt8.ofNat (n % 128 + 128) :: encode (n / 128) := by
  rw [encode, encodeUpTo, if_neg h, encodeUpTo_fuel (by omega)]

theorem encode_ne_nil (n : Nat) : encode n ≠ [] := by
  by_cases h : n < 128
  · simp [encode_small h]
  · simp [encode_large h]

theorem length_encode_le {k n : Nat} (hk : 0 < k) (h : n < 128 ^ k) : (encode n).length ≤ k := by
  induction k generalizing n with
  | zero => omega
  | succ k ih =>
    by_cases hn : n < 128
    · simp [encode_small hn]
    · rw [encode_large hn, List.length_cons]
      cases k with
      | zero => omega
      | succ k =>
        have hdiv : n / 128 < 128 ^ (k + 1) := by
          rw [Nat.div_lt_iff_lt_mul (by omega)]
          calc n < 128 ^ (k + 1 + 1) := h
            _ = 128 ^ (k + 1) * 128 := by rw [Nat.pow_succ]
        have := ih (by omega) hdiv
        omega

theorem decode_encode {limit n : Nat} (rest : Bytes) (h : (encode n).length ≤ limit) :
    decode limit (encode n ++ rest) = .number n rest := by
  induction limit generalizing n with
  | zero =>
    have := List.length_pos_iff.mpr (encode_ne_nil n)
    omega
  | succ limit ih =>
    by_cases hn : n < 128
    · simp [encode_small hn, decode, toNat_ofNat (show n < 256 by omega), hn]
    · rw [encode_large hn, List.length_cons] at h
      have hbyte := toNat_ofNat (show n % 128 + 128 < 256 by omega)
      have hbig : ¬ n % 128 + 128 < 128 := by omega
      have hmod : (n % 128 + 128) % 128 + 128 * (n / 128) = n := by omega
      rw [encode_large hn, List.cons_append, decode, hbyte, if_neg hbig, ih (by omega)]
      simp only [hmod]

end Base128
