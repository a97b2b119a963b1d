import PicoDualCore.MessageSerializer
import Mathlib.Algebra.Order.Field.Rat
import Mathlib.Tactic.Ring
set_option autoImplicit false

namespace PicoDualCore

def Decimal.value (d : Decimal) : ℚ := d.mantissa * 10 ^ d.exponent

theorem ten_zpow_sub {e m : Int} (h : m ≤ e) :
    (10 : ℚ) ^ (e - m).toNat * 10 ^ m = 10 ^ e := by
  have hsum : ((e - m).toNat : Int) + m = e := by omega
  rw [← zpow_natCast, ← zpow_add₀ (by norm_num), hsum]

theorem Decimal.scaled_value (d : Decimal) {e : Int} (h : e ≤ d.exponent) :
    (d.scaled e : ℚ) * 10 ^ e = d.value := by
  unfold Decimal.scaled Decimal.value
  push_cast
  rw [mul_assoc, ten_zpow_sub h]

/-- Two decimals are equal as floats when they are the same number. -/
theorem Decimal.beq_iff (a b : Decimal) : a.beq b = true ↔ a.value = b.value := by
  have ha := a.scaled_value (min_le_left a.exponent b.exponent)
  have hb := b.scaled_value (min_le_right a.exponent b.exponent)
  have hten : (10 : ℚ) ^ min a.exponent b.exponent ≠ 0 := zpow_ne_zero _ (by norm_num)
  rw [Decimal.beq, beq_iff_eq, ← ha, ← hb, mul_left_inj' hten]
  exact Int.cast_inj.symm

namespace Json

theorem digitsValue_append (xs ys : List Char) :
    digitsValue (xs ++ ys) = digitsValue xs * 10 ^ ys.length + digitsValue ys := by
  suffices hfold : ∀ (ys : List Char) (n : Nat),
      ys.foldl (fun n c => 10 * n + (c.toNat - 48)) n =
        n * 10 ^ ys.length + digitsValue ys by
    rw [digitsValue, List.foldl_append]
    exact hfold ys _
  intro ys
  induction ys with
  | nil => simp [digitsValue]
  | cons c ys ih =>
    intro n
    rw [digitsValue, List.foldl_cons, List.foldl_cons, ih, ih (10 * 0 + _), List.length_cons,
      Nat.pow_succ]
    ring

theorem digitsValue_zeros (n : Nat) : digitsValue (List.replicate n '0') = 0 := by
  induction n with
  | zero => rfl
  | succ n ih =>
    rw [List.replicate_succ, ← List.singleton_append, digitsValue_append, ih]
    simp [digitsValue]

theorem stripZeros_spec (fuel m : Nat) :
    (stripZeros fuel m).1 * 10 ^ (stripZeros fuel m).2 = m := by
  induction fuel generalizing m with
  | zero => simp [stripZeros]
  | succ fuel ih =>
    unfold stripZeros
    split
    · simp
    · rename_i h
      have hten : m % 10 = 0 := by
        simp only [Bool.or_eq_true, decide_eq_true_eq, bne_iff_ne, ne_eq, not_or, not_not] at h
        exact h.2
      have hdiv := ih (m / 10)
      dsimp only
      rw [Nat.pow_succ, ← mul_assoc, hdiv]
      omega

def shapeValue (shape : List Char × List Char × Option Int) : ℚ :=
  digitsValue (shape.1 ++ shape.2.1) * 10 ^ (shape.2.2.getD 0 - shape.2.1.length)

theorem placePoint_value {digits : List Char} (exponent : Int) (hne : digits ≠ []) :
    shapeValue (placePoint digits exponent) = digitsValue digits * 10 ^ exponent ∧
      ((placePoint digits exponent).2.1 ≠ [] ∨ (placePoint digits exponent).2.2.isSome = true) := by
  have hlen : 0 < digits.length := List.length_pos_iff.mpr hne
  unfold placePoint shapeValue
  dsimp only
  split
  · refine ⟨?_, .inr rfl⟩
    have he : (digits.length + exponent - 1 : Int) - ((digits.length - 1 : Nat) : Int) = exponent := by
      omega
    rw [List.take_append_drop, List.length_drop, Option.getD_some, he]
  · split
    · refine ⟨?_, .inl (by simp [hne])⟩
      have he : (0 : Int) - ((-(digits.length + exponent)).toNat + digits.length : Nat) = exponent := by
        omega
      rw [List.length_append, List.length_replicate, Option.getD_none, he, digitsValue_append,
        digitsValue_append, digitsValue_zeros]
      simp [digitsValue]
    · split
      · rename_i hexp
        refine ⟨?_, .inl (by simp)⟩
        obtain ⟨n, rfl⟩ := Int.eq_ofNat_of_zero_le hexp
        rw [List.append_assoc, digitsValue_append, digitsValue_append, digitsValue_zeros]
        simp only [digitsValue, List.length_append, List.length_replicate, List.length_cons,
          List.length_nil, Int.toNat_natCast, List.foldl_cons, List.foldl_nil, Option.getD_none]
        push_cast
        rw [zpow_natCast, pow_add]
        norm_num
        ring
      · refine ⟨?_, .inl ?_⟩
        · have he : (0 : Int) - ((digits.length - (digits.length + exponent).toNat : Nat) : Int) =
              exponent := by omega
          rw [List.take_append_drop, List.length_drop, Option.getD_none, he]
        · rw [Ne, List.drop_eq_nil_iff]
          omega

theorem exponentValue_exponentText (e : Int) :
    exponentValue ((if e < 0 then '-' else '+') ::
      ((if e.natAbs < 10 then ['0'] else []) ++ natText e.natAbs)) = some e := by
  have hall : ((if e.natAbs < 10 then ['0'] else []) ++ natText e.natAbs).all isDigit = true := by
    rw [List.all_append, List.all_eq_true.mpr (natText_digits e.natAbs), Bool.and_true]
    split
    · decide
    · rfl
  have hne : ((if e.natAbs < 10 then ['0'] else []) ++ natText e.natAbs).isEmpty = false := by
    rw [List.isEmpty_eq_false_iff]
    exact List.append_ne_nil_of_right_ne_nil _ (natText_ne_nil _)
  have hvalue : digitsValue ((if e.natAbs < 10 then ['0'] else []) ++ natText e.natAbs) =
      e.natAbs := by
    rw [digitsValue_append, digitsValue_natText]
    split <;> simp [digitsValue]
  by_cases hneg : e < 0
  · rw [if_pos hneg, exponentValue, hall, hne, hvalue]
    simp only [Bool.not_false, Bool.and_true, if_true, Option.some.injEq]
    omega
  · rw [if_neg hneg, exponentValue, hall, hne, hvalue]
    simp only [Bool.not_false, Bool.and_true, if_true, Option.some.injEq]
    omega

theorem parseFraction_parts {negative : Bool} {whole fraction : List Char} {exponent : Option Int}
    (hdigits : ∀ c ∈ fraction, isDigit c = true)
    (hfloat : fraction ≠ [] ∨ exponent.isSome = true) :
    parseFraction negative whole (fractionText fraction ++ exponentText exponent) =
      some (.float (.finite ⟨signed negative (digitsValue (whole ++ fraction)),
        exponent.getD 0 - fraction.length⟩)) := by
  cases fraction with
  | nil =>
    cases exponent with
    | none => simp at hfloat
    | some e => simp [fractionText, exponentText, parseFraction, exponentValue_exponentText]
  | cons c rest =>
    obtain ⟨htake, hdrop⟩ := takeWhile_all hdigits (exponentText_head exponent)
    have htext : fractionText (c :: rest) ++ exponentText exponent =
        '.' :: (c :: rest ++ exponentText exponent) := rfl
    rw [htext, parseFraction, htake, hdrop]
    cases exponent with
    | none => simp [exponentText]
    | some e => simp [exponentText, exponentValue_exponentText]

theorem decimalShape_value (d : Decimal) :
    shapeValue (decimalShape d) = d.mantissa.natAbs * 10 ^ d.exponent ∧
      ((decimalShape d).2.1 ≠ [] ∨ (decimalShape d).2.2.isSome = true) := by
  have hstrip := stripZeros_spec d.mantissa.natAbs d.mantissa.natAbs
  unfold decimalShape
  generalize hs : stripZeros d.mantissa.natAbs d.mantissa.natAbs = stripped at hstrip ⊢
  obtain ⟨hvalue, hfloat⟩ := placePoint_value
    (if stripped.1 = 0 then 0 else d.exponent + stripped.2) (natText_ne_nil stripped.1)
  refine ⟨?_, hfloat⟩
  rw [hvalue, digitsValue_natText, ← hstrip]
  split
  · rename_i hzero
    simp [hzero]
  · rw [zpow_add₀ (by norm_num), zpow_natCast]
    push_cast
    ring

theorem parseUnsigned_parts (negative : Bool) (d : Decimal) :
    ∃ d', parseUnsigned negative (unsignedText (decimalShape d)) = some (.float (.finite d')) ∧
      d'.value = (if negative then -1 else 1) * (d.mantissa.natAbs * 10 ^ d.exponent) := by
  obtain ⟨hne, hwhole, hfraction⟩ := decimalShape_digits d
  obtain ⟨hvalue, hfloat⟩ := decimalShape_value d
  have hhead : ∀ c r, fractionText (decimalShape d).2.1 ++ exponentText (decimalShape d).2.2 =
      c :: r → isDigit c = false := by
    intro c r h
    unfold fractionText at h
    split at h
    · exact exponentText_head _ c r h
    · cases h; decide
  rw [unsignedText, List.append_assoc, parseUnsigned_digits hne hwhole hhead,
    parseFraction_parts hfraction hfloat]
  refine ⟨_, rfl, ?_⟩
  rw [← hvalue]
  cases negative <;> simp [Decimal.value, shapeValue, signed]

/-- A written float reads back as the same number. -/
theorem parseNumber_decimal (d : Decimal) :
    ∃ d', parseNumber (decimalText d) = some (.float (.finite d')) ∧ d.beq d' = true := by
  simp only [Decimal.beq_iff]
  unfold decimalText
  split
  · rename_i hneg
    obtain ⟨d', hparse, hvalue⟩ := parseUnsigned_parts true d
    refine ⟨d', hparse, ?_⟩
    have habs : ((d.mantissa.natAbs : Int) : ℚ) = -d.mantissa := by
      rw [← Int.cast_neg]
      exact congrArg _ (by omega)
    rw [hvalue, Decimal.value, ← Int.cast_natCast, habs]
    simp
  · rename_i hneg
    obtain ⟨d', hparse, hvalue⟩ := parseUnsigned_parts false d
    refine ⟨d', ?_, ?_⟩
    · obtain ⟨hne, hwhole, -⟩ := decimalShape_digits d
      cases hs : (decimalShape d).1 with
      | nil => exact (hne hs).elim
      | cons c whole =>
        have hc : isDigit c = true := hwhole c (by simp [hs])
        rw [← hparse]
        simp only [unsignedText, hs, List.cons_append]
        rw [parseNumber_of_digit hc]
    · have habs : ((d.mantissa.natAbs : Int) : ℚ) = d.mantissa := congrArg _ (by omega)
      rw [hvalue, Decimal.value, ← Int.cast_natCast, habs]
      simp

end Json

mutual

/-- Every dict has each of its keys once. -/
def distinctKeys : PyValue → Bool
  | .list items => distinctKeysItems items
  | .tuple items => distinctKeysItems items
  | .dict items => decide ((items.map Prod.fst).Nodup) && distinctKeysPairs items
  | _ => true

def distinctKeysItems : List PyValue → Bool
  | [] => true
  | item :: rest => distinctKeys item && distinctKeysItems rest

def distinctKeysPairs : List (PyKey × PyValue) → Bool
  | [] => true
  | (_, value) :: rest => distinctKeys value && distinctKeysPairs rest

end

mutual

/-- The second value is the first one with its tuples read as lists. -/
def readsAs : PyValue → PyValue → Bool
  | .none, .none => true
  | .bool b, .bool c => b == c
  | .int m, .int n => m == n
  | .float (.finite d), .float (.finite e) => d.beq e
  | .str s, .str t => s == t
  | .list xs, .list ys => readsAsItems xs ys
  | .tuple xs, .list ys => readsAsItems xs ys
  | .dict xs, .dict ys => readsAsPairs xs ys
  | _, _ => false

def readsAsItems : List PyValue → List PyValue → Bool
  | [], [] => true
  | x :: xs, y :: ys => readsAs x y && readsAsItems xs ys
  | _, _ => false

def readsAsPairs : List (PyKey × PyValue) → List (PyKey × PyValue) → Bool
  | [], [] => true
  | (k, v) :: xs, (l, w) :: ys => k == l && readsAs v w && readsAsPairs xs ys
  | _, _ => false

end

mutual

theorem plain_iff (v : PyValue) :
    Json.plain v = true ↔ isJsonSafe v = true ∧ distinctKeys v = true := by
  cases v with
  | float f => cases f <;> simp [Json.plain, isJsonSafe, distinctKeys]
  | list items => simpa [Json.plain, isJsonSafe, distinctKeys] using plainItems_iff items
  | tuple items => simpa [Json.plain, isJsonSafe, distinctKeys] using plainItems_iff items
  | dict items =>
    simp only [Json.plain, isJsonSafe, distinctKeys, Bool.and_eq_true, plainPairs_iff items]
    exact and_left_comm
  | _ => simp [Json.plain, isJsonSafe, distinctKeys]

theorem plainItems_iff (items : List PyValue) :
    Json.plainItems items = true ↔ allJsonSafe items = true ∧ distinctKeysItems items = true := by
  cases items with
  | nil => simp [Json.plainItems, allJsonSafe, distinctKeysItems]
  | cons item rest =>
    simp only [Json.plainItems, allJsonSafe, distinctKeysItems, Bool.and_eq_true, plain_iff item,
      plainItems_iff rest]
    exact and_and_and_comm

theorem plainPairs_iff (items : List (PyKey × PyValue)) :
    Json.plainPairs items = true ↔
      pairsJsonSafe items = true ∧ distinctKeysPairs items = true := by
  cases items with
  | nil => simp [Json.plainPairs, pairsJsonSafe, distinctKeysPairs]
  | cons item rest =>
    obtain ⟨key, value⟩ := item
    cases key with
    | other t => simp [Json.plainPairs, pairsJsonSafe]
    | str key =>
      simp only [Json.plainPairs, pairsJsonSafe, distinctKeysPairs, Bool.and_eq_true,
        plain_iff value, plainPairs_iff rest]
      exact and_and_and_comm

end

mutual

theorem readsAs_decoded (v : PyValue) (h : isJsonSafe v = true) :
    readsAs v (Json.decoded v) = true := by
  match v with
  | .none => rfl
  | .bool b => exact beq_self_eq_true b
  | .int n => exact beq_self_eq_true n
  | .str s => exact beq_self_eq_true s
  | .float (.finite d) =>
    obtain ⟨d', hparse, hsame⟩ := Json.parseNumber_decimal d
    rw [Json.decoded, hparse]
    exact hsame
  | .list items => exact readsAsItems_decoded items h
  | .tuple items => exact readsAsItems_decoded items h
  | .dict items => exact readsAsPairs_decoded items h

theorem readsAsItems_decoded (items : List PyValue) (h : allJsonSafe items = true) :
    readsAsItems items (Json.decodedItems items) = true := by
  match items with
  | [] => rfl
  | item :: rest =>
    simp only [allJsonSafe, Bool.and_eq_true] at h
    rw [Json.decodedItems, readsAsItems, readsAs_decoded item h.1, readsAsItems_decoded rest h.2]
    rfl

theorem readsAsPairs_decoded (items : List (PyKey × PyValue)) (h : pairsJsonSafe items = true) :
    readsAsPairs items (Json.decodedPairs items) = true := by
  match items with
  | [] => rfl
  | (.str key, value) :: rest =>
    simp only [pairsJsonSafe, Bool.and_eq_true] at h
    rw [Json.decodedPairs, readsAsPairs, readsAs_decoded value h.1, readsAsPairs_decoded rest h.2,
      beq_self_eq_true]
    rfl

end

/-- A message is refused exactly when it is unsafe or its bytes are too many. -/
theorem serializeAndValidateMessage_error_iff (message : PyValue) :
    (∃ e, serializeAndValidateMessage message = .error e) ↔
      isJsonSafe message = false ∨
        MAX_OUTBOUND_MESSAGE_BYTES < (serializeToBytes message).length := by
  cases h : serializeAndValidateMessage message with
  | ok payload =>
    obtain ⟨hsafe, rfl, hsize⟩ := serializeAndValidateMessage_ok_iff.mp h
    simp [hsafe, Nat.not_lt.mpr hsize]
  | error e =>
    refine ⟨fun _ => ?_, fun _ => ⟨e, rfl⟩⟩
    by_contra hnot
    rw [not_or, Bool.not_eq_false, Nat.not_lt] at hnot
    rw [serializeAndValidateMessage_ok_iff.mpr ⟨hnot.1, rfl, hnot.2⟩] at h
    cases h

/-- The two safety passes agree, nothing else is refused but what is too large, and the bytes of
any other message read back as that message. -/
theorem serialized_reads_back (path : String) (v : PyValue) :
    (isJsonSafe v = true ↔ validateValue path v = .ok ()) ∧
      ((∃ e, serializeAndValidateMessage v = .error e) ↔
        isJsonSafe v = false ∨ 16384 < (serializeToBytes v).length) ∧
      ∀ payload, distinctKeys v = true → serializeAndValidateMessage v = .ok payload →
        ∃ w, loadsBytes payload = .ok w ∧ readsAs v w = true := by
  refine ⟨(validateValue_ok_iff path v).symm, serializeAndValidateMessage_error_iff v, ?_⟩
  intro payload hkeys hok
  obtain ⟨hsafe, rfl, -⟩ := serializeAndValidateMessage_ok_iff.mp hok
  refine ⟨Json.decoded v, ?_, readsAs_decoded v hsafe⟩
  rw [serializeToBytes, loadsBytes_utf8, Json.loads_dumps ((plain_iff v).mpr ⟨hsafe, hkeys⟩)]

def reading : PyValue :=
  .dict [(.str "values", .tuple [.float (.finite ⟨2150, -2⟩), .none, .bool true]),
    (.str "id", .str "room \"1\""), (.str "count", .int (-3))]

theorem serialized_reads_back_reading :
    ∃ w, loadsBytes (serializeToBytes reading) = .ok w ∧ readsAs reading w = true :=
  (serialized_reads_back "root" reading).2.2 _ (by decide)
    (serializeAndValidateMessage_ok_iff.mpr ⟨by decide, rfl, by decide⟩)

end PicoDualCore
