import PicoDualCore.Json
set_option autoImplicit false

namespace PicoDualCore

theorem PyDict.get?_store (d : PyDict) (key other : String) (value : PyValue) :
    PyDict.get? (Json.store d key value) other =
      if key = other then some value else d.get? other := by
  induction d with
  | nil => by_cases h : key = other <;> simp [Json.store, PyDict.get?, h]
  | cons item rest ih =>
    obtain ⟨k, v⟩ := item
    by_cases hk : k = .str key
    · by_cases h : key = other <;> simp [Json.store, PyDict.get?, hk, h]
    · by_cases ho : k = .str other
      · have hne : key ≠ other := by
          rintro rfl
          exact hk ho
        simp [Json.store, PyDict.get?, ho, hne, Ne.symm hne]
      · simp [Json.store, PyDict.get?, hk, ho, ih]

theorem PyDict.keys_store {d : PyDict} {key : String} (value : PyValue) (h : d.has key = true) :
    PyDict.keys (Json.store d key value) = d.keys := by
  induction d with
  | nil => cases h
  | cons item rest ih =>
    obtain ⟨k, v⟩ := item
    by_cases hk : k = .str key
    · simp [Json.store, PyDict.keys, hk]
    · have hrest : PyDict.has rest key = true := by simpa [PyDict.has, PyDict.get?, hk] using h
      have hkeys := ih hrest
      simp only [PyDict.keys] at hkeys
      simp [Json.store, PyDict.keys, hk, hkeys]

namespace Json

theorem isDigit_digitChar : ∀ d, d < 10 → isDigit (digitChar d) = true := by decide

theorem toNat_digitChar : ∀ d, d < 10 → (digitChar d).toNat - 48 = d := by decide

theorem digitsUpTo_spec (fuel n : Nat) (tail : List Char) (h : n < fuel) :
    ∃ digits : List Char, digitsUpTo fuel n tail = digits ++ tail ∧ digits ≠ [] ∧
      (∀ c ∈ digits, isDigit c = true) ∧ digitsValue digits = n := by
  induction fuel generalizing n tail with
  | zero => omega
  | succ fuel ih =>
    unfold digitsUpTo
    split
    · rename_i hn
      refine ⟨[digitChar n], rfl, by simp, by simpa using isDigit_digitChar n hn, ?_⟩
      simpa [digitsValue] using toNat_digitChar n hn
    · rename_i hn
      obtain ⟨digits, heq, hne, hall, hval⟩ := ih (n / 10) (digitChar (n % 10) :: tail) (by omega)
      have hd := isDigit_digitChar (n % 10) (by omega)
      have hv := toNat_digitChar (n % 10) (by omega)
      refine ⟨digits ++ [digitChar (n % 10)], by simp [heq], by simp, ?_, ?_⟩
      · intro c hc
        rcases List.mem_append.mp hc with hc | hc
        · exact hall c hc
        · simp only [List.mem_singleton] at hc
          rw [hc]; exact hd
      · simp only [digitsValue, List.foldl_append, List.foldl_cons, List.foldl_nil] at hval ⊢
        rw [hval, hv]
        omega

theorem natText_ne_nil (n : Nat) : natText n ≠ [] := by
  obtain ⟨digits, heq, hne, -, -⟩ := digitsUpTo_spec (n + 1) n [] (by omega)
  simpa [natText, heq] using hne

theorem natText_digits (n : Nat) : ∀ c ∈ natText n, isDigit c = true := by
  obtain ⟨digits, heq, -, hall, -⟩ := digitsUpTo_spec (n + 1) n [] (by omega)
  simpa [natText, heq] using hall

theorem digitsValue_natText (n : Nat) : digitsValue (natText n) = n := by
  obtain ⟨digits, heq, -, -, hval⟩ := digitsUpTo_spec (n + 1) n [] (by omega)
  simpa [natText, heq] using hval

def Delimited (rest : List Char) : Prop := ∀ c r, rest = c :: r → isNumberChar c = false

theorem delimited_nil : Delimited [] := by
  intro c r h; cases h

theorem delimited_cons {c : Char} {r : List Char} (h : isNumberChar c = false) :
    Delimited (c :: r) := by
  intro c' r' h'; cases h'; exact h

theorem isNumberChar_of_isDigit {c : Char} (h : isDigit c = true) : isNumberChar c = true := by
  simp [isNumberChar, h]

theorem takeWhile_all {p : Char → Bool} {digits rest : List Char}
    (hd : ∀ c ∈ digits, p c = true) (hr : ∀ c r, rest = c :: r → p c = false) :
    (digits ++ rest).takeWhile p = digits ∧ (digits ++ rest).dropWhile p = rest := by
  induction digits with
  | nil =>
    cases rest with
    | nil => exact ⟨rfl, rfl⟩
    | cons c r => simp [hr c r rfl]
  | cons c digits ih =>
    have hc := hd c (by simp)
    have ih' := ih (fun x hx => hd x (by simp [hx]))
    simp [hc, ih'.1, ih'.2]

theorem parseUnsigned_digits {negative : Bool} {digits rest : List Char} (hne : digits ≠ [])
    (hd : ∀ c ∈ digits, isDigit c = true) (hr : ∀ c r, rest = c :: r → isDigit c = false) :
    parseUnsigned negative (digits ++ rest) = parseFraction negative digits rest := by
  obtain ⟨h1, h2⟩ := takeWhile_all hd hr
  unfold parseUnsigned
  rw [h1, h2]
  cases digits with
  | nil => exact (hne rfl).elim
  | cons c digits => simp

theorem parseNumber_of_digit {c : Char} {token : List Char} (h : isDigit c = true) :
    parseNumber (c :: token) = parseUnsigned false (c :: token) := by
  unfold parseNumber
  split
  · rename_i heq
    cases heq
    exact absurd h (by decide)
  · rfl

theorem parseNumber_natText (n : Nat) (rest : List Char) :
    parseNumber (natText n ++ rest) = parseUnsigned false (natText n ++ rest) := by
  have hd := natText_digits n
  cases h : natText n with
  | nil => exact (natText_ne_nil n h).elim
  | cons c digits => exact parseNumber_of_digit (hd c (by simp [h]))

theorem parseNumber_intText (n : Int) : parseNumber (intText n) = some (.int n) := by
  have hu : ∀ negative m, parseUnsigned negative (natText m) = some (.int (signed negative m)) := by
    intro negative m
    have h := @parseUnsigned_digits negative _ [] (natText_ne_nil m) (natText_digits m) (by simp)
    simpa [parseFraction, digitsValue_natText] using h
  unfold intText
  split
  · rw [parseNumber, hu]
    simp only [signed, if_true, Option.some.injEq, PyValue.int.injEq]
    omega
  · have h := parseNumber_natText n.natAbs []
    simp only [List.append_nil] at h
    rw [h, hu]
    simp only [signed, Bool.false_eq_true, if_false, Option.some.injEq, PyValue.int.injEq]
    omega

theorem isDigit_zero : isDigit '0' = true := by decide

theorem exponentValue_isSome {e : Int} :
    (exponentValue ((if e < 0 then '-' else '+') ::
      ((if e.natAbs < 10 then ['0'] else []) ++ natText e.natAbs))).isSome := by
  have hd := natText_digits e.natAbs
  have hne := natText_ne_nil e.natAbs
  have hall : ((if e.natAbs < 10 then ['0'] else []) ++ natText e.natAbs).all isDigit = true := by
    rw [List.all_eq_true]
    intro c hc
    rcases List.mem_append.mp hc with hc | hc
    · split at hc
      · simp only [List.mem_singleton] at hc
        rw [hc]; exact isDigit_zero
      · cases hc
    · exact hd c hc
  have hne' : ((if e.natAbs < 10 then ['0'] else []) ++ natText e.natAbs).isEmpty = false := by
    cases h : natText e.natAbs with
    | nil => exact (hne h).elim
    | cons c digits => split <;> rfl
  split <;> simp [exponentValue, hall, hne']

theorem parseFraction_exponent {negative : Bool} {whole : List Char} {exponent : Option Int} :
    (parseFraction negative whole (exponentText exponent)).isSome := by
  cases exponent with
  | none => rfl
  | some e => simpa [exponentText, parseFraction] using exponentValue_isSome (e := e)

theorem exponentText_head (exponent : Option Int) :
    ∀ c r, exponentText exponent = c :: r → isDigit c = false := by
  intro c r h
  cases exponent with
  | none => cases h
  | some e => cases h; decide

theorem parseFraction_isSome {negative : Bool} {whole fraction : List Char}
    {exponent : Option Int} (hf : ∀ c ∈ fraction, isDigit c = true) :
    (parseFraction negative whole (fractionText fraction ++ exponentText exponent)).isSome := by
  cases fraction with
  | nil => exact parseFraction_exponent
  | cons c rest =>
    obtain ⟨h1, h2⟩ := takeWhile_all hf (exponentText_head exponent)
    have htext : fractionText (c :: rest) ++ exponentText exponent =
        '.' :: (c :: rest ++ exponentText exponent) := rfl
    rw [htext, parseFraction, h1, h2]
    cases exponent with
    | none => rfl
    | some e => simpa [exponentText] using exponentValue_isSome (e := e)

/-- The parts of a decimal's text are digits, and there are some before the point. -/
theorem placePoint_digits {digits : List Char} (exponent : Int) (hne : digits ≠ [])
    (hd : ∀ c ∈ digits, isDigit c = true) :
    (placePoint digits exponent).1 ≠ [] ∧
      (∀ c ∈ (placePoint digits exponent).1, isDigit c = true) ∧
      ∀ c ∈ (placePoint digits exponent).2.1, isDigit c = true := by
  have hzeros : ∀ n, ∀ c ∈ List.replicate n '0', isDigit c = true := by
    intro n c hc
    rw [(List.mem_replicate.mp hc).2]; exact isDigit_zero
  have hzero : ∀ c ∈ ['0'], isDigit c = true := by simpa using isDigit_zero
  have happend : ∀ xs ys : List Char, (∀ c ∈ xs, isDigit c = true) →
      (∀ c ∈ ys, isDigit c = true) → ∀ c ∈ xs ++ ys, isDigit c = true := by
    intro xs ys hx hy c hc
    exact (List.mem_append.mp hc).elim (hx c) (hy c)
  have htake : ∀ k, ∀ c ∈ digits.take k, isDigit c = true :=
    fun k c hc => hd c (List.mem_of_mem_take hc)
  have hdrop : ∀ k, ∀ c ∈ digits.drop k, isDigit c = true :=
    fun k c hc => hd c (List.mem_of_mem_drop hc)
  have hsome : ∀ k, 0 < k → digits.take k ≠ [] := by
    intro k hk h
    rw [List.take_eq_nil_iff] at h
    exact h.elim (by omega) hne
  unfold placePoint
  dsimp only
  split
  · exact ⟨hsome 1 (by omega), htake 1, hdrop 1⟩
  · split
    · exact ⟨by simp, hzero, happend _ _ (hzeros _) hd⟩
    · split
      · exact ⟨by simp [hne], happend _ _ hd (hzeros _), hzero⟩
      · exact ⟨hsome _ (by omega), htake _, hdrop _⟩

theorem decimalShape_digits (d : Decimal) :
    (decimalShape d).1 ≠ [] ∧ (∀ c ∈ (decimalShape d).1, isDigit c = true) ∧
      ∀ c ∈ (decimalShape d).2.1, isDigit c = true :=
  placePoint_digits _ (natText_ne_nil _) (natText_digits _)

theorem parseUnsigned_text (negative : Bool) (d : Decimal) :
    (parseUnsigned negative (unsignedText (decimalShape d))).isSome := by
  obtain ⟨hne, hw, hf⟩ := decimalShape_digits d
  have hhead : ∀ c r, fractionText (decimalShape d).2.1 ++ exponentText (decimalShape d).2.2 =
      c :: r → isDigit c = false := by
    intro c r h
    unfold fractionText at h
    split at h
    · exact exponentText_head _ c r h
    · cases h; decide
  rw [unsignedText, List.append_assoc, parseUnsigned_digits hne hw hhead]
  exact parseFraction_isSome hf

/-- A written float is read back as a number. -/
theorem parseNumber_decimalText (d : Decimal) : (parseNumber (decimalText d)).isSome := by
  unfold decimalText
  split
  · rw [parseNumber]
    exact parseUnsigned_text _ d
  · have h := parseUnsigned_text false d
    obtain ⟨hne, hw, -⟩ := decimalShape_digits d
    cases hs : (decimalShape d).1 with
    | nil => exact (hne hs).elim
    | cons c whole =>
      have hc : isDigit c = true := hw c (by simp [hs])
      simp only [unsignedText, hs, List.cons_append] at h ⊢
      rw [parseNumber_of_digit hc]
      exact h

theorem decimalText_numberChars (d : Decimal) : ∀ c ∈ decimalText d, isNumberChar c = true := by
  obtain ⟨-, hw, hf⟩ := decimalShape_digits d
  have hfraction : ∀ c ∈ fractionText (decimalShape d).2.1, isNumberChar c = true := by
    intro c hc
    unfold fractionText at hc
    split at hc
    · cases hc
    · rcases List.mem_cons.mp hc with rfl | hc
      · decide
      · exact isNumberChar_of_isDigit (hf c hc)
  have hexponent : ∀ c ∈ exponentText (decimalShape d).2.2, isNumberChar c = true := by
    intro c hc
    cases h : (decimalShape d).2.2 with
    | none => rw [h] at hc; cases hc
    | some e =>
      rw [h] at hc
      simp only [exponentText, List.mem_cons, List.mem_append] at hc
      rcases hc with rfl | rfl | hc | hc
      · decide
      · split <;> decide
      · split at hc
        · simp only [List.mem_singleton] at hc
          rw [hc]; decide
        · cases hc
      · exact isNumberChar_of_isDigit (natText_digits _ c hc)
  have hall : ∀ c ∈ unsignedText (decimalShape d), isNumberChar c = true := by
    intro c hc
    simp only [unsignedText, List.mem_append] at hc
    rcases hc with (hc | hc) | hc
    · exact isNumberChar_of_isDigit (hw c hc)
    · exact hfraction c hc
    · exact hexponent c hc
  intro c hc
  unfold decimalText at hc
  split at hc
  · rcases List.mem_cons.mp hc with rfl | hc
    · decide
    · exact hall c hc
  · exact hall c hc

theorem intText_numberChars (n : Int) : ∀ c ∈ intText n, isNumberChar c = true := by
  intro c hc
  unfold intText at hc
  split at hc
  · rcases List.mem_cons.mp hc with rfl | hc
    · decide
    · exact isNumberChar_of_isDigit (natText_digits _ c hc)
  · exact isNumberChar_of_isDigit (natText_digits _ c hc)

theorem hexValue_hexDigit : ∀ n, n < 16 → hexValue (hexDigit n) = some n := by decide

theorem parseString_quoteChar (c : Char) (rest : List Char) :
    parseString (quoteChar c ++ rest) = (parseString rest).map (fun p => (c :: p.1, p.2)) := by
  unfold quoteChar
  split
  · rename_i h; subst h; rfl
  split
  · rename_i h; subst h; rfl
  split
  · rename_i h1 h2 _
    rw [List.cons_append, List.nil_append, parseString.eq_def]
    split <;> simp_all
  split
  · rename_i h; subst h; rfl
  split
  · rename_i h; subst h; rfl
  split
  · rename_i h; subst h; rfl
  · rename_i hcontrol _ _ _
    have h1 := hexValue_hexDigit (c.toNat / 16) (by omega)
    have h2 := hexValue_hexDigit (c.toNat % 16) (by omega)
    have h0 : hexValue '0' = some 0 := by decide
    have hc : ((0 * 16 + 0) * 16 + c.toNat / 16) * 16 + c.toNat % 16 = c.toNat := by omega
    simp only [List.cons_append, List.nil_append, parseString, h0, h1, h2, hc, Char.ofNat_toNat]

theorem parseString_quoted (text rest : List Char) :
    parseString (text.flatMap quoteChar ++ '"' :: rest) = some (text, rest) := by
  induction text with
  | nil => rfl
  | cons c text ih =>
    rw [List.flatMap_cons, List.append_assoc, parseString_quoteChar, ih]
    rfl

mutual

/-- Values that JSON can carry: finite floats, and dicts whose keys are distinct strings. -/
def plain : PyValue → Bool
  | .none | .bool _ | .int _ | .str _ => true
  | .float (.finite _) => true
  | .float _ => false
  | .list items => plainItems items
  | .tuple items => plainItems items
  | .dict items => decide ((items.map Prod.fst).Nodup) && plainPairs items
  | .other _ => false

def plainItems : List PyValue → Bool
  | [] => true
  | item :: rest => plain item && plainItems rest

def plainPairs : List (PyKey × PyValue) → Bool
  | [] => true
  | (.str _, value) :: rest => plain value && plainPairs rest
  | (.other _, _) :: _ => false

end

mutual

def decoded : PyValue → PyValue
  | .float (.finite d) => (parseNumber (decimalText d)).getD .none
  | .list items => .list (decodedItems items)
  | .tuple items => .list (decodedItems items)
  | .dict items => .dict (decodedPairs items)
  | v => v

def decodedItems : List PyValue → List PyValue
  | [] => []
  | item :: rest => decoded item :: decodedItems rest

def decodedPairs : List (PyKey × PyValue) → List (PyKey × PyValue)
  | [] => []
  | (key, value) :: rest => (key, decoded value) :: decodedPairs rest

end

mutual

def need : PyValue → Nat
  | .list items => needItems items + 1
  | .tuple items => needItems items + 1
  | .dict items => needPairs items + 1
  | _ => 1

def needItems : List PyValue → Nat
  | [] => 0
  | item :: rest => max (need item) (needItems rest) + 1

def needPairs : List (PyKey × PyValue) → Nat
  | [] => 0
  | (_, value) :: rest => max (need value) (needPairs rest) + 1

end

theorem skipSpace_cons {c : Char} {rest : List Char} (h : isSpace c = false) :
    skipSpace (c :: rest) = c :: rest := by
  simp [skipSpace, h]

theorem skipSpace_space (rest : List Char) : skipSpace (' ' :: rest) = skipSpace rest := rfl

theorem parseValue_space (fuel : Nat) (text : List Char) :
    parseValue fuel (' ' :: text) = parseValue fuel text := by
  cases fuel <;> simp [parseValue, skipSpace_space]

theorem parseItems_space (fuel : Nat) (text : List Char) :
    parseItems fuel (' ' :: text) = parseItems fuel text := by
  cases fuel <;> simp [parseItems, parseValue_space]

theorem parsePairs_space (fuel : Nat) (members : PyDict) (text : List Char) :
    parsePairs fuel members (' ' :: text) = parsePairs fuel members text := by
  cases fuel <;> simp [parsePairs, skipSpace_space]

theorem store_new {members : PyDict} {key : String} (value : PyValue)
    (h : PyKey.str key ∉ members.map Prod.fst) :
    store members key value = members ++ [(.str key, value)] := by
  induction members with
  | nil => rfl
  | cons item rest ih =>
    obtain ⟨k, v⟩ := item
    simp only [List.map_cons, List.mem_cons, not_or] at h
    simp [store, Ne.symm h.1, ih h.2]

theorem numberChar_ne {c : Char} (h : isNumberChar c = true) (hn : c ≠ 'e') :
    isSpace c = false ∧ c ≠ '"' ∧ c ≠ '[' ∧ c ≠ '{' ∧ c ≠ 'n' ∧ c ≠ 't' ∧ c ≠ 'f' := by
  refine ⟨?_, ?_, ?_, ?_, ?_, ?_, ?_⟩
  · cases hs : isSpace c with
    | false => rfl
    | true =>
      simp only [isSpace, Bool.or_eq_true, beq_iff_eq] at hs
      rcases hs with ((rfl | rfl) | rfl) | rfl <;> exact absurd h (by decide)
  all_goals (rintro rfl; exact absurd h (by decide))

/-- The text of a number, whatever may delimit it, is read as that number. -/
theorem parseValue_number {fuel : Nat} {token rest : List Char} {v : PyValue} (hne : token ≠ [])
    (htoken : ∀ c ∈ token, isNumberChar c = true) (hr : Delimited rest)
    (hhead : token.head? ≠ some 'e') (hv : parseNumber token = some v) :
    parseValue (fuel + 1) (token ++ rest) = some (v, rest) := by
  obtain ⟨h1, h2⟩ := takeWhile_all htoken hr
  cases token with
  | nil => exact (hne rfl).elim
  | cons c token =>
    have hc : isNumberChar c = true := htoken c (by simp)
    obtain ⟨hs, hq, hl, hb, hn, ht, hf⟩ := numberChar_ne hc (by simpa using hhead)
    simp only [List.cons_append] at h1 h2 ⊢
    simp [parseValue, skipSpace_cons hs, hq, hl, hb, hn, ht, hf, h1, h2, hv]

theorem digit_head {text : List Char} (hne : text ≠ []) (hd : ∀ c ∈ text, isDigit c = true)
    (rest : List Char) : (text ++ rest).head? ≠ some 'e' := by
  cases text with
  | nil => exact (hne rfl).elim
  | cons c text =>
    have hc := hd c (by simp)
    intro h
    simp only [List.cons_append, List.head?_cons, Option.some.injEq] at h
    rw [h] at hc
    exact absurd hc (by decide)

theorem intText_head (n : Int) : intText n ≠ [] ∧ (intText n).head? ≠ some 'e' := by
  unfold intText
  split
  · simp
  · have h := digit_head (natText_ne_nil n.natAbs) (natText_digits n.natAbs) []
    rw [List.append_nil] at h
    exact ⟨natText_ne_nil _, h⟩

theorem decimalText_head (d : Decimal) : decimalText d ≠ [] ∧ (decimalText d).head? ≠ some 'e' := by
  obtain ⟨hne, hw, -⟩ := decimalShape_digits d
  unfold decimalText
  split
  · simp
  · unfold unsignedText
    rw [List.append_assoc]
    exact ⟨by simp [hne], digit_head hne hw _⟩

theorem delimited_more {items : List PyValue} {rest : List Char} :
    Delimited (dumpMoreItems items ++ ']' :: rest) := by
  cases items with
  | nil => exact delimited_cons (by decide)
  | cons item items => exact delimited_cons (by decide)

theorem delimited_morePairs {items : List (PyKey × PyValue)} {rest : List Char} :
    Delimited (dumpMorePairs items ++ '}' :: rest) := by
  cases items with
  | nil => exact delimited_cons (by decide)
  | cons item items => exact delimited_cons (by decide)

theorem dumps_head {v : PyValue} (h : plain v = true) (rest : List Char) :
    ∃ c r, dumps v ++ rest = c :: r ∧ isSpace c = false ∧ c ≠ ']' := by
  have hnumber : ∀ text : List Char, text ≠ [] → (∀ c ∈ text, isNumberChar c = true) →
      text.head? ≠ some 'e' → ∃ c r, text ++ rest = c :: r ∧ isSpace c = false ∧ c ≠ ']' := by
    intro text hne hall hhead
    cases text with
    | nil => exact (hne rfl).elim
    | cons c text =>
      have hc := hall c (by simp)
      refine ⟨c, text ++ rest, rfl, (numberChar_ne hc (by simpa using hhead)).1, ?_⟩
      rintro rfl
      exact absurd hc (by decide)
  cases v with
  | none => exact ⟨'n', _, rfl, by decide, by decide⟩
  | bool b => cases b <;> exact ⟨_, _, rfl, by decide, by decide⟩
  | int n => exact hnumber _ (intText_head n).1 (intText_numberChars n) (intText_head n).2
  | float f =>
    cases f with
    | finite d =>
      exact hnumber _ (decimalText_head d).1 (decimalText_numberChars d) (decimalText_head d).2
    | posInf => cases h
    | negInf => cases h
    | nan => cases h
  | str s => exact ⟨'"', _, rfl, by decide, by decide⟩
  | list items => exact ⟨'[', _, rfl, by decide, by decide⟩
  | tuple items => exact ⟨'[', _, rfl, by decide, by decide⟩
  | dict items => exact ⟨'{', _, rfl, by decide, by decide⟩
  | other t => cases h

theorem parseList_open {fuel : Nat} {text : List Char} {c : Char} {r : List Char}
    (hc : text = c :: r) (hs : isSpace c = false) (hclose : c ≠ ']') :
    parseValue (fuel + 1) ('[' :: text) =
      (parseItems fuel text).map (fun p => (.list p.1, p.2)) := by
  subst hc
  have hopen : isSpace '[' = false := by decide
  simp only [parseValue, skipSpace_cons hopen, skipSpace_cons hs]
  rw [if_neg (by decide), if_pos trivial]
  split
  · rename_i heq; cases heq; exact (hclose rfl).elim
  · rfl

theorem parseDict_open {fuel : Nat} {text : List Char} :
    parseValue (fuel + 1) ('{' :: '"' :: text) =
      (parsePairs fuel [] ('"' :: text)).map (fun p => (.dict p.1, p.2)) := by
  have hopen : isSpace '{' = false := by decide
  have hquote : isSpace '"' = false := by decide
  simp only [parseValue, skipSpace_cons hopen, skipSpace_cons hquote]
  rw [if_neg (by decide), if_neg (by decide), if_pos trivial]
  rfl

mutual

/-- The text of a value, followed by what may delimit it, is read as the value. -/
theorem parseValue_dumps (v : PyValue) (h : plain v = true) (fuel : Nat) (hf : need v ≤ fuel)
    (rest : List Char) (hr : Delimited rest) :
    parseValue fuel (dumps v ++ rest) = some (decoded v, rest) := by
  cases fuel with
  | zero => cases v <;> simp [need] at hf
  | succ fuel =>
    match v with
    | .none => simp [dumps, decoded, parseValue, skipSpace, isSpace, parseWord, List.isPrefixOf]
    | .bool b =>
      cases b <;>
        simp [dumps, decoded, parseValue, skipSpace, isSpace, parseWord, List.isPrefixOf]
    | .int n =>
      obtain ⟨hne, hhead⟩ := intText_head n
      exact parseValue_number hne (intText_numberChars n) hr hhead (parseNumber_intText n)
    | .float (.finite d) =>
      obtain ⟨hne, hhead⟩ := decimalText_head d
      obtain ⟨v, hv⟩ := Option.isSome_iff_exists.mp (parseNumber_decimalText d)
      have hd : decoded (.float (.finite d)) = v := by simp [decoded, hv]
      rw [hd]
      exact parseValue_number hne (decimalText_numberChars d) hr hhead hv
    | .float .posInf => cases h
    | .float .negInf => cases h
    | .float .nan => cases h
    | .str s =>
      have hq := parseString_quoted s.toList rest
      simp [dumps, quote, decoded, parseValue, skipSpace, isSpace, hq]
    | .list items => exact parseValue_list items h fuel (by simpa [need] using hf) rest
    | .tuple items => exact parseValue_list items h fuel (by simpa [need] using hf) rest
    | .dict items =>
      simp only [plain, Bool.and_eq_true, decide_eq_true_eq] at h
      exact parseValue_dict items h.1 h.2 fuel (by simpa [need] using hf) rest
    | .other t => cases h

theorem parseValue_list (items : List PyValue) (h : plainItems items = true) (fuel : Nat)
    (hf : needItems items ≤ fuel) (rest : List Char) :
    parseValue (fuel + 1) ('[' :: dumpItems items ++ [']'] ++ rest) =
      some (.list (decodedItems items), rest) := by
  match items with
  | [] => simp [dumpItems, decodedItems, parseValue, skipSpace, isSpace]
  | item :: items =>
    have hitems := parseItems_dumps (item :: items) (by simp) h fuel hf rest
    simp only [plainItems, Bool.and_eq_true] at h
    obtain ⟨c, r, hc, hs, hclose⟩ := dumps_head h.1 (dumpMoreItems items ++ ']' :: rest)
    have htext : '[' :: dumpItems (item :: items) ++ [']'] ++ rest =
        '[' :: (dumpItems (item :: items) ++ ']' :: rest) := by simp
    rw [← List.append_assoc, ← dumpItems] at hc
    rw [htext, parseList_open hc hs hclose, hitems]
    rfl

theorem parseItems_dumps (items : List PyValue) (hne : items ≠ [])
    (h : plainItems items = true) (fuel : Nat) (hf : needItems items ≤ fuel) (rest : List Char) :
    parseItems fuel (dumpItems items ++ ']' :: rest) = some (decodedItems items, rest) := by
  cases fuel with
  | zero => cases items <;> simp [needItems] at hf hne
  | succ fuel =>
    match items with
    | [] => exact (hne rfl).elim
    | [item] =>
      simp only [plainItems, Bool.and_eq_true] at h
      simp only [needItems] at hf
      have hvalue := parseValue_dumps item h.1 fuel (by omega) (']' :: rest)
        (delimited_cons (by decide))
      simp [parseItems, dumpItems, dumpMoreItems, hvalue, skipSpace, isSpace, decodedItems]
    | item :: next :: items =>
      simp only [plainItems, Bool.and_eq_true] at h
      simp only [needItems] at hf
      have hvalue := parseValue_dumps item h.1 fuel (by omega)
        (dumpMoreItems (next :: items) ++ ']' :: rest) delimited_more
      have hmore := parseItems_dumps (next :: items) (by simp)
        (by simp [plainItems, h.2]) fuel (by simp only [needItems]; omega) rest
      have hcomma : skipSpace (dumpMoreItems (next :: items) ++ ']' :: rest) =
          ',' :: ' ' :: (dumpItems (next :: items) ++ ']' :: rest) := by
        simp [dumpMoreItems, dumpItems, skipSpace, isSpace]
      rw [dumpItems, List.append_assoc]
      simp only [parseItems, hvalue, hcomma, parseItems_space, hmore]
      rfl

theorem parseValue_dict (items : List (PyKey × PyValue)) (hn : (items.map Prod.fst).Nodup)
    (h : plainPairs items = true) (fuel : Nat) (hf : needPairs items ≤ fuel) (rest : List Char) :
    parseValue (fuel + 1) ('{' :: dumpPairs items ++ ['}'] ++ rest) =
      some (.dict (decodedPairs items), rest) := by
  match items with
  | [] => simp [dumpPairs, decodedPairs, parseValue, skipSpace, isSpace]
  | (.other t, value) :: items => cases h
  | (.str key, value) :: items =>
    have hpairs := parsePairs_dumps ((.str key, value) :: items) (by simp) h fuel hf [] hn rest
    have htext : '{' :: dumpPairs ((.str key, value) :: items) ++ ['}'] ++ rest =
        '{' :: (dumpPairs ((.str key, value) :: items) ++ '}' :: rest) := by simp
    have hopen : ∃ text, dumpPairs ((.str key, value) :: items) ++ '}' :: rest = '"' :: text :=
      ⟨_, rfl⟩
    obtain ⟨text, hopen⟩ := hopen
    rw [hopen] at hpairs
    rw [htext, hopen, parseDict_open, hpairs]
    rfl

theorem parsePairs_dumps (items : List (PyKey × PyValue)) (hne : items ≠ [])
    (h : plainPairs items = true) (fuel : Nat) (hf : needPairs items ≤ fuel) (members : PyDict)
    (hn : (members.map Prod.fst ++ items.map Prod.fst).Nodup) (rest : List Char) :
    parsePairs fuel members (dumpPairs items ++ '}' :: rest) =
      some (members ++ decodedPairs items, rest) := by
  have hquote : isSpace '"' = false := by decide
  have hcolon : isSpace ':' = false := by decide
  cases fuel with
  | zero => cases items <;> simp [needPairs] at hf hne
  | succ fuel =>
    match items with
    | [] => exact (hne rfl).elim
    | (.other t, value) :: items => cases h
    | (.str key, value) :: items =>
      simp only [plainPairs, Bool.and_eq_true] at h
      simp only [needPairs] at hf
      have hfresh : PyKey.str key ∉ members.map Prod.fst := by
        intro hmem
        exact (List.nodup_append.mp hn).2.2 _ hmem _ (by simp) rfl
      have hstore := store_new (decoded value) hfresh
      have hvalue := parseValue_dumps value h.1 fuel (by omega)
        (dumpMorePairs items ++ '}' :: rest) delimited_morePairs
      have hkey := parseString_quoted key.toList
        (':' :: ' ' :: (dumps value ++ (dumpMorePairs items ++ '}' :: rest)))
      have htext : dumpPairs ((.str key, value) :: items) ++ '}' :: rest =
          '"' :: (key.toList.flatMap quoteChar ++ '"' :: ':' :: ' ' ::
            (dumps value ++ (dumpMorePairs items ++ '}' :: rest))) := by
        simp [dumpPairs, quote, PyKey.text]
      rw [htext]
      match items with
      | [] =>
        simp only [dumpMorePairs, List.nil_append] at hvalue hkey ⊢
        simp only [parsePairs, skipSpace_cons hquote, hkey, skipSpace_cons hcolon,
          parseValue_space, hvalue]
        simp [skipSpace, isSpace, hstore, decodedPairs]
      | next :: items =>
        have hmore := parsePairs_dumps (next :: items) (by simp) h.2 fuel (by omega)
          (members ++ [(PyKey.str key, decoded value)]) (by simpa using hn) rest
        have hcomma : skipSpace (dumpMorePairs (next :: items) ++ '}' :: rest) =
            ',' :: ' ' :: (dumpPairs (next :: items) ++ '}' :: rest) := by
          simp [dumpMorePairs, dumpPairs, skipSpace, isSpace]
        simp only [parsePairs, skipSpace_cons hquote, hkey, skipSpace_cons hcolon,
          parseValue_space, hvalue, hcomma, String.ofList_toList, hstore, parsePairs_space, hmore]
        simp [decodedPairs]

end

mutual

theorem need_le (v : PyValue) (h : plain v = true) : need v ≤ (dumps v).length := by
  match v with
  | .none => simp [need, dumps]
  | .bool b => cases b <;> simp [need, dumps]
  | .int n =>
    have hne := (intText_head n).1
    simpa [need, dumps, Nat.one_le_iff_ne_zero] using hne
  | .float (.finite d) =>
    have hne := (decimalText_head d).1
    simpa [need, dumps, floatText, Nat.one_le_iff_ne_zero] using hne
  | .float .posInf => cases h
  | .float .negInf => cases h
  | .float .nan => cases h
  | .str s => simp [need, dumps, quote]
  | .list items =>
    have hi := needItems_le items h
    simp only [need, dumps, List.cons_append, List.length_cons, List.length_append]
    omega
  | .tuple items =>
    have hi := needItems_le items h
    simp only [need, dumps, List.cons_append, List.length_cons, List.length_append]
    omega
  | .dict items =>
    simp only [plain, Bool.and_eq_true] at h
    have hi := needPairs_le items h.2
    simp only [need, dumps, List.cons_append, List.length_cons, List.length_append]
    omega
  | .other t => cases h

theorem needItems_le (items : List PyValue) (h : plainItems items = true) :
    needItems items ≤ (dumpItems items).length + 1 := by
  match items with
  | [] => simp [needItems]
  | item :: items =>
    simp only [plainItems, Bool.and_eq_true] at h
    have h1 := need_le item h.1
    have h2 := needMore_le items h.2
    simp only [needItems, dumpItems, List.length_append]
    omega

theorem needMore_le (items : List PyValue) (h : plainItems items = true) :
    needItems items ≤ (dumpMoreItems items).length := by
  match items with
  | [] => simp [needItems]
  | item :: items =>
    simp only [plainItems, Bool.and_eq_true] at h
    have h1 := need_le item h.1
    have h2 := needMore_le items h.2
    simp only [needItems, dumpMoreItems, List.cons_append, List.length_cons, List.length_append]
    omega

theorem needPairs_le (items : List (PyKey × PyValue)) (h : plainPairs items = true) :
    needPairs items ≤ (dumpPairs items).length + 1 := by
  match items with
  | [] => simp [needPairs]
  | (.other t, value) :: items => cases h
  | (.str key, value) :: items =>
    simp only [plainPairs, Bool.and_eq_true] at h
    have h1 := need_le value h.1
    have h2 := needMorePairs_le items h.2
    simp only [needPairs, dumpPairs, List.length_cons, List.length_append]
    omega

theorem needMorePairs_le (items : List (PyKey × PyValue)) (h : plainPairs items = true) :
    needPairs items ≤ (dumpMorePairs items).length := by
  match items with
  | [] => simp [needPairs]
  | (.other t, value) :: items => cases h
  | (.str key, value) :: items =>
    simp only [plainPairs, Bool.and_eq_true] at h
    have h1 := need_le value h.1
    have h2 := needMorePairs_le items h.2
    simp only [needPairs, dumpMorePairs, List.cons_append, List.length_cons, List.length_append]
    omega

end

/-- What is written is read back. -/
theorem loads_dumps {v : PyValue} (h : plain v = true) : loads (dumps v) = .ok (decoded v) := by
  have hn := need_le v h
  have hp := parseValue_dumps v h (2 * (dumps v).length + 1) (by omega) [] delimited_nil
  rw [List.append_nil] at hp
  simp [loads, hp, skipSpace]

mutual

def exact : PyValue → Bool
  | .float (.finite d) => match parseNumber (decimalText d) with
    | some (.float (.finite d')) => d == d'
    | _ => false
  | .list items => exactItems items
  | .tuple _ => false
  | .dict items => exactPairs items
  | _ => true

def exactItems : List PyValue → Bool
  | [] => true
  | item :: rest => exact item && exactItems rest

def exactPairs : List (PyKey × PyValue) → Bool
  | [] => true
  | (_, value) :: rest => exact value && exactPairs rest

end

mutual

theorem decoded_exact (v : PyValue) (h : exact v = true) : decoded v = v := by
  match v with
  | .float (.finite d) =>
    simp only [exact] at h
    simp only [decoded]
    split at h
    · rename_i d' hd
      rw [hd, beq_iff_eq.mp h]
      rfl
    · cases h
  | .list items =>
    simp only [exact] at h
    simp only [decoded, decoded_exactItems items h]
  | .tuple items => cases h
  | .dict items =>
    simp only [exact] at h
    simp only [decoded, decoded_exactPairs items h]
  | .none | .bool _ | .int _ | .str _ | .other _ => rfl
  | .float .posInf | .float .negInf | .float .nan => rfl

theorem decoded_exactItems (items : List PyValue) (h : exactItems items = true) :
    decodedItems items = items := by
  match items with
  | [] => rfl
  | item :: rest =>
    simp only [exactItems, Bool.and_eq_true] at h
    simp only [decodedItems, decoded_exact item h.1, decoded_exactItems rest h.2]

theorem decoded_exactPairs (items : List (PyKey × PyValue)) (h : exactPairs items = true) :
    decodedPairs items = items := by
  match items with
  | [] => rfl
  | (key, value) :: rest =>
    simp only [exactPairs, Bool.and_eq_true] at h
    simp only [decodedPairs, decoded_exact value h.1, decoded_exactPairs rest h.2]

end

theorem loads_dumps_exact {v : PyValue} (h : plain v = true) (he : exact v = true) :
    loads (dumps v) = .ok v := by
  rw [loads_dumps h, decoded_exact v he]

end Json
end PicoDualCore
