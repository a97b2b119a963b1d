import PicoDualCore.MessageSerializer
import Mathlib.Algebra.Order.BigOperators.Group.List
set_option autoImplicit false

/-!
The number of bytes of a value's text, as a sum over the value. What a control character without
a short escape takes is a parameter: six bytes as it is written, one if it were written plainly.
-/

namespace PicoDualCore
namespace Json

def needsEscape (c : Char) : Bool := c.toNat < 32 && c != '\n' && c != '\r' && c != '\t'

def charSize (escape : Nat) (c : Char) : Nat :=
  if needsEscape c then escape else (utf8 (quoteChar c)).length

def textSize (escape : Nat) (s : String) : Nat := 2 + (s.toList.map (charSize escape)).sum

mutual

def size (escape : Nat) : PyValue → Nat
  | .none => 4
  | .bool b => if b then 4 else 5
  | .int n => (intText n).length
  | .float f => (floatText f).length
  | .str s => textSize escape s
  | .list items => 2 + itemsSize escape items
  | .tuple items => 2 + itemsSize escape items
  | .dict items => 2 + pairsSize escape items
  | .other t => textSize escape t

def itemsSize (escape : Nat) : List PyValue → Nat
  | [] => 0
  | item :: rest => size escape item + moreItemsSize escape rest

def moreItemsSize (escape : Nat) : List PyValue → Nat
  | [] => 0
  | item :: rest => 2 + size escape item + moreItemsSize escape rest

def pairsSize (escape : Nat) : List (PyKey × PyValue) → Nat
  | [] => 0
  | (key, value) :: rest =>
    textSize escape key.text + 2 + size escape value + morePairsSize escape rest

def morePairsSize (escape : Nat) : List (PyKey × PyValue) → Nat
  | [] => 0
  | (key, value) :: rest =>
    2 + textSize escape key.text + 2 + size escape value + morePairsSize escape rest

end

theorem length_utf8_quoteChar (c : Char) : (utf8 (quoteChar c)).length = charSize 6 c := by
  have hcontrol : ∀ n : Fin 32, needsEscape (Char.ofNat n) = true →
      (utf8 (quoteChar (Char.ofNat n))).length = 6 := by decide
  unfold charSize
  by_cases h : needsEscape c = true
  · rw [if_pos h]
    have hlow : c.toNat < 32 := by
      simp only [needsEscape, Bool.and_eq_true, decide_eq_true_eq] at h
      exact h.1.1.1
    have hc := hcontrol ⟨c.toNat, hlow⟩
    simp only [Char.ofNat_toNat] at hc
    exact hc h
  · rw [if_neg h]

theorem length_utf8_quote (s : String) : (utf8 (quote s)).length = textSize 6 s := by
  have hbody : ∀ text : List Char,
      (utf8 (text.flatMap quoteChar)).length = (text.map (charSize 6)).sum := by
    intro text
    induction text with
    | nil => rfl
    | cons c rest ih =>
      rw [List.flatMap_cons, utf8_append, List.length_append, ih, length_utf8_quoteChar,
        List.map_cons, List.sum_cons]
  rw [quote, List.cons_append, length_utf8_cons (by decide), utf8_append, List.length_append, hbody,
    textSize, show (utf8 ['"']).length = 1 from rfl]
  omega

theorem ascii_of_isNumberChar {c : Char} (h : isNumberChar c = true) : c.toNat < 128 := by
  simp only [isNumberChar, isDigit, Bool.or_eq_true, Bool.and_eq_true, decide_eq_true_eq,
    beq_iff_eq] at h
  rcases h with ((((h | rfl) | rfl) | rfl) | rfl) | rfl
  · omega
  all_goals decide

theorem length_utf8_intText (n : Int) : (utf8 (intText n)).length = (intText n).length :=
  length_utf8_of_ascii (fun c hc => ascii_of_isNumberChar (intText_numberChars n c hc))

theorem length_utf8_floatText (f : PyFloat) : (utf8 (floatText f)).length = (floatText f).length := by
  cases f with
  | finite d =>
    exact length_utf8_of_ascii
      (fun c hc => ascii_of_isNumberChar (decimalText_numberChars d c hc))
  | _ => rfl

mutual

theorem length_utf8_dumps (v : PyValue) : (utf8 (dumps v)).length = size 6 v := by
  match v with
  | .none => rfl
  | .bool true => rfl
  | .bool false => rfl
  | .int n => exact length_utf8_intText n
  | .float f => exact length_utf8_floatText f
  | .str s => exact length_utf8_quote s
  | .other t => exact length_utf8_quote t
  | .list items =>
    have h := length_utf8_dumpItems items
    rw [dumps, List.cons_append, length_utf8_cons (by decide), utf8_append, List.length_append, h,
      size, show (utf8 [']']).length = 1 from rfl]
    omega
  | .tuple items =>
    have h := length_utf8_dumpItems items
    rw [dumps, List.cons_append, length_utf8_cons (by decide), utf8_append, List.length_append, h,
      size, show (utf8 [']']).length = 1 from rfl]
    omega
  | .dict items =>
    have h := length_utf8_dumpPairs items
    rw [dumps, List.cons_append, length_utf8_cons (by decide), utf8_append, List.length_append, h,
      size, show (utf8 ['}']).length = 1 from rfl]
    omega

theorem length_utf8_dumpItems (items : List PyValue) :
    (utf8 (dumpItems items)).length = itemsSize 6 items := by
  match items with
  | [] => rfl
  | item :: rest =>
    rw [dumpItems, utf8_append, List.length_append, length_utf8_dumps item,
      length_utf8_dumpMoreItems rest, itemsSize]

theorem length_utf8_dumpMoreItems (items : List PyValue) :
    (utf8 (dumpMoreItems items)).length = moreItemsSize 6 items := by
  match items with
  | [] => rfl
  | item :: rest =>
    rw [dumpMoreItems, List.cons_append, List.cons_append, length_utf8_cons (by decide),
      length_utf8_cons (by decide), utf8_append, List.length_append, length_utf8_dumps item,
      length_utf8_dumpMoreItems rest, moreItemsSize]
    omega

theorem length_utf8_dumpPairs (items : List (PyKey × PyValue)) :
    (utf8 (dumpPairs items)).length = pairsSize 6 items := by
  match items with
  | [] => rfl
  | (key, value) :: rest =>
    have hkey := length_utf8_quote key.text
    have hvalue := length_utf8_dumps value
    have hrest := length_utf8_dumpMorePairs rest
    simp only [dumpPairs, utf8_append, List.length_append,
      length_utf8_cons (show (':').toNat < 128 by decide),
      length_utf8_cons (show (' ').toNat < 128 by decide), hkey, hvalue, hrest, pairsSize]
    omega

theorem length_utf8_dumpMorePairs (items : List (PyKey × PyValue)) :
    (utf8 (dumpMorePairs items)).length = morePairsSize 6 items := by
  match items with
  | [] => rfl
  | (key, value) :: rest =>
    have hkey := length_utf8_quote key.text
    have hvalue := length_utf8_dumps value
    have hrest := length_utf8_dumpMorePairs rest
    simp only [dumpMorePairs, utf8_append, List.length_append, List.cons_append,
      length_utf8_cons (show (':').toNat < 128 by decide),
      length_utf8_cons (show (',').toNat < 128 by decide),
      length_utf8_cons (show (' ').toNat < 128 by decide), hkey, hvalue, hrest, morePairsSize]
    omega

end

def escapesIn (s : String) : Nat := s.toList.countP needsEscape

mutual

def escapes : PyValue → Nat
  | .str s => escapesIn s
  | .list items => itemsEscapes items
  | .tuple items => itemsEscapes items
  | .dict items => pairsEscapes items
  | .other t => escapesIn t
  | _ => 0

def itemsEscapes : List PyValue → Nat
  | [] => 0
  | item :: rest => escapes item + itemsEscapes rest

def pairsEscapes : List (PyKey × PyValue) → Nat
  | [] => 0
  | (key, value) :: rest => escapesIn key.text + escapes value + pairsEscapes rest

end

theorem textSize_escapes (s : String) : textSize 6 s = textSize 1 s + 5 * escapesIn s := by
  have hsum : ∀ text : List Char, (text.map (charSize 6)).sum =
      (text.map (charSize 1)).sum + 5 * text.countP needsEscape := by
    intro text
    induction text with
    | nil => rfl
    | cons c rest ih =>
      rw [List.map_cons, List.sum_cons, List.map_cons, List.sum_cons, ih, List.countP_cons]
      by_cases h : needsEscape c = true
      · simp only [charSize, h, if_true]
        omega
      · simp only [charSize, h]
        simp only [Bool.false_eq_true, if_false]
        omega
  rw [textSize, textSize, escapesIn, hsum]
  omega

mutual

/-- Each escape takes five bytes more than a plain character. -/
theorem size_escapes (v : PyValue) : size 6 v = size 1 v + 5 * escapes v := by
  match v with
  | .none | .bool _ | .int _ | .float _ => simp [size, escapes]
  | .str s => exact textSize_escapes s
  | .other t => exact textSize_escapes t
  | .list items =>
    rw [size, size, escapes, (itemsSize_escapes items).1]
    omega
  | .tuple items =>
    rw [size, size, escapes, (itemsSize_escapes items).1]
    omega
  | .dict items =>
    rw [size, size, escapes, (pairsSize_escapes items).1]
    omega

theorem itemsSize_escapes (items : List PyValue) :
    itemsSize 6 items = itemsSize 1 items + 5 * itemsEscapes items ∧
    moreItemsSize 6 items = moreItemsSize 1 items + 5 * itemsEscapes items := by
  match items with
  | [] => exact ⟨rfl, rfl⟩
  | item :: rest =>
    have hitem := size_escapes item
    have hrest := (itemsSize_escapes rest).2
    simp only [itemsSize, moreItemsSize, itemsEscapes]
    omega

theorem pairsSize_escapes (items : List (PyKey × PyValue)) :
    pairsSize 6 items = pairsSize 1 items + 5 * pairsEscapes items ∧
    morePairsSize 6 items = morePairsSize 1 items + 5 * pairsEscapes items := by
  match items with
  | [] => exact ⟨rfl, rfl⟩
  | (key, value) :: rest =>
    have hkey := textSize_escapes key.text
    have hvalue := size_escapes value
    have hrest := (pairsSize_escapes rest).2
    simp only [pairsSize, morePairsSize, pairsEscapes]
    omega

end

theorem charSize_le (c : Char) : charSize 1 c ≤ max 2 c.utf8Size := by
  have hone : (utf8 [c]).length = c.utf8Size := by
    simp [utf8, String.length_utf8EncodeChar]
  have htwo : ∀ d : Char, d.toNat < 128 → (utf8 ['\\', d]).length = 2 := by
    intro d hd
    rw [length_utf8_cons (by decide), length_utf8_cons hd]
    rfl
  unfold charSize
  by_cases h : needsEscape c = true
  · rw [if_pos h]
    omega
  · rw [if_neg h]
    unfold quoteChar
    split_ifs with h1 h2 h3 h4 h5 h6
    · rw [htwo _ (by decide)]
      omega
    · rw [htwo _ (by decide)]
      omega
    · omega
    · rw [htwo _ (by decide)]
      omega
    · rw [htwo _ (by decide)]
      omega
    · rw [htwo _ (by decide)]
      omega
    · exact absurd (by simp [needsEscape, h4, h5, h6]; omega) h

theorem textSize_le (s : String) : textSize 1 s ≤ 2 + 2 * s.utf8ByteSize := by
  have hsum : ∀ text : List Char, (text.map (charSize 1)).sum ≤ 2 * (utf8 text).length := by
    intro text
    induction text with
    | nil => simp
    | cons c rest ih =>
      have hc := charSize_le c
      have hpos := Char.utf8Size_pos c
      rw [List.map_cons, List.sum_cons, utf8_cons, List.length_append,
        String.length_utf8EncodeChar]
      omega
  have := hsum s.toList
  rw [length_utf8_toList] at this
  rw [textSize]
  omega

theorem textSize_le_length (s : String) : textSize 1 s ≤ 2 + 4 * s.toList.length := by
  have hsum : ∀ text : List Char, (text.map (charSize 1)).sum ≤ 4 * text.length := by
    intro text
    induction text with
    | nil => simp
    | cons c rest ih =>
      have hc := charSize_le c
      have hfour := Char.utf8Size_le_four c
      rw [List.map_cons, List.sum_cons, List.length_cons]
      omega
  have := hsum s.toList
  rw [textSize]
  omega

theorem digitsUpTo_length (fuel n : Nat) (tail : List Char) {k : Nat} (hk : 0 < k)
    (h : n < 10 ^ k) : (digitsUpTo fuel n tail).length ≤ k + tail.length := by
  induction fuel generalizing n tail k with
  | zero => simp [digitsUpTo]
  | succ fuel ih =>
    unfold digitsUpTo
    by_cases hn : n < 10
    · rw [if_pos hn, List.length_cons]
      omega
    · rw [if_neg hn]
      cases k with
      | zero => omega
      | succ k =>
        cases k with
        | zero => omega
        | succ k =>
          have hdiv : n / 10 < 10 ^ (k + 1) := by
            rw [Nat.div_lt_iff_lt_mul (by omega), ← Nat.pow_succ]
            exact h
          have := ih (n / 10) (digitChar (n % 10) :: tail) (by omega) hdiv
          rw [List.length_cons] at this
          omega

theorem natText_length {n k : Nat} (hk : 0 < k) (h : n < 10 ^ k) : (natText n).length ≤ k :=
  digitsUpTo_length _ _ _ hk h

theorem size_nat_le {n : Int} {k : Nat} (hk : 0 < k) (hn : 0 ≤ n) (h : n.natAbs < 10 ^ k)
    (escape : Nat) : size escape (.int n) ≤ k := by
  rw [size, intText, if_neg (by omega)]
  exact natText_length hk h

theorem size_int_le {n : Int} {k : Nat} (hk : 0 < k) (h : n.natAbs < 10 ^ k) (escape : Nat) :
    size escape (.int n) ≤ k + 1 := by
  have hlength := natText_length hk h
  rw [size, intText]
  by_cases hn : n < 0
  · rw [if_pos hn, List.length_cons]
    omega
  · rw [if_neg hn]
    omega

theorem size_list_le {items : List PyValue} {bound : Nat}
    (h : ∀ item ∈ items, size 1 item ≤ bound) :
    size 1 (.list items) ≤ 2 + items.length * (bound + 2) := by
  have hmore : ∀ items : List PyValue, (∀ item ∈ items, size 1 item ≤ bound) →
      moreItemsSize 1 items ≤ items.length * (bound + 2) := by
    intro items
    induction items with
    | nil => simp [moreItemsSize]
    | cons item rest ih =>
      intro h
      have hitem := h item List.mem_cons_self
      have hrest := ih (fun v hv => h v (List.mem_cons_of_mem _ hv))
      rw [moreItemsSize, List.length_cons, Nat.succ_mul]
      omega
  cases items with
  | nil => simp [size, itemsSize]
  | cons item rest =>
    have hitem := h item List.mem_cons_self
    have hrest := hmore rest (fun v hv => h v (List.mem_cons_of_mem _ hv))
    rw [size, itemsSize, List.length_cons, Nat.succ_mul]
    omega

def memberBound (bound : String × Nat) : Nat := textSize 1 bound.1 + 4 + bound.2

def dictBound (bounds : List (String × Nat)) : Nat := 2 + (bounds.map memberBound).sum

theorem size_dict_le_of_more {items : PyDict} {bounds : List (String × Nat)}
    (h : morePairsSize 1 items ≤ (bounds.map memberBound).sum) :
    size 1 (.dict items) ≤ dictBound bounds := by
  rw [size, dictBound]
  cases items with
  | nil => simp [pairsSize]
  | cons item rest =>
    obtain ⟨key, value⟩ := item
    rw [morePairsSize] at h
    rw [pairsSize]
    omega

/-- Every name occurs at most once, so each bound is used at most once. -/
theorem size_dict_le {items : PyDict} {bounds : List (String × Nat)}
    (hn : (items.map Prod.fst).Nodup)
    (h : ∀ item ∈ items, ∃ bound ∈ bounds, item.1 = .str bound.1 ∧ size 1 item.2 ≤ bound.2) :
    size 1 (.dict items) ≤ dictBound bounds := by
  have hmore : ∀ (items : PyDict) (bounds : List (String × Nat)), (items.map Prod.fst).Nodup →
      (∀ item ∈ items, ∃ bound ∈ bounds, item.1 = .str bound.1 ∧ size 1 item.2 ≤ bound.2) →
        morePairsSize 1 items ≤ (bounds.map memberBound).sum := by
    intro items
    induction items with
    | nil => simp [morePairsSize]
    | cons item rest ih =>
      intro bounds hn h
      obtain ⟨key, value⟩ := item
      obtain ⟨bound, hbound, hkey, hvalue⟩ := h (key, value) List.mem_cons_self
      simp only at hkey hvalue
      subst hkey
      rw [List.map_cons, List.nodup_cons] at hn
      obtain ⟨before, after, rfl⟩ := List.append_of_mem hbound
      have hrest := ih (before ++ after) hn.2 (fun other hother => by
        obtain ⟨b, hb, hbkey, hbvalue⟩ := h other (List.mem_cons_of_mem _ hother)
        refine ⟨b, ?_, hbkey, hbvalue⟩
        have hne : b ≠ bound := by
          rintro rfl
          exact hn.1 (List.mem_map.mpr ⟨other, hother, hbkey⟩)
        simp only [List.mem_append, List.mem_cons, hne, false_or] at hb
        exact List.mem_append.mpr hb)
      rw [morePairsSize]
      simp only [List.map_append, List.sum_append, List.map_cons, List.sum_cons, memberBound,
        PyKey.text] at hrest ⊢
      omega
  exact size_dict_le_of_more (hmore items bounds hn h)

theorem size_members_le {items : PyDict} {bounds : List (String × Nat)}
    (h : List.Forall₂ (fun item bound => item.1 = .str bound.1 ∧ size 1 item.2 ≤ bound.2)
      items bounds) : size 1 (.dict items) ≤ dictBound bounds := by
  have hmore : ∀ (items : PyDict) (bounds : List (String × Nat)),
      List.Forall₂ (fun item bound => item.1 = PyKey.str bound.1 ∧ size 1 item.2 ≤ bound.2)
        items bounds → morePairsSize 1 items ≤ (bounds.map memberBound).sum := by
    intro items bounds h
    induction h with
    | nil => exact Nat.le_refl 0
    | @cons item bound rest bounds hfirst hrest ih =>
      obtain ⟨key, value⟩ := item
      obtain ⟨hkey, hvalue⟩ := hfirst
      simp only at hkey hvalue
      subst hkey
      rw [morePairsSize, List.map_cons, List.sum_cons, memberBound, PyKey.text]
      omega
  exact size_dict_le_of_more (hmore items bounds h)

mutual

/-- No float of the value takes more than so many characters. -/
def floatsWithin (limit : Nat) : PyValue → Bool
  | .float f => decide ((floatText f).length ≤ limit)
  | .list items => itemsFloatsWithin limit items
  | .tuple items => itemsFloatsWithin limit items
  | .dict items => pairsFloatsWithin limit items
  | _ => true

def itemsFloatsWithin (limit : Nat) : List PyValue → Bool
  | [] => true
  | item :: rest => floatsWithin limit item && itemsFloatsWithin limit rest

def pairsFloatsWithin (limit : Nat) : List (PyKey × PyValue) → Bool
  | [] => true
  | (_, value) :: rest => floatsWithin limit value && pairsFloatsWithin limit rest

end

/-- A value as `loads` returns one: distinct string keys, and floats of at most so many
characters. -/
structure Loaded (limit : Nat) (v : PyValue) : Prop where
  plain : plain v = true
  floats : floatsWithin limit v = true

theorem Loaded.float {limit : Nat} {f : PyFloat} (h : Loaded limit (.float f)) (escape : Nat) :
    size escape (.float f) ≤ limit := by
  have := h.floats
  simpa [floatsWithin, size] using this

theorem Loaded.items {limit : Nat} {items : List PyValue} (h : Loaded limit (.list items)) :
    ∀ item ∈ items, Loaded limit item := by
  have hplain : plainItems items = true := h.plain
  have hfloats : itemsFloatsWithin limit items = true := h.floats
  clear h
  induction items with
  | nil => simp
  | cons item rest ih =>
    simp only [plainItems, itemsFloatsWithin, Bool.and_eq_true] at hplain hfloats
    intro v hv
    cases List.mem_cons.mp hv with
    | inl heq => exact heq ▸ ⟨hplain.1, hfloats.1⟩
    | inr hmem => exact ih hplain.2 hfloats.2 v hmem

theorem Loaded.nodup {limit : Nat} {items : PyDict} (h : Loaded limit (.dict items)) :
    (items.map Prod.fst).Nodup := by
  have := h.plain
  simp only [Json.plain, Bool.and_eq_true, decide_eq_true_eq] at this
  exact this.1

theorem Loaded.members {limit : Nat} {items : PyDict} (h : Loaded limit (.dict items)) :
    ∀ item ∈ items, item.1 = .str item.1.text ∧ items.get? item.1.text = some item.2 ∧
      Loaded limit item.2 := by
  have hplain := h.plain
  simp only [Json.plain, Bool.and_eq_true, decide_eq_true_eq] at hplain
  have hfloats : pairsFloatsWithin limit items = true := h.floats
  obtain ⟨hn, hplain⟩ := hplain
  clear h
  induction items with
  | nil => simp
  | cons item rest ih =>
    obtain ⟨key, value⟩ := item
    cases key with
    | other t => cases hplain
    | str key =>
      simp only [plainPairs, pairsFloatsWithin, Bool.and_eq_true] at hplain hfloats
      rw [List.map_cons, List.nodup_cons] at hn
      intro entry hentry
      cases List.mem_cons.mp hentry with
      | inl heq =>
        subst heq
        exact ⟨rfl, by simp [PyDict.get?, PyKey.text], hplain.1, hfloats.1⟩
      | inr hmem =>
        obtain ⟨hstr, hget, hloaded⟩ := ih hfloats.2 hn.2 hplain.2 entry hmem
        refine ⟨hstr, ?_, hloaded⟩
        have hne : PyKey.str key ≠ .str entry.1.text := by
          intro heq
          exact hn.1 (List.mem_map.mpr ⟨entry, hmem, by rw [hstr, heq]⟩)
        rw [PyDict.get?, if_neg hne]
        exact hget

end Json
end PicoDualCore
