import PicoDualCore.JsonReadBack
import Mathlib.Data.List.Nodup
import Mathlib.Data.List.Perm.Subperm
set_option autoImplicit false

namespace PicoDualCore

inductive Meaning where
  | none
  | number (q : ℚ)
  | text (s : String)
  | list (items : List Meaning)
  | tuple (items : List Meaning)
  | object (fields : PyKey → Option Meaning)
  | other

mutual

noncomputable def PyValue.meaning : PyValue → Meaning
  | .none => .none
  | .bool b => .number (if b then 1 else 0)
  | .int n => .number n
  | .float (.finite d) => .number d.value
  | .float _ => .other
  | .str s => .text s
  | .list items => .list (meaningItems items)
  | .tuple items => .tuple (meaningItems items)
  | .dict items => .object (meaningFields items)
  | .other _ => .other

noncomputable def meaningItems : List PyValue → List Meaning
  | [] => []
  | item :: rest => item.meaning :: meaningItems rest

noncomputable def meaningFields : List (PyKey × PyValue) → PyKey → Option Meaning
  | [], _ => none
  | (k, v) :: rest, key => if k = key then some v.meaning else meaningFields rest key

end

theorem meaningItems_eq (items : List PyValue) : meaningItems items = items.map PyValue.meaning := by
  induction items with
  | nil => rfl
  | cons item rest ih => rw [meaningItems, ih, List.map_cons]

theorem meaningFields_eq (items : PyDict) (key : PyKey) :
    meaningFields items key = (items.item? key).map PyValue.meaning := by
  induction items with
  | nil => rfl
  | cons item rest ih =>
    obtain ⟨k, v⟩ := item
    by_cases hk : k = key <;> simp [meaningFields, PyDict.item?, hk, ih]

theorem item?_eq_none_iff {items : PyDict} {key : PyKey} :
    items.item? key = none ↔ key ∉ items.map Prod.fst := by
  induction items with
  | nil => simp [PyDict.item?]
  | cons item rest ih =>
    obtain ⟨k, v⟩ := item
    by_cases hk : k = key
    · simp [PyDict.item?, hk]
    · simp [PyDict.item?, hk, Ne.symm hk, ih]

theorem item?_eq_some_iff {items : PyDict} (h : (items.map Prod.fst).Nodup) {key : PyKey}
    {v : PyValue} : items.item? key = some v ↔ (key, v) ∈ items := by
  induction items with
  | nil => simp [PyDict.item?]
  | cons item rest ih =>
    obtain ⟨k, w⟩ := item
    rw [List.map_cons, List.nodup_cons] at h
    by_cases hk : k = key
    · subst hk
      have hnot : (k, v) ∉ rest := fun hmem => h.1 (List.mem_map.mpr ⟨(k, v), hmem, rfl⟩)
      simp [PyDict.item?, hnot, eq_comm]
    · simp [PyDict.item?, hk, Ne.symm hk, ih h.2]

theorem fields_eq {xs ys : PyDict} (hx : (xs.map Prod.fst).Nodup)
    (hlength : xs.length = ys.length)
    (h : ∀ key v, xs.item? key = some v → ∃ w, ys.item? key = some w ∧ v.meaning = w.meaning) :
    meaningFields xs = meaningFields ys := by
  have hsubset : xs.map Prod.fst ⊆ ys.map Prod.fst := by
    intro key hkey
    by_contra hno
    cases hget : xs.item? key with
    | none => exact item?_eq_none_iff.mp hget hkey
    | some v =>
      obtain ⟨w, hw, -⟩ := h key v hget
      rw [item?_eq_none_iff.mpr hno] at hw
      cases hw
  have hperm : (xs.map Prod.fst).Perm (ys.map Prod.fst) :=
    (List.Nodup.subperm hx hsubset).perm_of_length_le (by simp [hlength])
  funext key
  rw [meaningFields_eq, meaningFields_eq]
  cases hget : xs.item? key with
  | none =>
    have hno : key ∉ ys.map Prod.fst := fun hmem =>
      item?_eq_none_iff.mp hget (hperm.mem_iff.mpr hmem)
    rw [item?_eq_none_iff.mpr hno]
  | some v =>
    obtain ⟨w, hw, hsame⟩ := h key v hget
    rw [hw, Option.map_some, Option.map_some, hsame]

theorem length_eq_of_fields {xs ys : PyDict} (hx : (xs.map Prod.fst).Nodup)
    (hy : (ys.map Prod.fst).Nodup) (h : meaningFields xs = meaningFields ys) :
    xs.length = ys.length := by
  have hmem : ∀ key, key ∈ xs.map Prod.fst ↔ key ∈ ys.map Prod.fst := by
    intro key
    have hkey := congrFun h key
    rw [meaningFields_eq, meaningFields_eq] at hkey
    rw [← not_iff_not, ← item?_eq_none_iff, ← item?_eq_none_iff]
    constructor
    · intro hnone
      rw [hnone] at hkey
      simpa using hkey.symm
    · intro hnone
      rw [hnone] at hkey
      simpa using hkey
  have hperm := ((List.perm_ext_iff_of_nodup hx hy).mpr hmem).length_eq
  simpa using hperm

/-- Two dicts are the same when they have one size and the one has what the other has. -/
theorem fields_iff {xs ys : PyDict} (hx : (xs.map Prod.fst).Nodup) (hy : (ys.map Prod.fst).Nodup) :
    (xs.length = ys.length ∧
      ∀ item ∈ xs, ∃ w, ys.item? item.1 = some w ∧ item.2.meaning = w.meaning) ↔
      meaningFields xs = meaningFields ys := by
  constructor
  · rintro ⟨hlength, h⟩
    exact fields_eq hx hlength (fun key v hget => h (key, v) ((item?_eq_some_iff hx).mp hget))
  · intro h
    refine ⟨length_eq_of_fields hx hy h, fun item hitem => ?_⟩
    obtain ⟨key, v⟩ := item
    have hkey := congrFun h key
    rw [meaningFields_eq, meaningFields_eq, (item?_eq_some_iff hx).mpr hitem,
      Option.map_some] at hkey
    obtain ⟨w, hw, hsame⟩ := Option.map_eq_some_iff.mp hkey.symm
    exact ⟨w, hw, hsame.symm⟩

theorem plain_number {v : PyValue} {p : Decimal} (h : v.number? = some p) :
    v.meaning = .number p.value := by
  cases v with
  | bool b =>
    cases h
    cases b <;> simp [PyValue.meaning, Decimal.value, Decimal.ofInt]
  | int n =>
    cases h
    simp [PyValue.meaning, Decimal.value, Decimal.ofInt]
  | float f =>
    cases f with
    | finite d =>
      cases h
      rfl
    | _ => cases h
  | _ => cases h

theorem meaning_ne_number {v : PyValue} (h : v.number? = none) (q : ℚ) : v.meaning ≠ .number q := by
  cases v with
  | float f =>
    cases f with
    | finite d => cases h
    | _ => simp [PyValue.meaning]
  | bool b => cases h
  | int n => cases h
  | _ => simp [PyValue.meaning]

theorem pyEq_numbers {v w : PyValue} {p q : Decimal} (hv : v.number? = some p)
    (hw : w.number? = some q) : v.pyEq w = p.beq q := by
  unfold PyValue.pyEq
  split <;> first | cases hv | cases hw | skip
  rw [hv, hw]

theorem pyEq_number {v w : PyValue} {p : Decimal} (hv : v.number? = some p)
    (hw : w.number? = none) : v.pyEq w = false ∧ w.pyEq v = false := by
  unfold PyValue.pyEq
  constructor
  · split <;> first | cases hv | cases hw | skip
    rw [hv, hw]
  · split <;> first | cases hv | cases hw | skip
    rw [hv, hw]

theorem plainItems_mem {items : List PyValue} (h : Json.plainItems items = true) :
    ∀ v ∈ items, Json.plain v = true := by
  induction items with
  | nil => simp
  | cons item rest ih =>
    rw [Json.plainItems, Bool.and_eq_true] at h
    exact List.forall_mem_cons.mpr ⟨h.1, ih h.2⟩

theorem plainPairs_mem {items : List (PyKey × PyValue)} (h : Json.plainPairs items = true) :
    ∀ item ∈ items, Json.plain item.2 = true := by
  induction items with
  | nil => simp
  | cons item rest ih =>
    obtain ⟨key, v⟩ := item
    cases key with
    | other t => cases h
    | str key =>
      rw [Json.plainPairs, Bool.and_eq_true] at h
      exact List.forall_mem_cons.mpr ⟨h.1, ih h.2⟩

theorem plain_item? {items : PyDict} (h : Json.plainPairs items = true) {key : PyKey} {v : PyValue}
    (hget : items.item? key = some v) : Json.plain v = true := by
  induction items with
  | nil => cases hget
  | cons item rest ih =>
    obtain ⟨k, w⟩ := item
    have hmem := plainPairs_mem h
    rw [PyDict.item?] at hget
    split at hget
    · cases hget
      exact hmem _ List.mem_cons_self
    · refine ih ?_ hget
      cases k with
      | other t => cases h
      | str key =>
        rw [Json.plainPairs, Bool.and_eq_true] at h
        exact h.2

theorem plain_shape {v : PyValue} (hv : Json.plain v = true) (hnumber : v.number? = none) :
    v = .none ∨ (∃ s, v = .str s) ∨ (∃ xs, v = .list xs) ∨ (∃ xs, v = .tuple xs) ∨
      ∃ xs, v = .dict xs := by
  cases v with
  | float f =>
    cases f with
    | finite d => cases hnumber
    | _ => cases hv
  | bool b => cases hnumber
  | int n => cases hnumber
  | other t => cases hv
  | _ => simp

mutual

/-- `==` compares meanings. -/
theorem pyEq_iff (v w : PyValue) (hv : Json.plain v = true) (hw : Json.plain w = true) :
    v.pyEq w = true ↔ v.meaning = w.meaning := by
  cases hq : w.number? with
  | some q =>
    rw [plain_number hq]
    cases hp : v.number? with
    | some p => rw [plain_number hp, pyEq_numbers hp hq, Decimal.beq_iff, Meaning.number.injEq]
    | none => simp [(pyEq_number hq hp).2, meaning_ne_number hp]
  | none =>
    cases hp : v.number? with
    | some p => simp [(pyEq_number hp hq).1, plain_number hp, (meaning_ne_number hq _).symm]
    | none =>
      match v with
      | .none =>
        rcases plain_shape hw hq with rfl | ⟨t, rfl⟩ | ⟨ys, rfl⟩ | ⟨ys, rfl⟩ | ⟨ys, rfl⟩ <;>
          simp [PyValue.pyEq, PyValue.number?, PyValue.meaning]
      | .str s =>
        rcases plain_shape hw hq with rfl | ⟨t, rfl⟩ | ⟨ys, rfl⟩ | ⟨ys, rfl⟩ | ⟨ys, rfl⟩ <;>
          simp [PyValue.pyEq, PyValue.number?, PyValue.meaning]
      | .list xs =>
        rcases plain_shape hw hq with rfl | ⟨t, rfl⟩ | ⟨ys, rfl⟩ | ⟨ys, rfl⟩ | ⟨ys, rfl⟩
        case inr.inr.inl =>
          rw [PyValue.pyEq, pyEqItems_iff xs ys hv hw]
          simp [PyValue.meaning]
        all_goals simp [PyValue.pyEq, PyValue.number?, PyValue.meaning]
      | .tuple xs =>
        rcases plain_shape hw hq with rfl | ⟨t, rfl⟩ | ⟨ys, rfl⟩ | ⟨ys, rfl⟩ | ⟨ys, rfl⟩
        case inr.inr.inr.inl =>
          rw [PyValue.pyEq, pyEqItems_iff xs ys hv hw]
          simp [PyValue.meaning]
        all_goals simp [PyValue.pyEq, PyValue.number?, PyValue.meaning]
      | .dict xs =>
        rcases plain_shape hw hq with rfl | ⟨t, rfl⟩ | ⟨ys, rfl⟩ | ⟨ys, rfl⟩ | ⟨ys, rfl⟩
        case inr.inr.inr.inr =>
          rw [Json.plain, Bool.and_eq_true, decide_eq_true_eq] at hv hw
          rw [PyValue.pyEq, Bool.and_eq_true, beq_iff_eq, pyEqDict_iff xs ys hv.2 hw.2,
            PyValue.meaning, PyValue.meaning, Meaning.object.injEq]
          exact fields_iff hv.1 hw.1
        all_goals simp [PyValue.pyEq, PyValue.number?, PyValue.meaning]

theorem pyEqItems_iff (xs ys : List PyValue) (hx : Json.plainItems xs = true)
    (hy : Json.plainItems ys = true) :
    PyValue.pyEqItems xs ys = true ↔ meaningItems xs = meaningItems ys := by
  match xs with
  | [] => cases ys <;> simp [PyValue.pyEqItems, meaningItems]
  | x :: xs =>
    cases ys with
    | nil => simp [PyValue.pyEqItems, meaningItems]
    | cons y ys =>
      rw [Json.plainItems, Bool.and_eq_true] at hx hy
      rw [PyValue.pyEqItems, Bool.and_eq_true, pyEq_iff x y hx.1 hy.1, pyEqItems_iff xs ys hx.2 hy.2,
        meaningItems, meaningItems, List.cons.injEq]

theorem pyEqDict_iff (xs : List (PyKey × PyValue)) (ys : PyDict) (hx : Json.plainPairs xs = true)
    (hy : Json.plainPairs ys = true) :
    PyValue.pyEqDict xs ys = true ↔
      ∀ item ∈ xs, ∃ w, ys.item? item.1 = some w ∧ item.2.meaning = w.meaning := by
  match xs with
  | [] => simp [PyValue.pyEqDict]
  | (k, v) :: rest =>
    have hplain := plainPairs_mem hx
    have hrest : Json.plainPairs rest = true := by
      cases k with
      | other t => cases hx
      | str key =>
        rw [Json.plainPairs, Bool.and_eq_true] at hx
        exact hx.2
    rw [PyValue.pyEqDict, Bool.and_eq_true, pyEqDict_iff rest ys hrest hy, List.forall_mem_cons]
    refine and_congr_left (fun _ => ?_)
    cases hget : ys.item? k with
    | none => simp
    | some w =>
      have hw := plain_item? hy hget
      simpa using pyEq_iff v w (hplain (k, v) List.mem_cons_self) hw

end

mutual

/-- The same value, with the items of its dicts in another order. -/
def Reordered : PyValue → PyValue → Prop
  | .list xs, .list ys => ReorderedItems xs ys
  | .tuple xs, .tuple ys => ReorderedItems xs ys
  | .dict xs, .dict ys => ∃ zs, ReorderedPairs xs zs ∧ zs.Perm ys
  | v, w => v = w

def ReorderedItems : List PyValue → List PyValue → Prop
  | [], [] => True
  | x :: xs, y :: ys => Reordered x y ∧ ReorderedItems xs ys
  | _, _ => False

def ReorderedPairs : List (PyKey × PyValue) → List (PyKey × PyValue) → Prop
  | [], [] => True
  | (k, v) :: xs, (l, w) :: ys => k = l ∧ Reordered v w ∧ ReorderedPairs xs ys
  | _, _ => False

end

theorem plainPairs_iff_mem {items : List (PyKey × PyValue)} : Json.plainPairs items = true ↔
    ∀ item ∈ items, (∃ key, item.1 = .str key) ∧ Json.plain item.2 = true := by
  induction items with
  | nil => simp [Json.plainPairs]
  | cons item rest ih =>
    obtain ⟨key, v⟩ := item
    rw [List.forall_mem_cons, ← ih]
    cases key <;> simp [Json.plainPairs]

theorem plain_perm {xs ys : PyDict} (h : xs.Perm ys) (hy : Json.plain (.dict ys) = true) :
    Json.plain (.dict xs) = true := by
  rw [Json.plain, Bool.and_eq_true, decide_eq_true_eq, plainPairs_iff_mem] at hy ⊢
  exact ⟨(h.map Prod.fst).nodup_iff.mpr hy.1, fun item hitem => hy.2 item (h.mem_iff.mp hitem)⟩

theorem meaningFields_perm {xs ys : PyDict} (h : xs.Perm ys) (hy : (ys.map Prod.fst).Nodup) :
    meaningFields xs = meaningFields ys := by
  have hx : (xs.map Prod.fst).Nodup := (h.map Prod.fst).nodup_iff.mpr hy
  refine (fields_iff hx hy).mp ⟨h.length_eq, fun item hitem => ⟨item.2, ?_, rfl⟩⟩
  exact (item?_eq_some_iff hy).mpr (h.mem_iff.mp hitem)

mutual

theorem Reordered.meaning {v w : PyValue} (h : Reordered v w) (hw : Json.plain w = true) :
    v.meaning = w.meaning := by
  match v with
  | .list xs =>
    cases w with
    | list ys => rw [PyValue.meaning, PyValue.meaning, ReorderedItems.meaning h hw]
    | _ => cases h
  | .tuple xs =>
    cases w with
    | tuple ys => rw [PyValue.meaning, PyValue.meaning, ReorderedItems.meaning h hw]
    | _ => cases h
  | .dict xs =>
    cases w with
    | dict ys =>
      obtain ⟨zs, hpairs, hperm⟩ := h
      have hz := plain_perm hperm hw
      rw [Json.plain, Bool.and_eq_true, decide_eq_true_eq] at hz hw
      rw [PyValue.meaning, PyValue.meaning, ReorderedPairs.meaning hpairs hz.2,
        meaningFields_perm hperm hw.1]
    | _ => cases h
  | .none => cases w <;> cases h; rfl
  | .bool b => cases w <;> cases h; rfl
  | .int n => cases w <;> cases h; rfl
  | .float f => cases w <;> cases h; rfl
  | .str s => cases w <;> cases h; rfl
  | .other t => cases w <;> cases h; rfl

theorem ReorderedItems.meaning {xs ys : List PyValue} (h : ReorderedItems xs ys)
    (hy : Json.plainItems ys = true) : meaningItems xs = meaningItems ys := by
  match xs, ys with
  | [], [] => rfl
  | x :: xs, y :: ys =>
    rw [Json.plainItems, Bool.and_eq_true] at hy
    rw [meaningItems, meaningItems, Reordered.meaning h.1 hy.1, ReorderedItems.meaning h.2 hy.2]
  | [], _ :: _ => cases h
  | _ :: _, [] => cases h

theorem ReorderedPairs.meaning {xs ys : List (PyKey × PyValue)} (h : ReorderedPairs xs ys)
    (hy : Json.plainPairs ys = true) : meaningFields xs = meaningFields ys := by
  match xs, ys with
  | [], [] => rfl
  | (k, v) :: xs, (l, w) :: ys =>
    have hmem := plainPairs_iff_mem.mp hy
    have hrest := plainPairs_iff_mem.mpr (fun item hitem => hmem item (List.mem_cons_of_mem _ hitem))
    obtain ⟨rfl, hv, hpairs⟩ := h
    funext key
    rw [meaningFields, meaningFields, Reordered.meaning hv (hmem _ List.mem_cons_self).2,
      ReorderedPairs.meaning hpairs hrest]
  | [], _ :: _ => cases h
  | _ :: _, [] => cases h

end

end PicoDualCore
