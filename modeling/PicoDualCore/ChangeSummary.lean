import PicoDualCore.ConfigChanges
import PicoDualCore.ConfigSpec
import PicoDualCore.ValueEquality
import Mathlib.Data.String.Basic
set_option autoImplicit false

namespace PicoDualCore
open ExceptPost

theorem sortedInsert_sorted {s : String} {names : List String} (h : names.Pairwise (· < ·)) :
    (sortedInsert s names).Pairwise (· < ·) := by
  induction names with
  | nil => exact List.pairwise_singleton _ _
  | cons t rest ih =>
    obtain ⟨ht, hrest⟩ := List.pairwise_cons.mp h
    unfold sortedInsert
    split
    · exact h
    · rename_i hne
      split
      · rename_i hlt
        refine .cons (fun u hu => ?_) h
        rcases List.mem_cons.mp hu with rfl | hu
        · exact hlt
        · exact lt_trans hlt (ht u hu)
      · rename_i hle
        have hts : t < s := lt_of_le_of_ne (not_lt.mp hle) (Ne.symm hne)
        refine .cons (fun u hu => ?_) (ih hrest)
        rcases (mem_sortedInsert _ _ _).mp hu with rfl | hu
        · exact hts
        · exact ht u hu

theorem sortedSet_sorted (names : List String) : (sortedSet names).Pairwise (· < ·) := by
  induction names with
  | nil => exact .nil
  | cons s rest ih => exact sortedInsert_sorted ih

/-- The sorted names depend on the set of the names only. -/
theorem sortedSet_congr {names others : List String} (h : ∀ s, s ∈ names ↔ s ∈ others) :
    sortedSet names = sortedSet others := by
  have hnodup : ∀ names : List String, (sortedSet names).Nodup := fun names =>
    (sortedSet_sorted names).imp ne_of_lt
  have hperm : (sortedSet names).Perm (sortedSet others) :=
    (List.perm_ext_iff_of_nodup (hnodup names) (hnodup others)).mpr (fun s => by
      rw [mem_sortedSet, mem_sortedSet, h])
  exact hperm.eq_of_pairwise (fun s t _ _ hst hts => absurd (lt_trans hst hts) (lt_irrefl s))
    (sortedSet_sorted names) (sortedSet_sorted others)

/-- The object of a JSON document that validation accepts. -/
structure Document (items : PyDict) : Prop where
  accepted : validateConfig (.dict items) = .ok (.dict items)
  plain : Json.plain (.dict items) = true

def devicesOf (config : PyDict) : List PyValue := (config.getD "devices").asList

theorem validateDeviceDefinition_id {device : PyDict} (h : validateDeviceDefinition device = .ok ()) :
    ∃ id, nonEmptyStr? (device.getD "id") = some id := by
  unfold validateDeviceDefinition at h
  obtain ⟨⟨⟩, -, h⟩ := seq_ok h
  obtain ⟨⟨⟩, -, h⟩ := seq_ok h
  cases hid : nonEmptyStr? (device.getD "id") with
  | some id => exact ⟨id, rfl⟩
  | none =>
    rw [hid] at h
    cases h

theorem validateEachDevice_ids {seen : List String} {entries : List (PyValue × Nat)}
    {devices : List (PyDict × Nat)} (h : validateEachDevice seen entries = .ok devices) :
    (devices.map (fun entry => deviceIdOf (.dict entry.1))).Nodup ∧
      ∀ entry ∈ devices, deviceIdOf (.dict entry.1) ∉ seen := by
  induction entries generalizing seen devices with
  | nil =>
    cases h
    exact ⟨List.nodup_nil, by simp⟩
  | cons entry rest ih =>
    obtain ⟨v, index⟩ := entry
    cases v with
    | dict device =>
      unfold validateEachDevice at h
      dsimp only at h
      have hlater : ∀ seen', (validateDeviceDefinition device).mapError DeviceFailure.asConfig =
          .ok () → nonEmptyStr? (PyDict.getD device "id") = seen' → ∃ id, seen' = some id := by
        rintro _ hdefinition rfl
        exact validateDeviceDefinition_id (mapError_ok hdefinition)
      cases hid : nonEmptyStr? (PyDict.getD device "id") with
      | none =>
        rw [hid] at h
        obtain ⟨⟨⟩, hdefinition, h⟩ := seq_ok h
        obtain ⟨id, hsome⟩ := hlater _ hdefinition hid
        cases hsome
      | some id =>
        rw [hid] at h
        obtain ⟨⟨⟩, hnew, h⟩ := seq_ok h
        obtain ⟨⟨⟩, hdefinition, h⟩ := seq_ok h
        obtain ⟨others, hothers, h⟩ := seq_ok h
        cases h
        obtain ⟨hnodup, hfresh⟩ := ih hothers
        have hself : deviceIdOf (.dict device) = id := by
          have hstr := (nonEmptyStr?_some hid).1
          simp only [deviceIdOf, PyValue.asDict]
          rw [hstr]
          rfl
        have hunseen : id ∉ seen := by
          cases hcontains : seen.contains id with
          | false => simpa using hcontains
          | true =>
            rw [hcontains] at hnew
            cases hnew
        simp only [List.map_cons, List.nodup_cons, List.forall_mem_cons, hself]
        refine ⟨⟨fun hmem => ?_, hnodup⟩, hunseen, fun entry hentry hmem => ?_⟩
        · obtain ⟨entry, hentry, hsame⟩ := List.mem_map.mp hmem
          exact hfresh entry hentry (by rw [hsame]; simp)
        · exact hfresh entry hentry (by simp [hmem])
    | _ => cases h

structure Devices (devices : List PyValue) : Prop where
  ids : (devices.map deviceIdOf).Nodup
  named : ∀ device ∈ devices, ∃ (items : PyDict) (deviceType : String), device = .dict items ∧
    items.getD "id" = .str (deviceIdOf device) ∧ items.getD "device_type" = .str deviceType
  plain : Json.plainItems devices = true

section Facts

variable {items : PyDict}

theorem Document.config (h : Document items) : AcceptedConfig items := by
  obtain ⟨accepted, hsame, haccepted⟩ := AcceptedConfig.of_ok h.accepted
  cases hsame
  exact haccepted

theorem item?_str (items : PyDict) (key : String) : items.item? (.str key) = items.get? key := by
  induction items with
  | nil => rfl
  | cons item rest ih =>
    obtain ⟨k, w⟩ := item
    rw [PyDict.item?, PyDict.get?, ih]

theorem plain_getD {items : PyDict} (h : Json.plain (.dict items) = true) (key : String) :
    Json.plain (items.getD key) = true := by
  rw [Json.plain, Bool.and_eq_true] at h
  rw [PyDict.getD]
  cases hget : items.get? key with
  | none => rfl
  | some v => exact plain_item? h.2 ((item?_str items key).trans hget)

theorem checkConfig_devices {items : PyDict} (h : checkConfig items = .ok ()) :
    validateDevices (items.getD "devices") = .ok () := by
  unfold checkConfig at h
  obtain ⟨unknown, -, h⟩ := seq_ok h
  by_cases hempty : unknown.isEmpty = true
  · rw [if_pos hempty] at h
    obtain ⟨⟨⟩, -, h⟩ := seq_ok h
    obtain ⟨⟨⟩, -, h⟩ := seq_ok h
    obtain ⟨⟨⟩, -, h⟩ := seq_ok h
    obtain ⟨⟨⟩, -, h⟩ := seq_ok h
    obtain ⟨⟨⟩, -, h⟩ := seq_ok h
    obtain ⟨⟨⟩, -, h⟩ := seq_ok h
    obtain ⟨⟨⟩, -, h⟩ := seq_ok h
    exact h
  · rw [if_neg hempty] at h
    cases h

theorem validateDevices_ids {v : PyValue} (h : validateDevices v = .ok ()) :
    (v.asList.map deviceIdOf).Nodup := by
  unfold validateDevices at h
  split at h
  · rename_i device rest
    obtain ⟨⟨⟩, -, h⟩ := seq_ok h
    obtain ⟨devices, heach, -⟩ := seq_ok h
    obtain ⟨hsame, -⟩ := (validateEachDevice_post _ _).of_ok heach
    have hlist : device :: rest = devices.map (fun entry => PyValue.dict entry.1) := by
      simpa using hsame
    rw [PyValue.asList, hlist, List.map_map]
    exact (validateEachDevice_ids heach).1
  · cases h

theorem Document.devices (h : Document items) : Devices (devicesOf items) := by
  obtain ⟨devices, hdevices, -, -, hdefinitions⟩ := h.config.devices
  have hplain := plain_getD h.plain "devices"
  have hcheck : checkConfig items = .ok () := by
    have haccepted := h.accepted
    obtain ⟨⟨⟩, hcheck, -⟩ := seq_ok (r := checkConfig items) (f := fun _ => pure _) haccepted
    exact hcheck
  refine ⟨validateDevices_ids (checkConfig_devices hcheck), fun device hdevice => ?_, ?_⟩
  · rw [devicesOf, hdevices] at hdevice
    obtain ⟨definition, hmem, rfl⟩ := List.mem_map.mp hdevice
    obtain ⟨deviceType, config, hdefinition⟩ := hdefinitions definition hmem
    obtain ⟨deviceId, hid, -⟩ := hdefinition.id
    refine ⟨definition, deviceType, rfl, ?_, hdefinition.type⟩
    rw [deviceIdOf, PyValue.asDict, hid]
    rfl
  · rw [devicesOf]
    rw [hdevices] at hplain ⊢
    exact hplain

end Facts

def OrderOnly (old new : List PyValue) : Prop :=
  (∃ same, same.Perm old ∧ (PyValue.list same).pyEq (.list new) = true) ∧
    (PyValue.list old).pyEq (.list new) = false

def listChange : PyValue :=
  .dict [(.str "setting", .str "devices"), (.str "change_type", .str "MODIFIED")]

inductive DeviceReported (old new : List PyValue) : PyValue → Prop
  | added {device : PyValue} (hnew : device ∈ new)
      (hold : ∀ d ∈ old, deviceIdOf d ≠ deviceIdOf device) :
      DeviceReported old new (deviceChange "ADDED" (deviceIdOf device) device)
  | removed {device : PyValue} (hold : device ∈ old)
      (hnew : ∀ d ∈ new, deviceIdOf d ≠ deviceIdOf device) :
      DeviceReported old new (deviceChange "REMOVED" (deviceIdOf device) device)
  | modified {before device : PyValue} (hold : before ∈ old) (hnew : device ∈ new)
      (hid : deviceIdOf before = deviceIdOf device) (hdiffer : before.pyEq device = false) :
      DeviceReported old new (deviceChange "MODIFIED" (deviceIdOf device) device)
  | reordered (h : OrderOnly old new) : DeviceReported old new listChange

section Devices

variable {old new : List PyValue}

theorem deviceById_some_iff {devices : List PyValue} (h : (devices.map deviceIdOf).Nodup)
    {id : String} {device : PyValue} :
    deviceById devices id = some device ↔ device ∈ devices ∧ deviceIdOf device = id := by
  have hone : ∀ d ∈ devices, ∀ e ∈ devices, deviceIdOf d = deviceIdOf e → d = e :=
    fun d hd e he hsame => List.inj_on_of_nodup_map h hd he hsame
  rw [deviceById]
  constructor
  · intro hfind
    exact ⟨List.mem_reverse.mp (List.mem_of_find?_eq_some hfind), by simpa using List.find?_some hfind⟩
  · rintro ⟨hmem, rfl⟩
    cases hfind : devices.reverse.find? (fun d => deviceIdOf d == deviceIdOf device) with
    | none =>
      have hno := List.find?_eq_none.mp hfind device (List.mem_reverse.mpr hmem)
      simp at hno
    | some d =>
      have hd := List.mem_reverse.mp (List.mem_of_find?_eq_some hfind)
      have hsame : deviceIdOf d = deviceIdOf device := by simpa using List.find?_some hfind
      rw [hone d hd device hmem hsame]

theorem deviceById_none_iff {devices : List PyValue} {id : String} :
    deviceById devices id = none ↔ ∀ d ∈ devices, deviceIdOf d ≠ id := by
  simp [deviceById]

theorem changeOfDevice_some (hold : (old.map deviceIdOf).Nodup) (hnew : (new.map deviceIdOf).Nodup)
    {id : String} {change : PyValue} (h : changeOfDevice old new id = some change) :
    DeviceReported old new change ∧ ∃ changeType device, change = deviceChange changeType id device := by
  unfold changeOfDevice at h
  cases hbefore : deviceById old id with
  | none =>
    cases hafter : deviceById new id with
    | none =>
      rw [hbefore, hafter] at h
      cases h
    | some device =>
      rw [hbefore, hafter] at h
      cases h
      obtain ⟨hmem, rfl⟩ := (deviceById_some_iff hnew).mp hafter
      exact ⟨.added hmem (deviceById_none_iff.mp hbefore), _, _, rfl⟩
  | some before =>
    obtain ⟨hmem, hid⟩ := (deviceById_some_iff hold).mp hbefore
    cases hafter : deviceById new id with
    | none =>
      rw [hbefore, hafter] at h
      cases h
      subst hid
      exact ⟨.removed hmem (deviceById_none_iff.mp hafter), _, _, rfl⟩
    | some device =>
      obtain ⟨hmem', rfl⟩ := (deviceById_some_iff hnew).mp hafter
      rw [hbefore, hafter] at h
      dsimp only at h
      split at h
      · cases h
      · rename_i hdiffer
        cases h
        exact ⟨.modified hmem hmem' hid (by simpa using hdiffer), _, _, rfl⟩

/-- Every report but that of the order shows in the entry of an id. -/
theorem changeOfDevice_reported (hold : (old.map deviceIdOf).Nodup)
    (hnew : (new.map deviceIdOf).Nodup) {change : PyValue} (h : DeviceReported old new change) :
    (∃ id, changeOfDevice old new id = some change) ∨ change = listChange ∧ OrderOnly old new := by
  cases h with
  | @added device hmem hfree =>
    refine .inl ⟨deviceIdOf device, ?_⟩
    rw [changeOfDevice, deviceById_none_iff.mpr hfree, (deviceById_some_iff hnew).mpr ⟨hmem, rfl⟩]
  | @removed device hmem hfree =>
    refine .inl ⟨deviceIdOf device, ?_⟩
    rw [changeOfDevice, deviceById_none_iff.mpr hfree, (deviceById_some_iff hold).mpr ⟨hmem, rfl⟩]
  | @modified before device hmem hmem' hid hdiffer =>
    refine .inl ⟨deviceIdOf device, ?_⟩
    rw [changeOfDevice, (deviceById_some_iff hold).mpr ⟨hmem, hid⟩,
      (deviceById_some_iff hnew).mpr ⟨hmem', rfl⟩]
    dsimp only
    rw [hdiffer]
    rfl
  | reordered h => exact .inr ⟨rfl, h⟩

/-- An id that changes is one of the two lists. -/
theorem changeOfDevice_mem {id : String} {change : PyValue}
    (h : changeOfDevice old new id = some change) : id ∈ (old ++ new).map deviceIdOf := by
  by_contra hno
  have hfree : ∀ d ∈ old ++ new, deviceIdOf d ≠ id := by
    rintro d hd rfl
    exact hno (List.mem_map_of_mem hd)
  have hnone : changeOfDevice old new id = none := by
    rw [changeOfDevice, deviceById_none_iff.mpr (fun d hd => hfree d (List.mem_append_left _ hd)),
      deviceById_none_iff.mpr (fun d hd => hfree d (List.mem_append_right _ hd))]
  rw [hnone] at h
  cases h

theorem pyEqItems_map {f : PyValue → PyValue} {devices : List PyValue}
    (h : ∀ d ∈ devices, (f d).pyEq d = true) : PyValue.pyEqItems (devices.map f) devices = true := by
  induction devices with
  | nil => rfl
  | cons d rest ih =>
    obtain ⟨hd, hrest⟩ := List.forall_mem_cons.mp h
    rw [List.map_cons, PyValue.pyEqItems, hd, ih hrest]
    rfl

theorem perm_of_unchanged (hold : (old.map deviceIdOf).Nodup) (hnew : (new.map deviceIdOf).Nodup)
    (h : ∀ id, changeOfDevice old new id = none) :
    ∃ same, same.Perm old ∧ (PyValue.list same).pyEq (.list new) = true := by
  let before (device : PyValue) : PyValue := (deviceById old (deviceIdOf device)).getD device
  have hbefore : ∀ device ∈ new, before device ∈ old ∧
      deviceIdOf (before device) = deviceIdOf device ∧ (before device).pyEq device = true := by
    intro device hdevice
    have hnone := h (deviceIdOf device)
    rw [changeOfDevice, (deviceById_some_iff hnew).mpr ⟨hdevice, rfl⟩] at hnone
    cases hget : deviceById old (deviceIdOf device) with
    | none =>
      rw [hget] at hnone
      cases hnone
    | some b =>
      rw [hget] at hnone
      dsimp only at hnone
      obtain ⟨hmem, hid⟩ := (deviceById_some_iff hold).mp hget
      have hsame : before device = b := by simp only [before, hget, Option.getD_some]
      rw [hsame]
      refine ⟨hmem, hid, ?_⟩
      by_contra hdiffer
      rw [if_neg hdiffer] at hnone
      cases hnone
  have hids : (new.map before).map deviceIdOf = new.map deviceIdOf := by
    rw [List.map_map]
    exact List.map_congr_left (fun device hdevice => (hbefore device hdevice).2.1)
  have hnodup : (new.map before).Nodup := List.Nodup.of_map deviceIdOf (hids ▸ hnew)
  refine ⟨new.map before, ?_, pyEqItems_map (fun d hd => (hbefore d hd).2.2)⟩
  refine (List.perm_ext_iff_of_nodup hnodup (List.Nodup.of_map deviceIdOf hold)).mpr (fun b => ?_)
  constructor
  · intro hb
    obtain ⟨device, hdevice, rfl⟩ := List.mem_map.mp hb
    exact (hbefore device hdevice).1
  · intro hb
    have hnone := h (deviceIdOf b)
    rw [changeOfDevice, (deviceById_some_iff hold).mpr ⟨hb, rfl⟩] at hnone
    cases hget : deviceById new (deviceIdOf b) with
    | none =>
      rw [hget] at hnone
      cases hnone
    | some device =>
      obtain ⟨hdevice, hid⟩ := (deviceById_some_iff hnew).mp hget
      refine List.mem_map.mpr ⟨device, hdevice, ?_⟩
      have hsome := (deviceById_some_iff hold).mpr ⟨hb, hid.symm⟩
      simp only [before, hsome, Option.getD_some]

theorem text_eq_of_meaning {xs ys : PyDict} {key s u : String} (hs : xs.getD key = .str s)
    (hu : ys.getD key = .str u) (h : (PyValue.dict xs).meaning = (PyValue.dict ys).meaning) :
    s = u := by
  have hfield : ∀ {items : PyDict} {s : String}, items.getD key = .str s →
      meaningFields items (.str key) = some (.text s) := by
    intro items s hs
    rw [meaningFields_eq, item?_str]
    cases hget : items.get? key with
    | none =>
      rw [PyDict.getD, hget] at hs
      cases hs
    | some v =>
      rw [PyDict.getD, hget, Option.getD_some] at hs
      rw [hs]
      rfl
  rw [PyValue.meaning, PyValue.meaning, Meaning.object.injEq] at h
  have hsame := hfield hs
  rw [h, hfield hu] at hsame
  simpa using hsame.symm

theorem named_eq {devices others : List PyValue} (h : Devices devices) (h' : Devices others)
    {x y : PyValue} (hx : x ∈ devices) (hy : y ∈ others) (hsame : x.meaning = y.meaning) :
    deviceIdOf x = deviceIdOf y ∧
      x.asDict.getD "device_type" = y.asDict.getD "device_type" := by
  obtain ⟨xs, xtype, hxs, hxid, hxtype⟩ := h.named x hx
  obtain ⟨ys, ytype, hys, hyid, hytype⟩ := h'.named y hy
  have hdicts : (PyValue.dict xs).meaning = (PyValue.dict ys).meaning := by rw [← hxs, ← hys, hsame]
  refine ⟨text_eq_of_meaning hxid hyid hdicts, ?_⟩
  rw [hxs, hys, PyValue.asDict, PyValue.asDict, hxtype, hytype,
    text_eq_of_meaning hxtype hytype hdicts]

theorem pyEqItems_pairs {xs ys : List PyValue} (h : PyValue.pyEqItems xs ys = true) :
    List.Forall₂ (fun x y => x.pyEq y = true) xs ys := by
  induction xs generalizing ys with
  | nil =>
    cases ys with
    | nil => exact .nil
    | cons y ys => cases h
  | cons x xs ih =>
    cases ys with
    | nil => cases h
    | cons y ys =>
      rw [PyValue.pyEqItems, Bool.and_eq_true] at h
      exact .cons h.1 (ih h.2)

theorem forall₂_mem {α β : Type} {R : α → β → Prop} {xs : List α} {ys : List β}
    (h : List.Forall₂ R xs ys) : ∀ x ∈ xs, ∃ y ∈ ys, R x y := by
  induction h with
  | nil => simp
  | cons hxy _ ih =>
    refine List.forall_mem_cons.mpr ⟨⟨_, List.mem_cons_self, hxy⟩, fun x hx => ?_⟩
    obtain ⟨y, hy, hr⟩ := ih x hx
    exact ⟨y, List.mem_cons_of_mem _ hy, hr⟩

theorem unchanged_of_perm (hold : Devices old) (hnew : Devices new) {same : List PyValue}
    (hperm : same.Perm old) (h : (PyValue.list same).pyEq (.list new) = true) (id : String) :
    changeOfDevice old new id = none := by
  have hpairs : List.Forall₂ (fun x y => PyValue.pyEq x y = true) same new := by
    rw [PyValue.pyEq] at h
    exact pyEqItems_pairs h
  have hid : ∀ x ∈ old, ∀ y ∈ new, x.pyEq y = true → deviceIdOf x = deviceIdOf y := by
    intro x hx y hy hsame
    exact (named_eq hold hnew hx hy ((pyEq_iff x y (plainItems_mem hold.plain x hx)
      (plainItems_mem hnew.plain y hy)).mp hsame)).1
  have hthere : ∀ x ∈ old, ∃ y ∈ new, x.pyEq y = true :=
    fun x hx => forall₂_mem hpairs x (hperm.mem_iff.mpr hx)
  have hback : ∀ y ∈ new, ∃ x ∈ old, x.pyEq y = true := by
    intro y hy
    obtain ⟨x, hx, hsame⟩ := forall₂_mem hpairs.flip y hy
    exact ⟨x, hperm.mem_iff.mp hx, hsame⟩
  unfold changeOfDevice
  cases hbefore : deviceById old id with
  | none =>
    have hgone : deviceById new id = none := by
      refine deviceById_none_iff.mpr (fun y hy hyid => ?_)
      obtain ⟨x, hx, hsame⟩ := hback y hy
      exact deviceById_none_iff.mp hbefore x hx ((hid x hx y hy hsame).trans hyid)
    rw [hgone]
  | some b =>
    obtain ⟨hb, rfl⟩ := (deviceById_some_iff hold.ids).mp hbefore
    obtain ⟨y, hy, hsame⟩ := hthere b hb
    rw [(deviceById_some_iff hnew.ids).mpr ⟨hy, (hid b hb y hy hsame).symm⟩]
    dsimp only
    rw [if_pos hsame]

def idChanges (old new : List PyValue) : List PyValue :=
  (sortedSet ((old ++ new).map deviceIdOf)).filterMap (changeOfDevice old new)

theorem deviceChanges_eq : deviceChanges old new =
    if (idChanges old new).isEmpty && !(PyValue.list old).pyEq (.list new) then [listChange]
    else idChanges old new := rfl

theorem mem_idChanges {change : PyValue} :
    change ∈ idChanges old new ↔ ∃ id, changeOfDevice old new id = some change := by
  rw [idChanges, List.mem_filterMap]
  constructor
  · rintro ⟨id, -, h⟩
    exact ⟨id, h⟩
  · rintro ⟨id, h⟩
    exact ⟨id, (mem_sortedSet _ _).mpr (changeOfDevice_mem h), h⟩

theorem idChanges_isEmpty_iff :
    (idChanges old new).isEmpty = true ↔ ∀ id, changeOfDevice old new id = none := by
  rw [List.isEmpty_iff, List.eq_nil_iff_forall_not_mem]
  simp only [mem_idChanges, not_exists]
  constructor
  · intro h id
    cases hchange : changeOfDevice old new id with
    | none => rfl
    | some change => exact (h change id hchange).elim
  · intro h change id hchange
    rw [h id] at hchange
    cases hchange

theorem deviceChanges_eq_nil_iff (hold : Devices old) (hnew : Devices new) :
    deviceChanges old new = [] ↔ (PyValue.list old).pyEq (.list new) = true := by
  rw [deviceChanges_eq]
  cases hsame : (PyValue.list old).pyEq (.list new) with
  | true =>
    have hempty := idChanges_isEmpty_iff.mpr (unchanged_of_perm hold hnew (List.Perm.refl _) hsame)
    rw [List.isEmpty_iff] at hempty
    simp [hempty]
  | false =>
    cases hempty : (idChanges old new).isEmpty with
    | true => simp
    | false =>
      rw [List.isEmpty_eq_false_iff] at hempty
      simp [hempty]

/-- The entries tell what differs, and nothing else. -/
theorem mem_deviceChanges (hold : Devices old) (hnew : Devices new) {change : PyValue} :
    change ∈ deviceChanges old new ↔ DeviceReported old new change := by
  have hlater : OrderOnly old new → (idChanges old new).isEmpty = true := by
    rintro ⟨⟨same, hperm, hsame⟩, -⟩
    exact idChanges_isEmpty_iff.mpr (unchanged_of_perm hold hnew hperm hsame)
  rw [deviceChanges_eq]
  split
  · rename_i h
    rw [Bool.and_eq_true, Bool.not_eq_true'] at h
    have hnone := idChanges_isEmpty_iff.mp h.1
    have horder : OrderOnly old new := ⟨perm_of_unchanged hold.ids hnew.ids hnone, h.2⟩
    constructor
    · intro hmem
      rw [List.mem_singleton.mp hmem]
      exact .reordered horder
    · intro hreported
      rcases changeOfDevice_reported hold.ids hnew.ids hreported with ⟨id, hchange⟩ | ⟨rfl, -⟩
      · rw [hnone id] at hchange
        cases hchange
      · exact List.mem_singleton_self _
  · rename_i h
    rw [mem_idChanges]
    constructor
    · rintro ⟨id, hchange⟩
      exact (changeOfDevice_some hold.ids hnew.ids hchange).1
    · intro hreported
      rcases changeOfDevice_reported hold.ids hnew.ids hreported with hchange | ⟨-, horder⟩
      · exact hchange
      · exact (h (by rw [hlater horder, horder.2]; rfl)).elim

def settingOf (change : PyValue) : String := (change.asDict.getD "setting").asStr

def changedId (change : PyValue) : String := (change.asDict.getD "device_id").asStr

/-- By setting, and within the devices by id. -/
def Before (a b : PyValue) : Prop :=
  settingOf a < settingOf b ∨ settingOf a = settingOf b ∧ changedId a < changedId b

theorem deviceChanges_sorted (hold : (old.map deviceIdOf).Nodup) (hnew : (new.map deviceIdOf).Nodup) :
    (deviceChanges old new).Pairwise Before := by
  rw [deviceChanges_eq]
  split
  · exact List.pairwise_singleton _ _
  · rw [idChanges, List.pairwise_filterMap]
    refine (sortedSet_sorted _).imp (fun {id id'} hlt change hchange change' hchange' => ?_)
    obtain ⟨-, kind, device, rfl⟩ := changeOfDevice_some hold hnew hchange
    obtain ⟨-, kind', device', rfl⟩ := changeOfDevice_some hold hnew hchange'
    exact .inr ⟨rfl, hlt⟩

theorem settingOf_deviceChanges (hold : (old.map deviceIdOf).Nodup)
    (hnew : (new.map deviceIdOf).Nodup) : ∀ change ∈ deviceChanges old new,
      settingOf change = "devices" := by
  intro change hchange
  rw [deviceChanges_eq] at hchange
  split at hchange
  · rw [List.mem_singleton.mp hchange]
    rfl
  · obtain ⟨id, hsome⟩ := mem_idChanges.mp hchange
    obtain ⟨-, kind, device, rfl⟩ := changeOfDevice_some hold hnew hsome
    rfl

variable {old' new' : List PyValue}

theorem mem_of_meaningItems {xs ys : List PyValue} (h : meaningItems xs = meaningItems ys) :
    ∀ x ∈ xs, ∃ y ∈ ys, x.meaning = y.meaning := by
  intro x hx
  rw [meaningItems_eq, meaningItems_eq] at h
  have hmem : x.meaning ∈ ys.map PyValue.meaning := h ▸ List.mem_map_of_mem hx
  obtain ⟨y, hy, hsame⟩ := List.mem_map.mp hmem
  exact ⟨y, hy, hsame.symm⟩

theorem deviceById_congr (h : Devices old) (h' : Devices old')
    (hsame : meaningItems old = meaningItems old') (id : String) :
    deviceById old id = none ∧ deviceById old' id = none ∨
      ∃ x ∈ old, ∃ y ∈ old', deviceById old id = some x ∧ deviceById old' id = some y ∧
        x.meaning = y.meaning := by
  cases hget : deviceById old id with
  | some x =>
    obtain ⟨hx, rfl⟩ := (deviceById_some_iff h.ids).mp hget
    obtain ⟨y, hy, hxy⟩ := mem_of_meaningItems hsame x hx
    exact .inr ⟨x, hx, y, hy, rfl, (deviceById_some_iff h'.ids).mpr
      ⟨hy, (named_eq h h' hx hy hxy).1.symm⟩, hxy⟩
  | none =>
    refine .inl ⟨rfl, deviceById_none_iff.mpr (fun y hy hid => ?_)⟩
    obtain ⟨x, hx, hyx⟩ := mem_of_meaningItems hsame.symm y hy
    exact deviceById_none_iff.mp hget x hx ((named_eq h h' hx hy hyx.symm).1.trans hid)

theorem changeOfDevice_congr (hold : Devices old) (hold' : Devices old') (hnew : Devices new)
    (hnew' : Devices new') (ho : meaningItems old = meaningItems old')
    (hn : meaningItems new = meaningItems new') (id : String) :
    changeOfDevice old' new' id = changeOfDevice old new id := by
  unfold changeOfDevice
  rcases deviceById_congr hold hold' ho id with ⟨h, h'⟩ | ⟨x, hx, x', hx', h, h', hxx⟩ <;>
    rcases deviceById_congr hnew hnew' hn id with ⟨g, g'⟩ | ⟨y, hy, y', hy', g, g', hyy⟩ <;>
    rw [h, h', g, g']
  · simp only [deviceChange, (named_eq hnew hnew' hy hy' hyy).2]
  · simp only [deviceChange, (named_eq hold hold' hx hx' hxx).2]
  · have hpy : x'.pyEq y' = x.pyEq y := by
      rw [Bool.eq_iff_iff, pyEq_iff x' y' (plainItems_mem hold'.plain x' hx')
        (plainItems_mem hnew'.plain y' hy'), pyEq_iff x y (plainItems_mem hold.plain x hx)
        (plainItems_mem hnew.plain y hy), hxx, hyy]
    simp only [hpy, deviceChange, (named_eq hnew hnew' hy hy' hyy).2]

theorem ids_congr (h : Devices old) (h' : Devices old')
    (hsame : meaningItems old = meaningItems old') (id : String) :
    id ∈ old.map deviceIdOf ↔ id ∈ old'.map deviceIdOf := by
  rw [← not_iff_not]
  have hnone : ∀ {devices : List PyValue}, id ∉ devices.map deviceIdOf ↔
      deviceById devices id = none := by
    intro devices
    simp [deviceById_none_iff]
  rw [hnone, hnone]
  rcases deviceById_congr h h' hsame id with ⟨h, h'⟩ | ⟨x, hx, x', hx', h, h', -⟩ <;> simp [h, h']

theorem deviceChanges_congr (hold : Devices old) (hold' : Devices old') (hnew : Devices new)
    (hnew' : Devices new') (ho : meaningItems old = meaningItems old')
    (hn : meaningItems new = meaningItems new') :
    deviceChanges old' new' = deviceChanges old new := by
  have hlist : (PyValue.list old').pyEq (.list new') = (PyValue.list old).pyEq (.list new) := by
    rw [Bool.eq_iff_iff, pyEq_iff (.list old') (.list new') hold'.plain hnew'.plain,
      pyEq_iff (.list old) (.list new) hold.plain hnew.plain]
    simp only [PyValue.meaning, ho, hn]
  have hids : sortedSet ((old' ++ new').map deviceIdOf) = sortedSet ((old ++ new).map deviceIdOf) := by
    refine sortedSet_congr (fun id => ?_)
    rw [List.map_append, List.map_append, List.mem_append, List.mem_append,
      ids_congr hold hold' ho id, ids_congr hnew hnew' hn id]
  rw [deviceChanges_eq, deviceChanges_eq, idChanges, idChanges, hlist, hids,
    funext (changeOfDevice_congr hold hold' hnew hnew' ho hn)]

end Devices

def settingChange (key : String) (before after : PyValue) : PyValue :=
  .dict [(.str "setting", .str key), (.str "original_value", before), (.str "new_value", after)]

/-- What there is to tell about two configurations. -/
inductive Reported (persisted candidate : PyDict) : PyValue → Prop
  | setting {key : String} (hkey : key ≠ "devices")
      (hdiffer : (persisted.getD key).pyEq (candidate.getD key) = false) :
      Reported persisted candidate
        (settingChange key (persisted.getD key) (candidate.getD key))
  | device {change : PyValue}
      (h : DeviceReported (devicesOf persisted) (devicesOf candidate) change) :
      Reported persisted candidate change

def entries (persisted candidate : PyDict) : List PyValue :=
  (changesSummary persisted candidate).asList

section Settings

variable {persisted candidate : PyDict}

theorem Document.version (h : Document persisted) :
    persisted.getD "config_schema_version" = .int CONFIG_SCHEMA_VERSION := h.config.version

theorem Document.list (h : Document persisted) :
    persisted.getD "devices" = .list (devicesOf persisted) := by
  obtain ⟨devices, hdevices, -⟩ := h.config.devices
  rw [devicesOf, hdevices]
  rfl

theorem Document.mem_keys (h : Document persisted) {key : String} :
    key ∈ persisted.keys ↔ key ∈ REQUIRED_KEYS := by
  refine ⟨h.config.keys key, fun hkey => ?_⟩
  have hhas := h.config.present key hkey
  rw [PyDict.has, Option.isSome_iff_exists] at hhas
  obtain ⟨v, hget⟩ := hhas
  exact PyDict.mem_keys_of_get? hget

theorem Document.get?_none (h : Document persisted) {key : String} (hkey : key ∉ REQUIRED_KEYS) :
    persisted.get? key = none := by
  cases hget : persisted.get? key with
  | none => rfl
  | some v => exact (hkey (h.config.keys key (PyDict.mem_keys_of_get? hget))).elim

theorem changesOfSetting_cases (hp : Document persisted) (hc : Document candidate) (key : String) :
    key = "devices" ∧ changesOfSetting persisted candidate key =
        deviceChanges (devicesOf persisted) (devicesOf candidate) ∨
      key ≠ "devices" ∧ changesOfSetting persisted candidate key =
        if (persisted.getD key).pyEq (candidate.getD key) then []
        else [settingChange key (persisted.getD key) (candidate.getD key)] := by
  by_cases hversion : key = "config_schema_version"
  · subst hversion
    refine .inr ⟨by decide, ?_⟩
    rw [changesOfSetting, if_pos rfl, hp.version, hc.version]
    rfl
  · by_cases hdevices : key = "devices"
    · refine .inl ⟨hdevices, ?_⟩
      rw [changesOfSetting, if_neg hversion, if_pos hdevices]
      rfl
    · refine .inr ⟨hdevices, ?_⟩
      rw [changesOfSetting, if_neg hversion, if_neg hdevices]
      rfl

theorem changesOfSetting_eq_nil_iff (hp : Document persisted) (hc : Document candidate)
    (key : String) : changesOfSetting persisted candidate key = [] ↔
      (persisted.getD key).pyEq (candidate.getD key) = true := by
  rcases changesOfSetting_cases hp hc key with ⟨rfl, h⟩ | ⟨-, h⟩
  · rw [h, hp.list, hc.list]
    exact deviceChanges_eq_nil_iff hp.devices hc.devices
  · rw [h]
    cases (persisted.getD key).pyEq (candidate.getD key) <;> simp

theorem settingOf_changesOfSetting (hp : Document persisted) (hc : Document candidate)
    {key : String} : ∀ change ∈ changesOfSetting persisted candidate key, settingOf change = key := by
  intro change hchange
  rcases changesOfSetting_cases hp hc key with ⟨rfl, h⟩ | ⟨-, h⟩
  · rw [h] at hchange
    exact settingOf_deviceChanges hp.devices.ids hc.devices.ids change hchange
  · rw [h] at hchange
    split at hchange
    · cases hchange
    · rw [List.mem_singleton.mp hchange]
      rfl

theorem mem_entries {change : PyValue} : change ∈ entries persisted candidate ↔
    ∃ key ∈ persisted.keys, change ∈ changesOfSetting persisted candidate key := by
  rw [entries, changesSummary, PyValue.asList, List.mem_flatMap]
  simp only [mem_sortedSet]

theorem mem_keys_of_differ (hp : Document persisted) (hc : Document candidate) {key : String}
    (h : (persisted.getD key).pyEq (candidate.getD key) = false) : key ∈ persisted.keys := by
  by_contra hno
  have hkey : key ∉ REQUIRED_KEYS := fun hmem => hno (hp.mem_keys.mpr hmem)
  rw [PyDict.getD, PyDict.getD, hp.get?_none hkey, hc.get?_none hkey] at h
  exact absurd h (by decide)

theorem named_iff (hp : Document persisted) (hc : Document candidate) (key : String) :
    (∃ change ∈ entries persisted candidate, settingOf change = key) ↔
      (persisted.getD key).pyEq (candidate.getD key) = false := by
  constructor
  · rintro ⟨change, hchange, rfl⟩
    obtain ⟨key, -, hmem⟩ := mem_entries.mp hchange
    rw [settingOf_changesOfSetting hp hc change hmem]
    cases hsame : (persisted.getD key).pyEq (candidate.getD key) with
    | false => rfl
    | true =>
      rw [(changesOfSetting_eq_nil_iff hp hc key).mpr hsame] at hmem
      cases hmem
  · intro hdiffer
    cases hlist : changesOfSetting persisted candidate key with
    | nil =>
      rw [(changesOfSetting_eq_nil_iff hp hc key).mp hlist] at hdiffer
      cases hdiffer
    | cons change rest =>
      have hmem : change ∈ changesOfSetting persisted candidate key := hlist ▸ List.mem_cons_self
      exact ⟨change, mem_entries.mpr ⟨key, mem_keys_of_differ hp hc hdiffer, hmem⟩,
        settingOf_changesOfSetting hp hc change hmem⟩

theorem mem_entries_iff (hp : Document persisted) (hc : Document candidate) {change : PyValue} :
    change ∈ entries persisted candidate ↔ Reported persisted candidate change := by
  rw [mem_entries]
  constructor
  · rintro ⟨key, -, hmem⟩
    rcases changesOfSetting_cases hp hc key with ⟨rfl, h⟩ | ⟨hkey, h⟩
    · rw [h] at hmem
      exact .device ((mem_deviceChanges hp.devices hc.devices).mp hmem)
    · rw [h] at hmem
      split at hmem
      · cases hmem
      · rename_i hdiffer
        rw [List.mem_singleton.mp hmem]
        exact .setting hkey (by simpa using hdiffer)
  · intro hreported
    cases hreported with
    | @setting key hkey hdiffer =>
      refine ⟨key, mem_keys_of_differ hp hc hdiffer, ?_⟩
      rcases changesOfSetting_cases hp hc key with ⟨hdevices, -⟩ | ⟨-, h⟩
      · exact (hkey hdevices).elim
      · rw [h, hdiffer]
        exact List.mem_singleton_self _
    | device h =>
      refine ⟨"devices", hp.mem_keys.mpr (by decide), ?_⟩
      rcases changesOfSetting_cases hp hc "devices" with ⟨-, hlist⟩ | ⟨hne, -⟩
      · rw [hlist]
        exact (mem_deviceChanges hp.devices hc.devices).mpr h
      · exact (hne rfl).elim

theorem entries_sorted (hp : Document persisted) (hc : Document candidate) :
    (entries persisted candidate).Pairwise Before := by
  rw [entries, changesSummary, PyValue.asList, List.pairwise_flatMap]
  constructor
  · intro key _
    rcases changesOfSetting_cases hp hc key with ⟨rfl, h⟩ | ⟨-, h⟩
    · rw [h]
      exact deviceChanges_sorted hp.devices.ids hc.devices.ids
    · rw [h]
      split
      · exact .nil
      · exact List.pairwise_singleton _ _
  · refine (sortedSet_sorted _).imp (fun {key key'} hlt change hchange change' hchange' => .inl ?_)
    rw [settingOf_changesOfSetting hp hc change hchange,
      settingOf_changesOfSetting hp hc change' hchange']
    exact hlt

/-- Equal configurations have equal settings. -/
theorem equal_iff (hp : Document persisted) (hc : Document candidate) :
    (PyValue.dict candidate).meaning = (PyValue.dict persisted).meaning ↔
      ∀ key, (candidate.getD key).meaning = (persisted.getD key).meaning := by
  have hplain : ∀ {items : PyDict}, Document items → ∀ name, items.item? (.other name) = none := by
    intro items h name
    have hplain := h.plain
    rw [Json.plain, Bool.and_eq_true, plainPairs_iff_mem] at hplain
    refine item?_eq_none_iff.mpr (fun hmem => ?_)
    obtain ⟨item, hitem, hkey⟩ := List.mem_map.mp hmem
    obtain ⟨⟨key, hstr⟩, -⟩ := hplain.2 item hitem
    rw [hkey] at hstr
    cases hstr
  rw [PyValue.meaning, PyValue.meaning, Meaning.object.injEq]
  constructor
  · intro h key
    have hkey := congrFun h (.str key)
    rw [meaningFields_eq, meaningFields_eq, item?_str, item?_str] at hkey
    rw [PyDict.getD, PyDict.getD]
    cases hcget : candidate.get? key with
    | none =>
      rw [hcget, Option.map_none] at hkey
      rw [Option.map_eq_none_iff.mp hkey.symm]
    | some v =>
      rw [hcget, Option.map_some] at hkey
      obtain ⟨w, hw, hsame⟩ := Option.map_eq_some_iff.mp hkey.symm
      rw [hw]
      exact hsame.symm
  · intro h
    funext key
    rw [meaningFields_eq, meaningFields_eq]
    cases key with
    | other name => rw [hplain hp, hplain hc]
    | str key =>
      rw [item?_str, item?_str]
      by_cases hkey : key ∈ REQUIRED_KEYS
      · obtain ⟨v, hv⟩ := Option.isSome_iff_exists.mp (hc.config.present key hkey)
        obtain ⟨w, hw⟩ := Option.isSome_iff_exists.mp (hp.config.present key hkey)
        have hsame := h key
        rw [PyDict.getD, PyDict.getD, hv, hw] at hsame
        rw [hv, hw]
        exact congrArg some hsame
      · rw [hp.get?_none hkey, hc.get?_none hkey]

theorem entries_eq_nil_iff (hp : Document persisted) (hc : Document candidate) :
    entries persisted candidate = [] ↔ (PyValue.dict candidate).pyEq (.dict persisted) = true := by
  rw [pyEq_iff (.dict candidate) (.dict persisted) hc.plain hp.plain, equal_iff hp hc]
  have hsame : ∀ key, (candidate.getD key).meaning = (persisted.getD key).meaning ↔
      ¬ ∃ change ∈ entries persisted candidate, settingOf change = key := by
    intro key
    rw [named_iff hp hc, Bool.not_eq_false, pyEq_iff _ _ (plain_getD hp.plain key)
      (plain_getD hc.plain key), eq_comm]
  simp only [hsame]
  constructor
  · intro hnil key
    simp [hnil]
  · intro h
    refine List.eq_nil_iff_forall_not_mem.mpr (fun change hchange => ?_)
    exact h (settingOf change) ⟨change, hchange, rfl⟩

inductive Flat : PyValue → Prop
  | str (s : String) : Flat (.str s)
  | int (n : Int) : Flat (.int n)
  | list (ns : List Int) : Flat (.list (ns.map .int))

theorem Flat.eq {v w : PyValue} (hv : Flat v) (hw : Flat w) (h : v.meaning = w.meaning) : v = w := by
  cases hv with
  | str s =>
    cases hw with
    | str u => simpa [PyValue.meaning] using h
    | _ => simp [PyValue.meaning] at h
  | int n =>
    cases hw with
    | int m => simpa [PyValue.meaning] using h
    | _ => simp [PyValue.meaning] at h
  | list ns =>
    cases hw with
    | list ms =>
      rw [PyValue.meaning, PyValue.meaning, Meaning.list.injEq, meaningItems_eq, meaningItems_eq,
        List.map_map, List.map_map] at h
      have hinj : Function.Injective (PyValue.meaning ∘ PyValue.int) := by
        intro n m hnm
        simpa [PyValue.meaning] using hnm
      rw [hinj.list_map h]
    | _ => simp [PyValue.meaning] at h

theorem IsDelays.flat {v : PyValue} (h : IsDelays v) : Flat v := by
  obtain ⟨delays, rfl, -, -, hall⟩ := h
  have hints : ∃ ns : List Int, delays = ns.map .int := by
    induction delays with
    | nil => exact ⟨[], rfl⟩
    | cons delay rest ih =>
      obtain ⟨⟨n, rfl, -⟩, hrest⟩ := List.forall_mem_cons.mp hall
      obtain ⟨ns, rfl⟩ := ih hrest
      exact ⟨n :: ns, rfl⟩
  obtain ⟨ns, rfl⟩ := hints
  exact .list ns

theorem Document.flat (h : Document persisted) {key : String} (hkey : key ∈ REQUIRED_KEYS)
    (hne : key ≠ "devices") : Flat (persisted.getD key) := by
  have hkinds : ∀ key ∈ REQUIRED_KEYS, key = "devices" ∨ key = "config_schema_version" ∨
      key = "source" ∨ key = "mqtt_broker_ip_address" ∨ key ∈ MQTT_TOPIC_KEYS ∨
      key ∈ INTEGER_BOUNDS.map Prod.fst ∨ key = "wifi_reconnect_delays_sec" ∨
      key = "mqtt_reconnect_delays_sec" := by decide
  have haccepted := h.config
  rcases hkinds key hkey with rfl | rfl | rfl | rfl | htopic | hint | rfl | rfl
  · exact (hne rfl).elim
  · rw [haccepted.version]
    exact .int _
  · obtain ⟨source, hsource, -⟩ := haccepted.source
    rw [hsource.1]
    exact .str _
  · obtain ⟨broker, hbroker, -⟩ := haccepted.broker
    rw [hbroker.1]
    exact .str _
  · obtain ⟨topic, htext⟩ := haccepted.topics key htopic
    rw [htext.1.1]
    exact .str _
  · obtain ⟨bound, hbound, rfl⟩ := List.mem_map.mp hint
    obtain ⟨n, hn, -⟩ := haccepted.integers bound hbound
    rw [hn]
    exact .int _
  · exact haccepted.wifiDelays.flat
  · exact haccepted.mqttDelays.flat

/-- The summary does not tell equal configurations apart. -/
theorem changesSummary_congr {persisted' candidate' : PyDict} (hp : Document persisted)
    (hp' : Document persisted') (hc : Document candidate) (hc' : Document candidate')
    (hpersisted : (PyValue.dict persisted).meaning = (PyValue.dict persisted').meaning)
    (hcandidate : (PyValue.dict candidate).meaning = (PyValue.dict candidate').meaning) :
    changesSummary persisted' candidate' = changesSummary persisted candidate := by
  have hkeys : sortedSet persisted'.keys = sortedSet persisted.keys :=
    sortedSet_congr (fun key => by rw [hp.mem_keys, hp'.mem_keys])
  have hdevices : ∀ {items items' : PyDict}, Document items → Document items' →
      (PyValue.dict items).meaning = (PyValue.dict items').meaning →
        meaningItems (devicesOf items) = meaningItems (devicesOf items') := by
    intro items items' h h' hsame
    have hlist := (equal_iff h' h).mp hsame "devices"
    rw [h.list, h'.list, PyValue.meaning, PyValue.meaning, Meaning.list.injEq] at hlist
    exact hlist
  have hfield : ∀ {items items' : PyDict}, Document items → Document items' →
      (PyValue.dict items).meaning = (PyValue.dict items').meaning → ∀ key ∈ REQUIRED_KEYS,
        key ≠ "devices" → items'.getD key = items.getD key := by
    intro items items' h h' hsame key hkey hne
    exact (h'.flat hkey hne).eq (h.flat hkey hne) ((equal_iff h' h).mp hsame key).symm
  have hsetting : ∀ key ∈ sortedSet persisted.keys,
      changesOfSetting persisted' candidate' key = changesOfSetting persisted candidate key := by
    intro key hmem
    have hkey := hp.mem_keys.mp ((mem_sortedSet _ _).mp hmem)
    rcases changesOfSetting_cases hp hc key with ⟨rfl, h⟩ | ⟨hne, h⟩
    · rcases changesOfSetting_cases hp' hc' "devices" with ⟨-, h'⟩ | ⟨hne, -⟩
      · rw [h, h']
        exact deviceChanges_congr hp.devices hp'.devices hc.devices hc'.devices
          (hdevices hp hp' hpersisted) (hdevices hc hc' hcandidate)
      · exact (hne rfl).elim
    · rcases changesOfSetting_cases hp' hc' key with ⟨hdevices, -⟩ | ⟨-, h'⟩
      · exact (hne hdevices).elim
      · rw [h, h', hfield hp hp' hpersisted key hkey hne, hfield hc hc' hcandidate key hkey hne]
  rw [changesSummary, changesSummary, hkeys]
  exact congrArg PyValue.list (List.flatMap_congr hsetting)

end Settings

/-- The summary of a write tells exactly what differs, sorted and each difference once; it is empty
exactly when the candidate is equal to the persisted configuration, and the order of the keys in
the two does not matter. -/
theorem changesSummary_exact {persisted candidate : PyDict} (hp : Document persisted)
    (hc : Document candidate) :
    changesSummary persisted candidate = .list (entries persisted candidate) ∧
    (entries persisted candidate = [] ↔
      (PyValue.dict candidate).pyEq (.dict persisted) = true) ∧
    (∀ key, (∃ change ∈ entries persisted candidate, settingOf change = key) ↔
      (persisted.getD key).pyEq (candidate.getD key) = false) ∧
    (∀ change, change ∈ entries persisted candidate ↔ Reported persisted candidate change) ∧
    (entries persisted candidate).Pairwise Before ∧
    ∀ persisted' candidate', Document persisted' → Document candidate' →
      Reordered (.dict persisted') (.dict persisted) →
        Reordered (.dict candidate') (.dict candidate) →
          changesSummary persisted' candidate' = changesSummary persisted candidate := by
  refine ⟨rfl, entries_eq_nil_iff hp hc, named_iff hp hc, fun change => mem_entries_iff hp hc,
    entries_sorted hp hc, ?_⟩
  intro persisted' candidate' hp' hc' hpersisted hcandidate
  exact changesSummary_congr hp hp' hc hc' (hpersisted.meaning hp.plain).symm
    (hcandidate.meaning hc.plain).symm

theorem document_shipped_1 : Document (shippedConfig "Soil-1").asDict :=
  ⟨validateConfig_self (by decide), by decide⟩

def soilSensor (id : String) (adcPin wetRaw : Int) : PyValue :=
  .dict [(.str "id", .str id), (.str "device_type", .str "yl69_fc28"), (.str "name", .str id),
    (.str "config", .dict [(.str "adc_pin", .int adcPin), (.str "dry_raw", .int 52000),
      (.str "wet_raw", .int wetRaw)])]

def soilConfig (source : String) (sensors : List PyValue) : PyDict :=
  Json.store (shippedConfig source).asDict "devices" (.list sensors)

def bedConfig : PyDict :=
  soilConfig "Soil-1" [soilSensor "bed" 26 22000, soilSensor "lawn" 27 22000]

def shedConfig : PyDict :=
  soilConfig "Soil-2" [soilSensor "lawn" 27 21000, soilSensor "shed" 28 22000]

def swappedConfig : PyDict :=
  soilConfig "Soil-1" [soilSensor "lawn" 27 22000, soilSensor "bed" 26 22000]

theorem devicesOf_bed : devicesOf bedConfig =
    [soilSensor "bed" 26 22000, soilSensor "lawn" 27 22000] := rfl

theorem devicesOf_shed : devicesOf shedConfig =
    [soilSensor "lawn" 27 21000, soilSensor "shed" 28 22000] := rfl

theorem document_bed : Document bedConfig := ⟨validateConfig_self (by decide), by decide⟩

theorem document_shed : Document shedConfig := ⟨validateConfig_self (by decide), by decide⟩

theorem document_swapped : Document swappedConfig := ⟨validateConfig_self (by decide), by decide⟩

theorem changesSummary_exact_shipped :
    settingChange "source" (.str "Soil-1") (.str "Soil-2") ∈ entries bedConfig shedConfig ∧
    deviceChange "REMOVED" "bed" (soilSensor "bed" 26 22000) ∈ entries bedConfig shedConfig ∧
    deviceChange "MODIFIED" "lawn" (soilSensor "lawn" 27 21000) ∈ entries bedConfig shedConfig ∧
    deviceChange "ADDED" "shed" (soilSensor "shed" 28 22000) ∈ entries bedConfig shedConfig ∧
    (entries bedConfig shedConfig).Pairwise Before ∧
    listChange ∈ entries bedConfig swappedConfig := by
  obtain ⟨-, -, -, hreported, hsorted, -⟩ := changesSummary_exact document_bed document_shed
  obtain ⟨-, -, -, hswapped, -⟩ := changesSummary_exact document_bed document_swapped
  refine ⟨(hreported _).mpr ?_, (hreported _).mpr (.device ?_), (hreported _).mpr (.device ?_),
    (hreported _).mpr (.device ?_), hsorted, (hswapped _).mpr (.device (.reordered ?_))⟩
  · exact @Reported.setting _ _ "source" (by decide) (by decide)
  · exact @DeviceReported.removed _ _ (soilSensor "bed" 26 22000) (by simp [devicesOf_bed])
      (by decide)
  · exact @DeviceReported.modified _ _ (soilSensor "lawn" 27 22000) (soilSensor "lawn" 27 21000)
      (by simp [devicesOf_bed]) (by simp [devicesOf_shed]) rfl (by decide)
  · exact @DeviceReported.added _ _ (soilSensor "shed" 28 22000) (by simp [devicesOf_shed])
      (by decide)
  · exact ⟨⟨_, List.Perm.swap _ _ [], by decide⟩, by decide⟩

end PicoDualCore
