import PicoDualCore.JsonRoundTrip
set_option autoImplicit false

/-!
Outbound message validation and serialization: JSON-safe values only, and a bound on the
serialized bytes.
-/

namespace PicoDualCore

abbrev Bytes := List UInt8

/-- Maximum outbound MQTT payload bytes. -/
def MAX_OUTBOUND_MESSAGE_BYTES : Nat := 16 * 1024

def utf8 (text : List Char) : Bytes := text.flatMap String.utf8EncodeChar

def utf8Decode (bytes : Bytes) : Option (List Char) :=
  (String.fromUTF8? ⟨bytes.toArray⟩).map String.toList

/-- `json.loads` of a buffer. -/
def loadsBytes (bytes : Bytes) : Except String PyValue :=
  match utf8Decode bytes with
  | some text => Json.loads text
  | none => .error "invalid UTF-8"

theorem utf8Decode_utf8 (text : List Char) : utf8Decode (utf8 text) = some text := by
  have harray : (⟨(utf8 text).toArray⟩ : ByteArray) = (String.ofList text).toByteArray := by
    rw [String.toByteArray_ofList]
    exact ByteArray.ext (by rw [List.utf8Encode, List.data_toByteArray]; rfl)
  rw [utf8Decode, harray, String.fromUTF8?, dif_pos (String.ofList text).isValidUTF8]
  exact congrArg some String.toList_ofList

theorem loadsBytes_utf8 (text : List Char) : loadsBytes (utf8 text) = Json.loads text := by
  rw [loadsBytes, utf8Decode_utf8]

@[simp] theorem utf8_append (s t : List Char) : utf8 (s ++ t) = utf8 s ++ utf8 t :=
  List.flatMap_append

theorem utf8_cons (c : Char) (rest : List Char) :
    utf8 (c :: rest) = String.utf8EncodeChar c ++ utf8 rest := rfl

theorem length_utf8_cons {c : Char} (h : c.toNat < 128) (rest : List Char) :
    (utf8 (c :: rest)).length = (utf8 rest).length + 1 := by
  have hone : (String.utf8EncodeChar c).length = 1 := by
    rw [String.length_utf8EncodeChar]
    exact Char.utf8Size_eq_one_iff.mpr (UInt32.le_iff_toNat_le.mpr (Nat.le_of_lt_succ h))
  rw [utf8_cons, List.length_append, hone, Nat.add_comm]

theorem length_utf8_of_ascii {text : List Char} (h : ∀ c ∈ text, c.toNat < 128) :
    (utf8 text).length = text.length := by
  induction text with
  | nil => rfl
  | cons c rest ih =>
    rw [length_utf8_cons (h c List.mem_cons_self), ih (fun d hd => h d (List.mem_cons_of_mem _ hd)),
      List.length_cons]

theorem length_utf8_toList (s : String) : (utf8 s.toList).length = s.utf8ByteSize := by
  rw [← String.size_toByteArray, ← String.utf8Encode_toList, List.utf8Encode,
    List.size_toByteArray]
  rfl

/-- The quotes `repr` puts around a string. -/
def reprQuote (s : String) : Char := if s.contains '\'' && !s.contains '"' then '"' else '\''

def reprChar (quote : Char) (c : Char) : List Char :=
  if c = '\\' then ['\\', '\\']
  else if c = quote then ['\\', c]
  else if c = '\n' then ['\\', 'n']
  else if c = '\r' then ['\\', 'r']
  else if c = '\t' then ['\\', 't']
  else if c.toNat < 32 || c.toNat = 127 then
    ['\\', 'x', Json.hexDigit (c.toNat / 16), Json.hexDigit (c.toNat % 16)]
  else [c]

def strRepr (s : String) : String :=
  String.ofList (reprQuote s :: s.toList.flatMap (reprChar (reprQuote s)) ++ [reprQuote s])

mutual

def PyValue.repr : PyValue → String
  | .none => "None"
  | .bool b => if b then "True" else "False"
  | .int n => toString n
  | .float f => String.ofList (Json.floatText f)
  | .str s => strRepr s
  | .list items => "[" ++ ", ".intercalate (reprItems items) ++ "]"
  | .tuple items => "(" ++ ", ".intercalate (reprItems items) ++ ")"
  | .dict items => "\x7b" ++ ", ".intercalate (reprPairs items) ++ "\x7d"
  | .other t => t

def PyValue.reprItems : List PyValue → List String
  | [] => []
  | item :: rest => PyValue.repr item :: PyValue.reprItems rest

def PyValue.reprPairs : List (PyKey × PyValue) → List String
  | [] => []
  | (.str key, value) :: rest =>
    (strRepr key ++ ": " ++ PyValue.repr value) :: PyValue.reprPairs rest
  | (.other t, value) :: rest => (t ++ ": " ++ PyValue.repr value) :: PyValue.reprPairs rest

end

/-- `str(value)`. -/
def PyValue.text : PyValue → String
  | .str s => s
  | v => v.repr

inductive SerializationError where
  | unsupportedValue (message : String)
  | nonStringKey (message : String)
  | nonFiniteFloat (message : String)
  | messageTooLarge (message : String)
  deriving DecidableEq, Repr

def SerializationError.message : SerializationError → String
  | .unsupportedValue m | .nonStringKey m | .nonFiniteFloat m | .messageTooLarge m => m

mutual

def isJsonSafe : PyValue → Bool
  | .none | .bool _ | .int _ | .str _ => true
  | .float (.finite _) => true
  | .float _ => false
  | .list items => allJsonSafe items
  | .tuple items => allJsonSafe items
  | .dict items => pairsJsonSafe items
  | .other _ => false

def allJsonSafe : List PyValue → Bool
  | [] => true
  | item :: rest => isJsonSafe item && allJsonSafe rest

def pairsJsonSafe : List (PyKey × PyValue) → Bool
  | [] => true
  | (.str _, value) :: rest => isJsonSafe value && pairsJsonSafe rest
  | (.other _, _) :: _ => false

end

mutual

/-- The path-producing validator, which runs on failure only. -/
def validateValue (path : String) : PyValue → Except SerializationError Unit
  | .none | .bool _ | .int _ | .str _ => .ok ()
  | .float (.finite _) => .ok ()
  | .float f =>
    let value := (PyValue.float f).text
    .error (.nonFiniteFloat s!"Non-finite float at {path}: {value}")
  | .list items => validateItems path 0 items
  | .tuple items => validateItems path 0 items
  | .dict items => validatePairs path items
  | .other t => .error (.unsupportedValue s!"Unsupported type at {path}: {t} (got {t})")

def validateItems (path : String) (index : Nat) : List PyValue → Except SerializationError Unit
  | [] => .ok ()
  | item :: rest => do
    validateValue s!"{path}[{index}]" item
    validateItems path (index + 1) rest

def validatePairs (path : String) : List (PyKey × PyValue) → Except SerializationError Unit
  | [] => .ok ()
  | (.str key, value) :: rest => do
    let shown := strRepr key
    validateValue s!"{path}[{shown}]" value
    validatePairs path rest
  | (.other t, _) :: _ => .error (.nonStringKey s!"Non-string key at {path}: {t}")

end

/-- `json.dumps` cannot fail on a value that has been validated. -/
def serializeToBytes (message : PyValue) : Bytes := utf8 (Json.dumps message)

def serializeAndValidateMessage (message : PyValue) : Except SerializationError Bytes := do
  if !isJsonSafe message then validateValue "root" message
  let payloadBytes := serializeToBytes message
  let size := payloadBytes.length
  if MAX_OUTBOUND_MESSAGE_BYTES < size then
    throw (.messageTooLarge
      s!"Message size {size} exceeds maximum {MAX_OUTBOUND_MESSAGE_BYTES}")
  pure payloadBytes

mutual

/-- The two validators agree on every value. -/
theorem validateValue_ok_iff (path : String) (v : PyValue) :
    validateValue path v = .ok () ↔ isJsonSafe v = true := by
  cases v with
  | none => simp [validateValue, isJsonSafe]
  | bool b => simp [validateValue, isJsonSafe]
  | int n => simp [validateValue, isJsonSafe]
  | str s => simp [validateValue, isJsonSafe]
  | float f => cases f <;> simp [validateValue, isJsonSafe]
  | list items => simpa [validateValue, isJsonSafe] using validateItems_ok_iff path 0 items
  | tuple items => simpa [validateValue, isJsonSafe] using validateItems_ok_iff path 0 items
  | dict items => simpa [validateValue, isJsonSafe] using validatePairs_ok_iff path items
  | other t => simp [validateValue, isJsonSafe]

theorem validateItems_ok_iff (path : String) (index : Nat) (items : List PyValue) :
    validateItems path index items = .ok () ↔ allJsonSafe items = true := by
  cases items with
  | nil => simp [validateItems, allJsonSafe]
  | cons item rest =>
    have hitem := validateValue_ok_iff s!"{path}[{index}]" item
    have hrest := validateItems_ok_iff path (index + 1) rest
    rw [validateItems, allJsonSafe, Bool.and_eq_true, ← hitem, ← hrest]
    cases validateValue s!"{path}[{index}]" item <;> simp [bind, Except.bind]

theorem validatePairs_ok_iff (path : String) (items : List (PyKey × PyValue)) :
    validatePairs path items = .ok () ↔ pairsJsonSafe items = true := by
  cases items with
  | nil => simp [validatePairs, pairsJsonSafe]
  | cons item rest =>
    obtain ⟨key, value⟩ := item
    cases key with
    | other t => simp [validatePairs, pairsJsonSafe]
    | str key =>
      have hvalue := validateValue_ok_iff s!"{path}[{strRepr key}]" value
      have hrest := validatePairs_ok_iff path rest
      rw [validatePairs, pairsJsonSafe, Bool.and_eq_true, ← hvalue, ← hrest]
      cases validateValue s!"{path}[{strRepr key}]" value <;> simp [bind, Except.bind]

end

mutual

theorem isJsonSafe_of_plain {v : PyValue} (h : Json.plain v = true) : isJsonSafe v = true := by
  cases v with
  | float f =>
    cases f with
    | finite d => rfl
    | _ => cases h
  | list items => exact allJsonSafe_of_plain h
  | tuple items => exact allJsonSafe_of_plain h
  | dict items =>
    simp only [Json.plain, Bool.and_eq_true] at h
    exact pairsJsonSafe_of_plain h.2
  | other t => cases h
  | _ => rfl

theorem allJsonSafe_of_plain {items : List PyValue} (h : Json.plainItems items = true) :
    allJsonSafe items = true := by
  cases items with
  | nil => rfl
  | cons item rest =>
    simp only [Json.plainItems, Bool.and_eq_true] at h
    rw [allJsonSafe, isJsonSafe_of_plain h.1, allJsonSafe_of_plain h.2]
    rfl

theorem pairsJsonSafe_of_plain {items : List (PyKey × PyValue)} (h : Json.plainPairs items = true) :
    pairsJsonSafe items = true := by
  cases items with
  | nil => rfl
  | cons item rest =>
    obtain ⟨key, value⟩ := item
    cases key with
    | other t => cases h
    | str key =>
      simp only [Json.plainPairs, Bool.and_eq_true] at h
      rw [pairsJsonSafe, isJsonSafe_of_plain h.1, pairsJsonSafe_of_plain h.2]
      rfl

end

/-- What is serialized is JSON-safe and within the bound, and nothing else is refused. -/
theorem serializeAndValidateMessage_ok_iff {message : PyValue} {payload : Bytes} :
    serializeAndValidateMessage message = .ok payload ↔
      isJsonSafe message = true ∧ payload = serializeToBytes message ∧
        payload.length ≤ MAX_OUTBOUND_MESSAGE_BYTES := by
  unfold serializeAndValidateMessage
  cases hsafe : isJsonSafe message with
  | false =>
    have hbad : validateValue "root" message ≠ .ok () := by
      rw [Ne, validateValue_ok_iff, hsafe]
      simp
    cases hv : validateValue "root" message with
    | ok u => exact absurd hv hbad
    | error e => simp [bind, Except.bind]
  | true =>
    by_cases hsize : MAX_OUTBOUND_MESSAGE_BYTES < (serializeToBytes message).length
    · simp only [Bool.not_true, Bool.false_eq_true, if_false, hsize, if_true, true_and, bind,
        Except.bind, pure, Except.pure, throw, throwThe, MonadExceptOf.throw, reduceCtorEq,
        false_iff, not_and]
      rintro rfl
      omega
    · simp only [Bool.not_true, Bool.false_eq_true, if_false, hsize, true_and, bind, Except.bind,
        pure, Except.pure, Except.ok.injEq]
      constructor
      · rintro rfl
        exact ⟨rfl, by omega⟩
      · exact fun h => h.1.symm

end PicoDualCore
