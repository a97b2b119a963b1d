import PicoDualCore.CommandResponse
import PicoDualCore.OutboundQueue
set_option autoImplicit false

/-!
The command responses of Core 1: what a full queue or a response that cannot be serialized is
answered with. What each call of `put` comes to is an input.
-/

namespace PicoDualCore

/-- A response as `_build_command_response` makes it: `data` goes out on success, `error`
otherwise. -/
structure Core1Response where
  commandId : PyValue
  command : PyValue
  targeted : PyValue
  success : Bool
  data : PyDict := []
  error : PyValue := .none
  uptimeMs : Int
  timestamp : Option String

def Core1Response.payload (r : Core1Response) : PyDict :=
  [(.str "command_id", r.commandId), (.str "command", r.command), (.str "targeted", r.targeted),
    (.str "success", .bool r.success),
    if r.success then (.str "data", .dict r.data) else (.str "error", r.error)]

def Core1Response.message (r : Core1Response) : PyDict :=
  [(.str "message_type", .str "command_response"), (.str "uptime_ms", .int r.uptimeMs),
    (.str "timestamp", timestampValue r.timestamp), (.str "payload", .dict r.payload)]

/-- `payload.get("data") or {}`. -/
def Core1Response.sections (r : Core1Response) : PyDict := if r.success then r.data else []

def buildCommandResponse (messageTime : Int × Option String) (event : PyDict) (success : Bool)
    (data : PyDict := []) (error : PyValue := .none) : Core1Response where
  commandId := event.getD "command_id"
  command := event.getD "command"
  targeted := (event.get? "targeted").getD (.bool false)
  success
  data
  error
  uptimeMs := messageTime.1
  timestamp := messageTime.2

theorem buildCommandResponse_payload (messageTime : Int × Option String) (r : Core1Response)
    (success : Bool) (data : PyDict) (error : PyValue) :
    buildCommandResponse messageTime r.payload success data error =
      { r with success, data, error, uptimeMs := messageTime.1, timestamp := messageTime.2 } := by
  simp [buildCommandResponse, Core1Response.payload, PyDict.getD, PyDict.get?]

def SYSTEM_INFORMATION_SECTIONS : List String :=
  ["network", "memory", "runtime", "devices", "cpu", "machine", "communications", "queues",
    "device_status"]

inductive SectionError where
  | memoryError
  | exception (text : String)

/-- What the getters of the system information come to; a missing one is `none`. -/
structure SystemInformation where
  deviceSections : Option (Except SectionError PyDict)
  sectionOf? : String → Option (Except SectionError PyValue)

def errorSection (text : String) : PyValue := .dict [(.str "error", .str text)]

/-- `system_info[section] = section_data`, if it is safe. -/
def addSection (systemInfo : PyDict) (name : String) (data : PyValue) : PyDict :=
  if isJsonSafe data then systemInfo ++ [(.str name, data)] else systemInfo

def collectSections (information : SystemInformation) (deviceSections : Option PyDict) :
    List String → PyDict → Except SectionError PyDict
  | [], systemInfo => .ok systemInfo
  | name :: rest, systemInfo =>
    match (deviceSections.getD []).get? name with
    | some data => collectSections information deviceSections rest (addSection systemInfo name data)
    | none =>
      match information.sectionOf? name with
      | none => collectSections information deviceSections rest systemInfo
      | some (.ok data) =>
        collectSections information deviceSections rest (addSection systemInfo name data)
      | some (.error (.exception text)) =>
        collectSections information deviceSections rest
          (systemInfo ++ [(.str name, errorSection text)])
      | some (.error .memoryError) => .error .memoryError

def collectSystemInformationFull (information : SystemInformation) : Except SectionError PyDict :=
  match information.deviceSections with
  | none => collectSections information none SYSTEM_INFORMATION_SECTIONS []
  | some (.ok sections) =>
    collectSections information (some sections) SYSTEM_INFORMATION_SECTIONS []
  | some (.error (.exception text)) =>
    collectSections information
      (some [(.str "devices", errorSection text), (.str "device_status", errorSection text)])
      SYSTEM_INFORMATION_SECTIONS []
  | some (.error .memoryError) => .error .memoryError

def processIntercoreEvent (messageTime : Int × Option String) (event : Option PyDict)
    (information : Option SystemInformation) : Except SectionError (Option Core1Response) :=
  match event with
  | none => .ok none
  | some event =>
    if !(event.getD "command").pyEq (.str COMMAND_GET_DETAILS) then .ok none
    else match information with
      | none => .ok (some (buildCommandResponse messageTime event false []
          (commandErrorObject "system_information_unavailable"
            "System information is unavailable")))
      | some information => do
        let data ← collectSystemInformationFull information
        pure (some (buildCommandResponse messageTime event true data))

/-- What `put` raises. -/
inductive PutError where
  | tooLarge (message : String)
  | invalid (message : String)
  | memoryError
  deriving DecidableEq, Repr

/-- One call of `put`, and what it came to. -/
structure PutCall where
  kind : Kind
  message : PyDict
  retentionPriority : Int
  outcome : Except PutError Bool

def PutCall.raised (call : PutCall) : Option PutError :=
  match call.outcome with
  | .ok _ => none
  | .error e => some e

structure ResponseChannel where
  outcomes : Nat → Except PutError Bool
  messageTimes : Nat → Int × Option String
  calls : List PutCall := []
  builds : Nat := 0

def ResponseChannel.put (ch : ResponseChannel) (kind : Kind) (message : PyDict)
    (retentionPriority : Int) : Except PutError Bool × ResponseChannel :=
  let outcome := ch.outcomes ch.calls.length
  (outcome, { ch with calls := ch.calls ++ [⟨kind, message, retentionPriority, outcome⟩] })

def ResponseChannel.rebuild (ch : ResponseChannel) (response : Core1Response) (success : Bool)
    (data : PyDict) (error : PyValue) : Core1Response × ResponseChannel :=
  (buildCommandResponse (ch.messageTimes ch.builds) response.payload success data error,
    { ch with builds := ch.builds + 1 })

def Core1Response.call (r : Core1Response) (outcome : Except PutError Bool) : PutCall where
  kind := .commandResponse
  message := r.message
  retentionPriority := RETENTION_PRIORITY_CRITICAL
  outcome

def tryQueueResponse (ch : ResponseChannel) (response : Core1Response) :
    Except PutError Bool × ResponseChannel :=
  ch.put .commandResponse response.message RETENTION_PRIORITY_CRITICAL

def buildSubstituteErrorResponse (ch : ResponseChannel) (response : Core1Response)
    (code message : String) : Core1Response × ResponseChannel :=
  ch.rebuild response false [] (commandErrorObject code message)

abbrev AdmissionResult := Except PutError (Option Core1Response)

/-- `None` once admitted, the substitute as long as it is pending. -/
def admitSubstitute (ch : ResponseChannel) (response : Core1Response) (code message : String) :
    AdmissionResult × ResponseChannel :=
  let (substitute, ch) := buildSubstituteErrorResponse ch response code message
  match tryQueueResponse ch substitute with
  | (.ok true, ch) => (.ok none, ch)
  | (.ok false, ch) => (.ok (some substitute), ch)
  | (.error e, ch) => (.error e, ch)

def omittedSections (data : PyDict) : List PyValue :=
  match data.get? "omitted_sections" with
  | some (.list omitted) => omitted
  | _ => []

def buildGetDetailsResponseWithout (ch : ResponseChannel) (response : Core1Response)
    (name : String) : Core1Response × ResponseChannel :=
  let data := response.data.filter (fun item => item.1 ≠ .str name)
  let omitted := omittedSections data ++ [.str name]
  ch.rebuild response true (Json.store data "omitted_sections" (.list omitted)) .none

def GET_DETAILS_FALLBACK_DROP_ORDER : List String := ["device_status", "devices"]

def admitTooLarge (ch : ResponseChannel) (response : Core1Response) :
    AdmissionResult × ResponseChannel :=
  admitSubstitute ch response "response_too_large"
    "Command response exceeded the per-message size limit"

def admitInvalid (ch : ResponseChannel) (response : Core1Response) :
    AdmissionResult × ResponseChannel :=
  admitSubstitute ch response "response_invalid"
    "Command response could not be serialized for transmission"

def admitWithout (ch : ResponseChannel) (response candidate : Core1Response) :
    List String → AdmissionResult × ResponseChannel
  | [] => admitInvalid ch response
  | name :: rest =>
    if candidate.sections.has name then
      let (candidate, ch) := buildGetDetailsResponseWithout ch candidate name
      match tryQueueResponse ch candidate with
      | (.ok true, ch) => (.ok none, ch)
      | (.ok false, ch) => (.ok (some candidate), ch)
      | (.error .memoryError, ch) => admitWithout ch response candidate rest
      | (.error (.tooLarge _), ch) => admitTooLarge ch candidate
      | (.error (.invalid _), ch) => admitInvalid ch candidate
    else admitWithout ch response candidate rest

def admitAfterSerializationMemoryError (ch : ResponseChannel) (response : Core1Response) :
    AdmissionResult × ResponseChannel :=
  if response.command.pyEq (.str COMMAND_GET_DETAILS) then
    admitWithout ch response response GET_DETAILS_FALLBACK_DROP_ORDER
  else admitInvalid ch response

/-- The response still pending, or `none` if one was admitted. -/
def admitOrSubstituteCommandResponse (ch : ResponseChannel) (response : Core1Response) :
    AdmissionResult × ResponseChannel :=
  match tryQueueResponse ch response with
  | (.ok true, ch) => (.ok none, ch)
  | (.ok false, ch) => (.ok (some response), ch)
  | (.error (.tooLarge _), ch) => admitTooLarge ch response
  | (.error (.invalid _), ch) => admitInvalid ch response
  | (.error .memoryError, ch) => admitAfterSerializationMemoryError ch response

/-- As many passes of the loop, as long as a response is pending. -/
def admitOnPasses : Nat → ResponseChannel → Core1Response → AdmissionResult × ResponseChannel
  | 0, ch, response => (.ok (some response), ch)
  | passes + 1, ch, response =>
    match admitOrSubstituteCommandResponse ch response with
    | (.ok (some pending), ch) => admitOnPasses passes ch pending
    | settled => settled

/-- The code of the error form that answers an exception. -/
def PutError.code : PutError → String
  | .tooLarge _ => "response_too_large"
  | .invalid _ => "response_invalid"
  | .memoryError => "response_invalid"

def lastRaised (calls : List PutCall) : Option PutError := (calls.filterMap PutCall.raised).getLast?

def admittedMessages (calls : List PutCall) : List PyDict :=
  (calls.filter (fun call => call.outcome matches .ok true)).map PutCall.message

def withoutSections (data : PyDict) (dropped : List String) : PyDict :=
  if dropped = [] then data
  else data.filter (fun item => item.1 ∉ dropped.map PyKey.str) ++
    [(.str "omitted_sections", .list (dropped.map .str))]

/-- The sections of `data` that the first steps of the fallback drop. -/
def droppedSections (data : PyDict) (gone : List String) : List String := gone.filter data.has

def errorCode (r : Core1Response) : PyValue :=
  match r.error with
  | .dict error => PyDict.getD error "code"
  | _ => .none

structure SameCommand (original r : Core1Response) : Prop where
  commandId : r.commandId = original.commandId
  command : r.command = original.command
  targeted : r.targeted = original.targeted

/-- A success form of `original` that at least the sections `done` have been dropped from. -/
def Reduced (original : Core1Response) (done : List String) (r : Core1Response) : Prop :=
  original.success = true ∧ ∃ gone, done <+: gone ∧ gone <+: GET_DETAILS_FALLBACK_DROP_ORDER ∧
    r.data = withoutSections original.data (droppedSections original.data gone)

/-- The form that the response has taken after some calls of `put`. -/
structure StandsFor (original : Core1Response) (calls : List PutCall) (r : Core1Response) :
    Prop where
  same : SameCommand original r
  untouched : lastRaised calls = none → r = original
  reduced : r.success = true → Reduced original [] r
  cause : r.success = false → ∀ e, lastRaised calls = some e → errorCode r = .str e.code

/-- One response admitted, or one pending, or an exception of the error form. -/
def Settled (original : Core1Response) : AdmissionResult × ResponseChannel → Prop
  | (.ok none, ch) => ∃ r, admittedMessages ch.calls = [r.message] ∧ StandsFor original ch.calls r
  | (.ok (some r), ch) => admittedMessages ch.calls = [] ∧ StandsFor original ch.calls r
  | (.error e, ch) => admittedMessages ch.calls = [] ∧
      ∃ before r, ch.calls = before ++ [r.call (.error e)] ∧ StandsFor original before r ∧
        r.success = false ∧ lastRaised before ≠ none

section Calls

variable {original r : Core1Response} {calls : List PutCall} {ch : ResponseChannel}

theorem tryQueueResponse_calls (ch : ResponseChannel) (r : Core1Response) :
    (tryQueueResponse ch r).2.calls = ch.calls ++ [r.call (tryQueueResponse ch r).1] := rfl

theorem lastRaised_ok (b : Bool) : lastRaised (calls ++ [r.call (.ok b)]) = lastRaised calls := by
  simp [lastRaised, PutCall.raised, Core1Response.call]

theorem lastRaised_error (e : PutError) :
    lastRaised (calls ++ [r.call (.error e)]) = some e := by
  simp [lastRaised, PutCall.raised, Core1Response.call]

theorem admittedMessages_true :
    admittedMessages (calls ++ [r.call (.ok true)]) = admittedMessages calls ++ [r.message] := by
  simp [admittedMessages, Core1Response.call]

theorem admittedMessages_false :
    admittedMessages (calls ++ [r.call (.ok false)]) = admittedMessages calls := by
  simp [admittedMessages, Core1Response.call]

theorem admittedMessages_error (e : PutError) :
    admittedMessages (calls ++ [r.call (.error e)]) = admittedMessages calls := by
  simp [admittedMessages, Core1Response.call]

theorem StandsFor.tried (h : StandsFor original calls r) (b : Bool) :
    StandsFor original (calls ++ [r.call (.ok b)]) r where
  same := h.same
  untouched := by rw [lastRaised_ok]; exact h.untouched
  reduced := h.reduced
  cause := by rw [lastRaised_ok]; exact h.cause

/-- What a call with a form of the response leaves, by its outcome. -/
theorem tryQueueResponse_settled (ch : ResponseChannel) (r : Core1Response)
    (hnone : admittedMessages ch.calls = []) (h : StandsFor original ch.calls r) :
    match tryQueueResponse ch r with
    | (.ok true, ch') => Settled original (.ok none, ch')
    | (.ok false, ch') => Settled original (.ok (some r), ch')
    | (.error e, ch') => admittedMessages ch'.calls = [] ∧ lastRaised ch'.calls = some e ∧
        ch'.calls = ch.calls ++ [r.call (.error e)] := by
  have hcalls := tryQueueResponse_calls ch r
  match htry : tryQueueResponse ch r with
  | (.ok true, ch') =>
    rw [htry] at hcalls
    refine ⟨r, ?_, ?_⟩
    · rw [hcalls, admittedMessages_true, hnone, List.nil_append]
    · rw [hcalls]
      exact h.tried true
  | (.ok false, ch') =>
    rw [htry] at hcalls
    refine ⟨?_, ?_⟩
    · rw [hcalls, admittedMessages_false, hnone]
    · rw [hcalls]
      exact h.tried false
  | (.error e, ch') =>
    rw [htry] at hcalls
    refine ⟨?_, ?_, hcalls⟩
    · rw [hcalls, admittedMessages_error, hnone]
    · rw [hcalls, lastRaised_error]

theorem substitute_standsFor {e : PutError} {code message : String}
    (hsame : SameCommand original r) (hlast : lastRaised ch.calls = some e) (hcode : code = e.code) :
    StandsFor original ch.calls (buildSubstituteErrorResponse ch r code message).1 := by
  rw [buildSubstituteErrorResponse, ResponseChannel.rebuild, buildCommandResponse_payload]
  refine ⟨⟨hsame.commandId, hsame.command, hsame.targeted⟩, ?_, ?_, ?_⟩
  · intro hnone
    rw [hlast] at hnone
    cases hnone
  · intro hsuccess
    cases hsuccess
  · intro _ e' he'
    rw [hlast, Option.some.injEq] at he'
    rw [← he', ← hcode]
    rfl

theorem admitSubstitute_settled {e : PutError} {code message : String}
    (hnone : admittedMessages ch.calls = []) (hsame : SameCommand original r)
    (hlast : lastRaised ch.calls = some e) (hcode : code = e.code) :
    Settled original (admitSubstitute ch r code message) := by
  have hstands : StandsFor original ch.calls (buildSubstituteErrorResponse ch r code message).1 :=
    substitute_standsFor hsame hlast hcode
  have hput := tryQueueResponse_settled (buildSubstituteErrorResponse ch r code message).2 _
    hnone hstands
  unfold admitSubstitute
  dsimp only
  match htry : tryQueueResponse (buildSubstituteErrorResponse ch r code message).2
      (buildSubstituteErrorResponse ch r code message).1 with
  | (.ok true, ch') =>
    rw [htry] at hput
    exact hput
  | (.ok false, ch') =>
    rw [htry] at hput
    exact hput
  | (.error e', ch') =>
    rw [htry] at hput
    refine ⟨hput.1, ch.calls, _, hput.2.2, hstands, rfl, ?_⟩
    rw [hlast]
    exact Option.some_ne_none e

end Calls

section Sections

variable {data : PyDict} {dropped : List String} {name : String}

theorem PyDict.get?_filter (keep : PyKey → Bool) (d : PyDict) (key : String) :
    PyDict.get? (d.filter (fun item => keep item.1)) key =
      if keep (.str key) then d.get? key else none := by
  induction d with
  | nil => simp [PyDict.get?]
  | cons item rest ih =>
    obtain ⟨k, v⟩ := item
    by_cases hk : k = .str key
    · subst hk
      by_cases hkeep : keep (.str key) = true
      · simp [PyDict.get?, hkeep]
      · simp [hkeep, ih]
    · by_cases hkeep : keep k = true
      · simp [PyDict.get?, hkeep, hk, ih]
      · simp [PyDict.get?, hkeep, hk, ih]

theorem PyDict.get?_append (d e : PyDict) (key : String) :
    PyDict.get? (d ++ e) key = (d.get? key).or (e.get? key) := by
  induction d with
  | nil => rfl
  | cons item rest ih =>
    obtain ⟨k, v⟩ := item
    by_cases hk : k = .str key
    · simp [PyDict.get?, hk]
    · rw [List.cons_append, PyDict.get?, PyDict.get?, if_neg hk, if_neg hk, ih]

theorem has_withoutSections (hname : name ≠ "omitted_sections") :
    (withoutSections data dropped).has name = (data.has name && !dropped.contains name) := by
  unfold withoutSections
  split
  · rename_i hnil
    simp [hnil]
  · have hmarker : PyDict.get? [(PyKey.str "omitted_sections",
        PyValue.list (dropped.map .str))] name = none := by
      simp [PyDict.get?, Ne.symm hname]
    rw [PyDict.has, PyDict.get?_append, hmarker,
      PyDict.get?_filter (fun key => key ∉ dropped.map PyKey.str)]
    by_cases hmem : name ∈ dropped <;> simp [hmem, PyDict.has]

theorem store_last {members : PyDict} {key : String} (old new : PyValue)
    (h : PyKey.str key ∉ members.map Prod.fst) :
    Json.store (members ++ [(.str key, old)]) key new = members ++ [(.str key, new)] := by
  induction members with
  | nil => simp [Json.store]
  | cons item rest ih =>
    obtain ⟨k, v⟩ := item
    simp only [List.map_cons, List.mem_cons, not_or] at h
    simp [Json.store, Ne.symm h.1, ih h.2]

theorem withoutSections_step (hfresh : data.has "omitted_sections" = false)
    (hname : name ≠ "omitted_sections") :
    Json.store ((withoutSections data dropped).filter (fun item => item.1 ≠ .str name))
        "omitted_sections" (.list (omittedSections ((withoutSections data dropped).filter
          (fun item => item.1 ≠ .str name)) ++ [.str name])) =
      withoutSections data (dropped ++ [name]) := by
  have hkept : data.filter (fun item => item.1 ∉ (dropped ++ [name]).map PyKey.str) =
      (data.filter (fun item => item.1 ∉ dropped.map PyKey.str)).filter
        (fun item => item.1 ≠ .str name) := by
    rw [List.filter_filter]
    refine List.filter_congr (fun item _ => ?_)
    simp [and_comm]
  have hnew : PyKey.str "omitted_sections" ∉
      (data.filter (fun item => item.1 ∉ (dropped ++ [name]).map PyKey.str)).map Prod.fst :=
    fun hmem => PyDict.has_eq_false_iff.mp hfresh
      ((List.filter_sublist.map Prod.fst).subset hmem)
  have hnone : PyDict.get?
      (data.filter (fun item => item.1 ∉ (dropped ++ [name]).map PyKey.str))
        "omitted_sections" = none := by
    simpa [PyDict.has] using PyDict.has_eq_false_iff.mpr hnew
  have hright : withoutSections data (dropped ++ [name]) =
      data.filter (fun item => item.1 ∉ (dropped ++ [name]).map PyKey.str) ++
        [(.str "omitted_sections", .list ((dropped ++ [name]).map .str))] :=
    if_neg (by simp)
  rw [hright]
  generalize hrest : data.filter (fun item => item.1 ∉ (dropped ++ [name]).map PyKey.str) =
    kept at hkept hnew hnone ⊢
  by_cases hnil : dropped = []
  · subst hnil
    have hdata : data.filter (fun item => item.1 ≠ .str name) = kept := by simpa using hkept.symm
    have homitted : omittedSections kept = [] := by simp [omittedSections, hnone]
    rw [withoutSections, if_pos rfl, hdata, homitted, Json.store_new _ hnew]
    rfl
  · have hmarker : [(PyKey.str "omitted_sections", PyValue.list (dropped.map .str))].filter
        (fun item => item.1 ≠ .str name) =
          [(PyKey.str "omitted_sections", PyValue.list (dropped.map .str))] := by
      simp [Ne.symm hname]
    have homitted : omittedSections
        (kept ++ [(PyKey.str "omitted_sections", PyValue.list (dropped.map .str))]) =
          dropped.map .str := by
      simp [omittedSections, PyDict.get?_append, hnone, PyDict.get?]
    rw [withoutSections, if_neg hnil, List.filter_append, hmarker, ← hkept, homitted,
      store_last _ _ hnew, List.map_append]
    rfl

end Sections

section Fallback

variable {original r : Core1Response} {calls : List PutCall} {ch : ResponseChannel}

theorem mem_dropOrder_ne {name : String} (h : name ∈ GET_DETAILS_FALLBACK_DROP_ORDER) :
    name ≠ "omitted_sections" := by
  rintro rfl
  exact absurd h (by decide)

theorem Reduced.next {done rest : List String} {name : String}
    (horder : GET_DETAILS_FALLBACK_DROP_ORDER = done ++ name :: rest)
    (h : Reduced original done r) :
    (r.data.has name = true → r.data = withoutSections original.data
        (droppedSections original.data done) ∧ original.data.has name = true) ∧
      (r.data.has name = false → Reduced original (done ++ [name]) r) := by
  obtain ⟨hsuccess, gone, hdone, hgone, hdata⟩ := h
  have hname : name ≠ "omitted_sections" := mem_dropOrder_ne (horder ▸ by simp)
  have hthis : done ++ [name] <+: GET_DETAILS_FALLBACK_DROP_ORDER := by
    rw [horder]
    exact ⟨rest, by simp⟩
  have hhas : r.data.has name = (original.data.has name &&
      !(droppedSections original.data gone).contains name) := by
    rw [hdata, has_withoutSections hname]
  by_cases hlength : gone.length ≤ done.length
  · have hsame : gone = done := (hdone.eq_of_length_le hlength).symm
    subst hsame
    have hnodup : name ∉ gone := by
      have hn : (gone ++ name :: rest).Nodup := by
        rw [← horder]
        decide
      intro hmem
      exact (List.nodup_append.mp hn).2.2 name hmem name List.mem_cons_self rfl
    have hnot : name ∉ droppedSections original.data gone :=
      fun hmem => hnodup (List.mem_filter.mp hmem).1
    have horiginal : r.data.has name = original.data.has name := by simp [hhas, hnot]
    refine ⟨fun hpresent => ⟨hdata, horiginal ▸ hpresent⟩, fun habsent => ?_⟩
    refine ⟨hsuccess, gone ++ [name], List.prefix_refl _, hthis, ?_⟩
    have hlast : droppedSections original.data (gone ++ [name]) =
        droppedSections original.data gone := by
      rw [horiginal] at habsent
      simp [droppedSections, habsent]
    rw [hlast, hdata]
  · have hlater : done ++ [name] <+: gone :=
      List.prefix_of_prefix_length_le hthis hgone (by simp; omega)
    have hmem : name ∈ gone := hlater.subset (by simp)
    refine ⟨fun hpresent => ?_, fun _ => ⟨hsuccess, gone, hlater, hgone, hdata⟩⟩
    rw [hhas, Bool.and_eq_true] at hpresent
    have hdropped : name ∈ droppedSections original.data gone :=
      List.mem_filter.mpr ⟨hmem, hpresent.1⟩
    simp [hdropped] at hpresent

theorem Reduced.any {done : List String} (h : Reduced original done r) : Reduced original [] r := by
  obtain ⟨hsuccess, gone, -, hgone, hdata⟩ := h
  exact ⟨hsuccess, gone, List.nil_prefix, hgone, hdata⟩

theorem without_standsFor (ch : ResponseChannel) {done rest : List String} {name : String}
    (hfresh : original.data.has "omitted_sections" = false)
    (horder : GET_DETAILS_FALLBACK_DROP_ORDER = done ++ name :: rest)
    (hlast : lastRaised calls ≠ none) (hsame : SameCommand original r)
    (hreduced : Reduced original done r) (hhas : r.data.has name = true) :
    Reduced original (done ++ [name]) (buildGetDetailsResponseWithout ch r name).1 ∧
      StandsFor original calls (buildGetDetailsResponseWithout ch r name).1 := by
  have hname : name ≠ "omitted_sections" := mem_dropOrder_ne (horder ▸ by simp)
  obtain ⟨hdata, horiginal⟩ := (hreduced.next horder).1 hhas
  have hless : Reduced original (done ++ [name]) (buildGetDetailsResponseWithout ch r name).1 := by
    refine ⟨hreduced.1, done ++ [name], List.prefix_refl _, ⟨rest, by simp [horder]⟩, ?_⟩
    have hdropped : droppedSections original.data (done ++ [name]) =
        droppedSections original.data done ++ [name] := by
      simp [droppedSections, horiginal]
    rw [hdropped, ← withoutSections_step hfresh hname, ← hdata]
    rfl
  refine ⟨hless, ?_, fun hnone => (hlast hnone).elim, fun _ => hless.any, ?_⟩
  · rw [buildGetDetailsResponseWithout, ResponseChannel.rebuild, buildCommandResponse_payload]
    exact ⟨hsame.commandId, hsame.command, hsame.targeted⟩
  · intro hfailed
    cases hfailed

theorem admitWithout_settled {candidate : Core1Response} {done rest : List String}
    (hfresh : original.data.has "omitted_sections" = false)
    (horder : GET_DETAILS_FALLBACK_DROP_ORDER = done ++ rest)
    (hnone : admittedMessages ch.calls = [])
    (hlast : lastRaised ch.calls = some .memoryError) (hsame : SameCommand original r)
    (hcandidate : SameCommand original candidate)
    (hreduced : candidate.success = true → Reduced original done candidate) :
    Settled original (admitWithout ch r candidate rest) := by
  induction rest generalizing done ch candidate with
  | nil => exact admitSubstitute_settled hnone hsame hlast rfl
  | cons name rest ih =>
    have hmore : GET_DETAILS_FALLBACK_DROP_ORDER = (done ++ [name]) ++ rest := by simp [horder]
    unfold admitWithout
    by_cases hhas : candidate.sections.has name = true
    · rw [if_pos hhas]
      have hsuccess : candidate.success = true := by
        cases h : candidate.success with
        | true => rfl
        | false => simp [Core1Response.sections, h, PyDict.has, PyDict.get?] at hhas
      have hdata : candidate.data.has name = true := by
        simpa [Core1Response.sections, hsuccess] using hhas
      have hraised : lastRaised ch.calls ≠ none := by
        rw [hlast]
        exact Option.some_ne_none _
      obtain ⟨hless, hstands⟩ := without_standsFor ch hfresh horder hraised hcandidate
        (hreduced hsuccess) hdata
      have hput := tryQueueResponse_settled (buildGetDetailsResponseWithout ch candidate name).2 _
        hnone hstands
      dsimp only
      rcases htry : tryQueueResponse (buildGetDetailsResponseWithout ch candidate name).2
        (buildGetDetailsResponseWithout ch candidate name).1 with ⟨answer, ch'⟩
      rw [htry] at hput
      cases answer with
      | ok admitted => cases admitted <;> exact hput
      | error e =>
        cases e with
        | memoryError => exact ih hmore hput.1 hput.2.1 hstands.same (fun _ => hless)
        | tooLarge text => exact admitSubstitute_settled hput.1 hstands.same hput.2.1 rfl
        | invalid text => exact admitSubstitute_settled hput.1 hstands.same hput.2.1 rfl
    · rw [if_neg hhas]
      refine ih hmore hnone hlast hcandidate (fun hsuccess => ?_)
      refine ((hreduced hsuccess).next horder).2 ?_
      simpa [Core1Response.sections, hsuccess] using hhas

/-- One attempt, from a form that stands for the response. -/
theorem admitOrSubstituteCommandResponse_settled
    (hfresh : original.data.has "omitted_sections" = false)
    (hnone : admittedMessages ch.calls = []) (h : StandsFor original ch.calls r) :
    Settled original (admitOrSubstituteCommandResponse ch r) := by
  have hput := tryQueueResponse_settled ch r hnone h
  unfold admitOrSubstituteCommandResponse
  match htry : tryQueueResponse ch r with
  | (.ok true, ch') =>
    rw [htry] at hput
    exact hput
  | (.ok false, ch') =>
    rw [htry] at hput
    exact hput
  | (.error (.tooLarge text), ch') =>
    rw [htry] at hput
    exact admitSubstitute_settled hput.1 h.same hput.2.1 rfl
  | (.error (.invalid text), ch') =>
    rw [htry] at hput
    exact admitSubstitute_settled hput.1 h.same hput.2.1 rfl
  | (.error .memoryError, ch') =>
    rw [htry] at hput
    dsimp only
    unfold admitAfterSerializationMemoryError
    split
    · exact admitWithout_settled hfresh (List.nil_append _).symm hput.1 hput.2.1 h.same h.same
        h.reduced
    · exact admitSubstitute_settled hput.1 h.same hput.2.1 rfl

theorem admitOnPasses_settled (hfresh : original.data.has "omitted_sections" = false)
    (passes : Nat) (hnone : admittedMessages ch.calls = []) (h : StandsFor original ch.calls r) :
    Settled original (admitOnPasses passes ch r) := by
  induction passes generalizing ch r with
  | zero => exact ⟨hnone, h⟩
  | succ passes ih =>
    have hattempt := admitOrSubstituteCommandResponse_settled hfresh hnone h
    unfold admitOnPasses
    match hanswer : admitOrSubstituteCommandResponse ch r with
    | (.ok (some pending), ch') =>
      rw [hanswer] at hattempt
      exact ih hattempt.1 hattempt.2
    | (.ok none, ch') =>
      rw [hanswer] at hattempt
      exact hattempt
    | (.error e, ch') =>
      rw [hanswer] at hattempt
      exact hattempt

end Fallback

section Length

variable (ch : ResponseChannel) (r : Core1Response)

theorem tryQueueResponse_length :
    (tryQueueResponse ch r).2.calls.length = ch.calls.length + 1 := by
  rw [tryQueueResponse_calls, List.length_append]
  rfl

theorem admitSubstitute_length (code message : String) :
    (admitSubstitute ch r code message).2.calls.length = ch.calls.length + 1 := by
  have hput := tryQueueResponse_length (buildSubstituteErrorResponse ch r code message).2
    (buildSubstituteErrorResponse ch r code message).1
  have hbuilt : (buildSubstituteErrorResponse ch r code message).2.calls = ch.calls := rfl
  rw [hbuilt] at hput
  unfold admitSubstitute
  dsimp only
  split <;> rename_i htry <;> rw [htry] at hput <;> exact hput

theorem admitWithout_length (candidate : Core1Response) (order : List String) :
    (admitWithout ch r candidate order).2.calls.length ≤ ch.calls.length + order.length + 1 := by
  induction order generalizing ch candidate with
  | nil => exact Nat.le_of_eq (admitSubstitute_length ch r _ _)
  | cons name rest ih =>
    have hput := tryQueueResponse_length (buildGetDetailsResponseWithout ch candidate name).2
      (buildGetDetailsResponseWithout ch candidate name).1
    have hbuilt : (buildGetDetailsResponseWithout ch candidate name).2.calls = ch.calls := rfl
    rw [hbuilt] at hput
    unfold admitWithout
    dsimp only [List.length_cons]
    split
    · split <;> rename_i ch' htry <;> rw [htry] at hput <;> dsimp only at hput ⊢
      · omega
      · omega
      · have := ih ch' (buildGetDetailsResponseWithout ch candidate name).1
        omega
      · have := admitSubstitute_length ch' (buildGetDetailsResponseWithout ch candidate name).1
          "response_too_large" "Command response exceeded the per-message size limit"
        rw [admitTooLarge]
        omega
      · have := admitSubstitute_length ch' (buildGetDetailsResponseWithout ch candidate name).1
          "response_invalid" "Command response could not be serialized for transmission"
        rw [admitInvalid]
        omega
    · have := ih ch candidate
      omega

theorem admitOrSubstituteCommandResponse_length :
    (admitOrSubstituteCommandResponse ch r).2.calls.length ≤ ch.calls.length + 4 := by
  have hput := tryQueueResponse_length ch r
  unfold admitOrSubstituteCommandResponse
  split <;> rename_i ch' htry <;> rw [htry] at hput <;> dsimp only at hput ⊢
  · omega
  · omega
  · rw [admitTooLarge, admitSubstitute_length]
    omega
  · rw [admitInvalid, admitSubstitute_length]
    omega
  · unfold admitAfterSerializationMemoryError
    split
    · have hforms := admitWithout_length ch' r r GET_DETAILS_FALLBACK_DROP_ORDER
      have horder : GET_DETAILS_FALLBACK_DROP_ORDER.length = 2 := rfl
      omega
    · rw [admitInvalid, admitSubstitute_length]
      omega

end Length

theorem PyDict.has_append (d e : PyDict) (key : String) :
    PyDict.has (d ++ e) key = (d.has key || e.has key) := by
  rw [PyDict.has, PyDict.get?_append]
  cases h : d.get? key <;> simp [PyDict.has, h]

theorem addSection_has {systemInfo : PyDict} {name key : String} (data : PyValue)
    (hfree : systemInfo.has key = false) (hne : name ≠ key) :
    (addSection systemInfo name data).has key = false := by
  unfold addSection
  split
  · rw [PyDict.has_append, hfree]
    simp [PyDict.has, PyDict.get?, hne]
  · exact hfree

theorem collectSections_has {information : SystemInformation} {deviceSections : Option PyDict}
    {names : List String} {systemInfo data : PyDict} {key : String} (hkey : key ∉ names)
    (hfree : systemInfo.has key = false)
    (h : collectSections information deviceSections names systemInfo = .ok data) :
    data.has key = false := by
  induction names generalizing systemInfo with
  | nil =>
    cases h
    exact hfree
  | cons name rest ih =>
    simp only [List.mem_cons, not_or] at hkey
    unfold collectSections at h
    split at h
    · exact ih hkey.2 (addSection_has _ hfree (Ne.symm hkey.1)) h
    · split at h
      · exact ih hkey.2 hfree h
      · exact ih hkey.2 (addSection_has _ hfree (Ne.symm hkey.1)) h
      · refine ih hkey.2 ?_ h
        rw [PyDict.has_append, hfree]
        simp [PyDict.has, PyDict.get?, Ne.symm hkey.1]
      · cases h

theorem processIntercoreEvent_fresh {messageTime : Int × Option String} {event : Option PyDict}
    {information : Option SystemInformation} {r : Core1Response}
    (h : processIntercoreEvent messageTime event information = .ok (some r)) :
    r.data.has "omitted_sections" = false := by
  have hnames : "omitted_sections" ∉ SYSTEM_INFORMATION_SECTIONS := by decide
  unfold processIntercoreEvent at h
  split at h
  · cases h
  · split at h
    · cases h
    · split at h
      · cases h
        rfl
      · rename_i information
        cases hcollect : collectSystemInformationFull information with
        | error e =>
          rw [hcollect] at h
          cases h
        | ok data =>
          rw [hcollect] at h
          cases h
          change PyDict.has data "omitted_sections" = false
          unfold collectSystemInformationFull at hcollect
          split at hcollect
          · exact collectSections_has hnames rfl hcollect
          · exact collectSections_has hnames rfl hcollect
          · exact collectSections_has hnames rfl hcollect
          · cases hcollect

/-- Over any number of passes a response is admitted once, in one form, or one form of it is
pending, unless the error form itself raises; each attempt makes at most four calls. -/
theorem command_response_settled (outcomes : Nat → Except PutError Bool)
    (messageTimes : Nat → Int × Option String) {original : Core1Response} (passes : Nat)
    (hfresh : original.data.has "omitted_sections" = false) :
    Settled original (admitOnPasses passes { outcomes, messageTimes } original) ∧
      ∀ ch r, (admitOrSubstituteCommandResponse ch r).2.calls.length ≤ ch.calls.length + 4 := by
  refine ⟨admitOnPasses_settled hfresh passes rfl ?_, admitOrSubstituteCommandResponse_length⟩
  refine ⟨⟨rfl, rfl, rfl⟩, fun _ => rfl, fun hsuccess => ⟨hsuccess, [], ?_⟩, fun _ e he => ?_⟩
  · exact ⟨List.nil_prefix, List.nil_prefix, rfl⟩
  · cases he

def detailsResponse : Core1Response where
  commandId := .str "details-001"
  command := .str COMMAND_GET_DETAILS
  targeted := .bool true
  success := true
  data := [(.str "memory", .dict [(.str "free_heap_bytes", .int 57000)]),
    (.str "devices", .dict [(.str "configured", .int 3)]),
    (.str "device_status", .list [.dict [(.str "id", .str "bme280")]])]
  uptimeMs := 1234
  timestamp := none

def scarceOutcomes : Nat → Except PutError Bool
  | 0 => .error .memoryError
  | 1 => .ok false
  | 2 => .error .memoryError
  | _ => .ok true

theorem command_response_settled_scarce :
    Settled detailsResponse
      (admitOnPasses 2 ⟨scarceOutcomes, fun n => (1234 + n, none), [], 0⟩ detailsResponse) :=
  (command_response_settled scarceOutcomes (fun n => (1234 + n, none)) 2 (by decide)).1

end PicoDualCore
