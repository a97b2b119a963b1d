import PicoDualCore.Drivers
import PicoDualCore.ConfigSpec
set_option autoImplicit false

namespace PicoDualCore
open AtomicProgram

/-- Whatever the bus does, the program comes to its end: it returns a value with `Q`, or it raises
an exception that the device manager handles. -/
def InContract {α : Type} (p : BusProg α) (Q : α → Prop) : Prop :=
  ∀ bus, p.total (fun _ => True) (fun a _ => Q a) (fun e _ => e.operational = true) bus

section Rules

variable {α β : Type} {P : α → Prop} {Q : β → Prop}

theorem inContract_pure {a : α} (h : P a) : InContract (pure a) P := fun _ => h

theorem inContract_osError {message : String} :
    InContract (throw (.osError message) : BusProg α) P := fun _ => rfl

theorem inContract_seq {p : BusProg α} {f : α → BusProg β} (hp : InContract p P)
    (hf : ∀ a, P a → InContract (f a) Q) : InContract (p >>= f) Q :=
  fun bus => Proc.total_bind (Proc.total_mono (hp bus) (fun a t ha => hf a ha t) (fun _ _ h => h))

theorem inContract_ite {c : Prop} [Decidable c] {p q : BusProg α} (hp : c → InContract p P)
    (hq : ¬ c → InContract q P) : InContract (if c then p else q) P := by
  by_cases h : c
  · rw [if_pos h]
    exact hp h
  · rw [if_neg h]
    exact hq h

theorem inContract_transfer {transaction : BusInput → Transaction} {answer : BusInput → α}
    (h : ∀ i, P (answer i)) : InContract (transfer transaction answer) P := by
  intro bus
  refine Proc.total_atomic (fun i _ => ?_)
  cases i.outcome with
  | done => exact h i
  | fail message => rfl
  | memory => rfl

theorem inContract_sleepMs (ms : Nat) : InContract (sleepMs ms) (fun _ => True) :=
  fun _ => Proc.total_atomic (fun _ _ => trivial)

theorem inContract_describing {describe : String → String} {p : BusProg α} (h : InContract p P) :
    InContract (describing describe p) P := by
  intro bus
  refine Proc.total_handle (Proc.total_mono (h bus) (fun _ _ hp => hp) (fun e _ he => ?_))
  cases e with
  | osError message => exact rfl
  | memoryError => exact rfl
  | _ => cases he

theorem inContract_normalizing {describe : String → String} {p : BusProg α} (h : InContract p P) :
    InContract (normalizing describe p) P := by
  intro bus
  refine Proc.total_handle (Proc.total_mono (h bus) (fun _ _ hp => hp) (fun e _ _ => ?_))
  cases e <;> exact rfl

theorem inContract_ok {r : Except PyError α} {a : α} (h : r = .ok a) (ha : P a) :
    InContract (python r) P := by
  rw [h]
  exact inContract_pure ha

theorem inContract_checked {r : DeviceCheck Unit} (h : r = .ok ()) :
    InContract (checked r) (fun _ => True) := by
  rw [h]
  exact inContract_pure trivial

theorem inContract_attempt {p : BusProg α} (h : InContract p P) :
    InContract ((do
      let a ← p
      pure (Except.ok a)).handle (fun e => match e with
        | .osError message => pure (Except.error message)
        | e => .raise e)) (fun r => ∀ a, r = .ok a → P a) := by
  intro bus
  refine Proc.total_handle (Proc.total_bind (Proc.total_mono (h bus) ?_ ?_))
  · intro a t ha b hb
    cases hb
    exact ha
  · intro e t he
    cases e with
    | osError message =>
      intro a ha
      cases ha
    | memoryError => exact rfl
    | _ => cases he

end Rules

theorem iterate_candidates {valid : List Int} {config : PyDict}
    (h : IsCandidates valid (config.getD "i2c_address_candidates"))
    (hnull : config.get? "i2c_address_candidates" ≠ some .none) :
    ∃ addresses : List Int, ((config.get? "i2c_address_candidates").getD
      (.tuple (valid.map .int))).iterate = .ok (addresses.map .int) := by
  unfold PyDict.getD at h
  cases hget : config.get? "i2c_address_candidates" with
  | none => exact ⟨valid, rfl⟩
  | some v =>
    rw [hget] at h
    cases h with
    | inl hnone =>
      simp only [Option.getD_some] at hnone
      exact absurd (by rw [hget, hnone]) hnull
    | inr hlist =>
      obtain ⟨addresses, heq, -⟩ := hlist
      simp only [Option.getD_some] at heq
      subst heq
      exact ⟨addresses, rfl⟩

theorem getAttribute_offsets {known : List Offset} {config : PyDict}
    (h : IsOffsets known (config.getD "offsets")) (hnull : config.get? "offsets" ≠ some .none)
    (key : String) (default : PyValue) :
    ∃ v, ((config.get? "offsets").getD (.dict [])).getAttribute key default = .ok v := by
  unfold PyDict.getD at h
  cases hget : config.get? "offsets" with
  | none => exact ⟨default, rfl⟩
  | some v =>
    rw [hget] at h
    cases h with
    | inl hnone =>
      simp only [Option.getD_some] at hnone
      exact absurd (by rw [hget, hnone]) hnull
    | inr hdict =>
      obtain ⟨offsets, heq, -⟩ := hdict
      simp only [Option.getD_some] at heq
      subst heq
      exact ⟨_, rfl⟩

theorem subscript_some {config : PyDict} {key : String} {v : PyValue}
    (h : config.get? key = some v) : config.subscript key = .ok v := by
  rw [PyDict.subscript, h]

theorem IsIntBetween.asInt {low high : Int} {v : PyValue} (h : IsIntBetween low high v) :
    ∃ n, v.asInt = .ok n := by
  obtain ⟨n, rfl, -⟩ := h
  exact ⟨n, rfl⟩

namespace Bme280

theorem inContract_readU8 (address : Int) (register : Nat) :
    InContract (readU8 address register) (fun _ => True) :=
  inContract_seq (inContract_describing (inContract_transfer (P := fun _ => True) (fun _ => trivial)))
    (fun _ _ => inContract_pure trivial)

theorem inContract_writeU8 (address : Int) (register : Nat) (value : UInt8) :
    InContract (writeU8 address register value) (fun _ => True) :=
  inContract_describing (inContract_transfer (fun _ => trivial))

theorem inContract_detectFrom (candidates : List PyValue) (lastError : String)
    (addresses : List Int) :
    InContract (detectFrom candidates lastError (addresses.map .int)) (fun _ => True) := by
  induction addresses generalizing lastError with
  | nil => exact inContract_osError
  | cons address rest ih =>
    refine inContract_seq (inContract_ok (P := fun n => n = address) rfl rfl) ?_
    rintro _ rfl
    refine inContract_seq (inContract_attempt (inContract_readU8 _ _)) (fun answer _ => ?_)
    cases answer with
    | error message => exact ih message
    | ok chipId => exact inContract_ite (fun _ => inContract_pure trivial) (fun _ => ih _)

theorem total_readU8 (address : Int) (register : Nat) (bus : Bus) :
    (readU8 address register).total (fun _ => True) (fun _ t => bus.clockMs ≤ t.clockMs)
      (fun e _ => e.operational = true) bus := by
  refine Proc.total_bind (Proc.total_handle (Proc.total_atomic (fun i _ => ?_)))
  cases i.outcome with
  | done => exact Nat.le_add_right _ _
  | fail message => exact rfl
  | memory => exact rfl

theorem total_ticksMs (bus : Bus) :
    ticksMs.total (fun _ => True) (fun now t => now = t.clockMs ∧ bus.clockMs ≤ t.clockMs)
      (fun e _ => e.operational = true) bus :=
  Proc.total_atomic (fun _ _ => ⟨rfl, Nat.le_add_right _ _⟩)

theorem total_sleepMs (ms : Nat) (bus : Bus) :
    (sleepMs ms).total (fun _ => True) (fun _ t => bus.clockMs + ms ≤ t.clockMs)
      (fun e _ => e.operational = true) bus :=
  Proc.total_atomic (fun _ _ => Nat.le_add_right _ _)

/-- Each pass sleeps two milliseconds, so the last one finds the timeout over. -/
theorem total_waitForNvmFrom (address : Int) (start passes : Nat) (bus : Bus)
    (h : start + NVM_WAIT_TIMEOUT_MS ≤ bus.clockMs + 2 * passes) :
    (waitForNvmFrom address start (passes + 1)).total (fun _ => True) (fun _ _ => True)
      (fun e _ => e.operational = true) bus := by
  induction passes generalizing bus with
  | zero =>
    refine Proc.total_bind (Proc.total_mono (total_readU8 _ _ bus) (fun status t ht => ?_)
      (fun _ _ he => he))
    by_cases hstatus : status &&& STATUS_IM_UPDATE = 0
    · rw [if_pos hstatus]
      trivial
    · rw [if_neg hstatus]
      refine Proc.total_bind (Proc.total_mono (total_ticksMs t) ?_ (fun _ _ he => he))
      rintro now u ⟨rfl, hu⟩
      have hover : NVM_WAIT_TIMEOUT_MS ≤ u.clockMs - start := by omega
      rw [if_pos hover]
      exact rfl
  | succ passes ih =>
    refine Proc.total_bind (Proc.total_mono (total_readU8 _ _ bus) (fun status t ht => ?_)
      (fun _ _ he => he))
    by_cases hstatus : status &&& STATUS_IM_UPDATE = 0
    · rw [if_pos hstatus]
      trivial
    · rw [if_neg hstatus]
      refine Proc.total_bind (Proc.total_mono (total_ticksMs t) ?_ (fun _ _ he => he))
      rintro now u ⟨rfl, hu⟩
      by_cases hover : NVM_WAIT_TIMEOUT_MS ≤ u.clockMs - start
      · rw [if_pos hover]
        exact rfl
      · rw [if_neg hover]
        refine Proc.total_bind (Proc.total_mono (total_sleepMs 2 u) (fun _ v hv => ih v ?_)
          (fun _ _ he => he))
        omega

theorem inContract_waitForNvm (address : Int) :
    InContract (waitForNvm address) (fun _ => True) := by
  intro bus
  refine Proc.total_bind (Proc.total_mono (total_ticksMs bus) ?_ (fun _ _ he => he))
  rintro start t ⟨rfl, -⟩
  exact total_waitForNvmFrom address _ (NVM_WAIT_TIMEOUT_MS / 2) t (Nat.le_refl _)

theorem inContract_readCalibration (address : Int) :
    InContract (readCalibration address) (fun _ => True) := by
  refine inContract_describing ?_
  refine inContract_seq (inContract_transfer (P := fun _ => True) (fun _ => trivial)) (fun b1 _ => ?_)
  refine inContract_seq (inContract_transfer (P := fun _ => True) (fun _ => trivial)) (fun b2 _ => ?_)
  exact inContract_pure trivial

theorem inContract_configure (address : Int) {settings : Settings} (mode : Nat)
    (ht : ∃ n, settings.osrsT.asInt = .ok n) (hp : ∃ n, settings.osrsP.asInt = .ok n)
    (hh : ∃ n, settings.osrsH.asInt = .ok n) (hf : ∃ n, settings.filterCode.asInt = .ok n) :
    InContract (configure address settings mode) (fun _ => True) := by
  obtain ⟨t, ht⟩ := ht
  obtain ⟨p, hp⟩ := hp
  obtain ⟨h, hh⟩ := hh
  obtain ⟨f, hf⟩ := hf
  refine inContract_seq (inContract_ok (P := fun _ => True) hh trivial) (fun _ _ => ?_)
  refine inContract_seq (inContract_writeU8 _ _ _) (fun _ _ => ?_)
  refine inContract_seq (inContract_ok (P := fun _ => True) hf trivial) (fun _ _ => ?_)
  refine inContract_seq (inContract_writeU8 _ _ _) (fun _ _ => ?_)
  refine inContract_seq (inContract_ok (P := fun _ => True) ht trivial) (fun _ _ => ?_)
  refine inContract_seq (inContract_ok (P := fun _ => True) hp trivial) (fun _ _ => ?_)
  exact inContract_writeU8 _ _ _

theorem inContract_initializeDevice {config : PyDict} (h : Accepted config)
    (hvalid : validateConfig config = .ok ())
    (hcandidates : config.get? "i2c_address_candidates" ≠ some .none)
    (hoffsets : config.get? "offsets" ≠ some .none) :
    InContract (initializeDevice config) (fun _ => True) := by
  obtain ⟨addresses, haddresses⟩ := iterate_candidates h.candidates hcandidates
  obtain ⟨t, ht⟩ := getAttribute_offsets h.offsets hoffsets "temperature_c" (.int 0)
  obtain ⟨p, hp⟩ := getAttribute_offsets h.offsets hoffsets "pressure_pascal" (.int 0)
  obtain ⟨u, hu⟩ := getAttribute_offsets h.offsets hoffsets "humidity_percent" (.int 0)
  obtain ⟨seaLevel, hsea, -⟩ := h.seaLevel
  refine inContract_seq (inContract_checked hvalid) (fun _ _ => ?_)
  refine inContract_seq (inContract_ok (P := fun c => c = addresses.map .int) haddresses rfl) ?_
  rintro _ rfl
  refine inContract_seq (inContract_ok (P := fun _ => True) ht trivial) (fun _ _ => ?_)
  refine inContract_seq (inContract_ok (P := fun _ => True) hp trivial) (fun _ _ => ?_)
  refine inContract_seq (inContract_ok (P := fun _ => True) hu trivial) (fun _ _ => ?_)
  refine inContract_seq (inContract_ok (P := fun _ => True) (subscript_some hsea) trivial)
    (fun _ _ => ?_)
  refine inContract_seq (P := fun _ => True) ?_ (fun _ _ => inContract_pure trivial)
  refine inContract_seq (inContract_detectFrom _ _ _) (fun address _ => ?_)
  refine inContract_seq (inContract_seq (inContract_writeU8 _ _ _)
    (fun _ _ => inContract_sleepMs 2)) (fun _ _ => ?_)
  refine inContract_seq (inContract_waitForNvm _) (fun _ _ => ?_)
  refine inContract_seq (inContract_readCalibration _) (fun calibration _ => ?_)
  refine inContract_seq (P := fun _ => True) (inContract_ite (fun _ => inContract_osError)
    (fun _ => inContract_pure trivial)) (fun _ _ => ?_)
  refine inContract_seq (inContract_configure _ _ h.temperature.asInt h.pressure.asInt
    h.humidity.asInt h.filter.asInt) (fun _ _ => ?_)
  exact inContract_pure trivial

end Bme280

namespace Sht35

theorem inContract_writeCommand (address : Int) (command : Nat) :
    InContract (writeCommand address command) (fun _ => True) :=
  inContract_describing (inContract_transfer (fun _ => trivial))

theorem inContract_verifyWordCrc (data : Bytes) (offset : Nat) :
    InContract (verifyWordCrc data offset) (fun _ => True) :=
  inContract_ite (fun _ => inContract_pure trivial) (fun _ => inContract_osError)

theorem inContract_serialNumber (address : Int) :
    InContract (serialNumber address) (fun _ => True) := by
  refine inContract_seq (inContract_writeCommand _ _) (fun _ _ => ?_)
  refine inContract_seq (inContract_sleepMs _) (fun _ _ => ?_)
  refine inContract_seq (inContract_describing
    (inContract_transfer (P := fun _ => True) (fun _ => trivial))) (fun measurement _ => ?_)
  refine inContract_seq (inContract_verifyWordCrc _ _) (fun _ _ => ?_)
  refine inContract_seq (inContract_verifyWordCrc _ _) (fun _ _ => ?_)
  exact inContract_pure trivial

theorem inContract_probe (address : Int) : InContract (probe address) (fun _ => True) := by
  refine inContract_seq (inContract_writeCommand _ _) (fun _ _ => ?_)
  refine inContract_seq (inContract_sleepMs _) (fun _ _ => ?_)
  exact inContract_serialNumber address

theorem inContract_detectFrom (candidates : List PyValue) (lastError : String)
    (addresses : List Int) :
    InContract (detectFrom candidates lastError (addresses.map .int)) (fun _ => True) := by
  induction addresses generalizing lastError with
  | nil => exact inContract_osError
  | cons address rest ih =>
    refine inContract_seq (inContract_ok (P := fun n => n = address) rfl rfl) ?_
    rintro _ rfl
    refine inContract_seq (inContract_attempt (inContract_probe _)) (fun answer _ => ?_)
    cases answer with
    | error message => exact ih message
    | ok serial => exact inContract_pure trivial

theorem tableItem_repeatability {config : PyDict} (h : Accepted config) :
    ∃ shot, ((config.get? "repeatability").getD (.str "high")).tableItem SINGLE_SHOT = .ok shot := by
  obtain ⟨level, hlevel, heq⟩ := h.repeatability
  rw [heq]
  simp only [VALID_REPEATABILITIES, List.mem_cons, List.not_mem_nil, or_false] at hlevel
  rcases hlevel with rfl | rfl | rfl <;> exact ⟨_, rfl⟩

theorem inContract_initializeDevice {config : PyDict} (h : Accepted config)
    (hvalid : validateConfig config = .ok ())
    (hcandidates : config.get? "i2c_address_candidates" ≠ some .none)
    (hoffsets : config.get? "offsets" ≠ some .none) :
    InContract (initializeDevice config) (fun _ => True) := by
  obtain ⟨addresses, haddresses⟩ := iterate_candidates h.candidates hcandidates
  obtain ⟨t, ht⟩ := getAttribute_offsets h.offsets hoffsets "temperature_c" (.int 0)
  obtain ⟨u, hu⟩ := getAttribute_offsets h.offsets hoffsets "humidity_percent" (.int 0)
  obtain ⟨shot, hshot⟩ := tableItem_repeatability h
  refine inContract_seq (inContract_checked hvalid) (fun _ _ => ?_)
  refine inContract_seq (inContract_ok (P := fun c => c = addresses.map .int) haddresses rfl) ?_
  rintro _ rfl
  refine inContract_seq (inContract_ok (P := fun _ => True) ht trivial) (fun _ _ => ?_)
  refine inContract_seq (inContract_ok (P := fun _ => True) hu trivial) (fun _ _ => ?_)
  refine inContract_seq (inContract_ok (P := fun _ => True) hshot trivial) (fun _ _ => ?_)
  refine inContract_seq (P := fun _ => True) ?_ (fun _ _ => inContract_pure trivial)
  refine inContract_seq (inContract_detectFrom _ _ _) (fun found _ => ?_)
  refine inContract_seq (inContract_writeCommand _ _) (fun _ _ => ?_)
  exact inContract_pure trivial

end Sht35

namespace Ltr390

theorem inContract_readU8 (register : Nat) : InContract (readU8 register) (fun _ => True) :=
  inContract_seq (inContract_describing (inContract_transfer (P := fun _ => True) (fun _ => trivial)))
    (fun _ _ => inContract_pure trivial)

theorem inContract_writeU8 (register : Nat) (value : UInt8) :
    InContract (writeU8 register value) (fun _ => True) :=
  inContract_describing (inContract_transfer (fun _ => trivial))

theorem inContract_readRaw20 (register : Nat) :
    InContract (readRaw20 register) (fun _ => True) :=
  inContract_seq (inContract_describing (inContract_transfer (P := fun _ => True) (fun _ => trivial)))
    (fun _ _ => inContract_pure trivial)

theorem inContract_init (gainCode resolutionCode rateCode : Nat) (windowFactor : PyValue) :
    InContract (init gainCode resolutionCode rateCode windowFactor) (fun _ => True) := by
  refine inContract_seq (P := fun _ => True) ?_ (fun partId _ => ?_)
  · refine inContract_seq (inContract_readU8 _) (fun partId _ => ?_)
    exact inContract_ite (fun _ => inContract_pure trivial) (fun _ => inContract_osError)
  refine inContract_seq (P := fun _ => True) ?_ (fun _ _ => ?_)
  · refine inContract_seq (inContract_writeU8 _ _) (fun _ _ => ?_)
    refine inContract_seq (inContract_readRaw20 _) (fun _ _ => ?_)
    refine inContract_seq (inContract_writeU8 _ _) (fun _ _ => ?_)
    refine inContract_seq (inContract_readRaw20 _) (fun _ _ => ?_)
    exact inContract_pure trivial
  refine inContract_seq (inContract_writeU8 _ _) (fun _ _ => ?_)
  refine inContract_seq (inContract_writeU8 _ _) (fun _ _ => ?_)
  refine inContract_seq (inContract_writeU8 _ _) (fun _ _ => ?_)
  refine inContract_seq (inContract_writeU8 _ _) (fun _ _ => ?_)
  exact inContract_pure trivial

theorem belowOne_false {v : PyValue} (h : IsNumberBetween 1 100 v) : belowOne v = .ok false := by
  obtain ⟨d, hd, hle, -⟩ := h
  cases v with
  | int n =>
    cases hd
    simp [belowOne, PyValue.number?, hle]
  | float f =>
    cases f with
    | finite d =>
      cases hd
      simp [belowOne, PyValue.number?, hle]
    | _ => cases hd
  | _ => cases hd

theorem tableItem_ok {α : Type} {valid : List Int} {table : List (PyValue × α)} {v : PyValue}
    (h : ∃ n ∈ valid, v = .int n)
    (htable : ∀ n ∈ valid, (table.find? (fun entry => entry.1.pyEq (.int n))).isSome = true) :
    ∃ code, v.tableItem table = .ok code := by
  obtain ⟨n, hn, rfl⟩ := h
  obtain ⟨entry, hentry⟩ := Option.isSome_iff_exists.mp (htable n hn)
  refine ⟨entry.2, ?_⟩
  simp [PyValue.tableItem, PyValue.hashable, hentry]

theorem inContract_initializeDevice {config : PyDict} (h : Accepted config)
    (hvalid : validateConfig config = .ok ()) (hoffsets : config.get? "offsets" ≠ some .none) :
    InContract (initializeDevice config) (fun _ => True) := by
  obtain ⟨lux, hlux⟩ := getAttribute_offsets h.offsets hoffsets "lux" (.int 0)
  obtain ⟨uv, huv⟩ := getAttribute_offsets h.offsets hoffsets "uv_index" (.int 0)
  obtain ⟨gain, hgain⟩ := @tableItem_ok _ _ GAIN_CODES _ h.gain (by decide)
  obtain ⟨resolution, hresolution⟩ :=
    @tableItem_ok _ _ RESOLUTION_CODES _ h.resolution (by decide)
  obtain ⟨rate, hrate⟩ := @tableItem_ok _ _ RATE_CODES _ h.rate (by decide)
  refine inContract_seq (inContract_checked hvalid) (fun _ _ => ?_)
  refine inContract_seq (inContract_ok (P := fun _ => True) hlux trivial) (fun _ _ => ?_)
  refine inContract_seq (inContract_ok (P := fun _ => True) huv trivial) (fun _ _ => ?_)
  refine inContract_seq (inContract_ok (P := fun b => b = false) (belowOne_false h.windowFactor) rfl)
    ?_
  rintro _ rfl
  refine inContract_seq (inContract_ok (P := fun _ => True) hgain trivial) (fun _ _ => ?_)
  refine inContract_seq (inContract_ok (P := fun _ => True) hresolution trivial) (fun _ _ => ?_)
  refine inContract_seq (inContract_ok (P := fun _ => True) hrate trivial) (fun _ _ => ?_)
  exact inContract_seq (inContract_init _ _ _ _) (fun _ _ => inContract_pure trivial)

end Ltr390

namespace Ds18b20

theorem hexValue_toLower {c : Char} (h : c ∈ HEX_CHARS) :
    ∃ n, Json.hexValue c.toLower = some n := by
  have hall : HEX_CHARS.all (fun c => (Json.hexValue c.toLower).isSome) = true := by decide
  exact Option.isSome_iff_exists.mp (List.all_eq_true.mp hall c h)

theorem fromHex_ok (n : Nat) {text : List Char} (hlength : text.length = 2 * n)
    (hchars : ∀ c ∈ text, c ∈ HEX_CHARS) : ∃ bytes, fromHex (text.map Char.toLower) = .ok bytes := by
  induction n generalizing text with
  | zero =>
    obtain rfl : text = [] := List.length_eq_zero_iff.mp hlength
    exact ⟨[], rfl⟩
  | succ n ih =>
    match text, hlength with
    | high :: low :: rest, hlength =>
      simp only [List.length_cons] at hlength
      obtain ⟨h, hh⟩ := hexValue_toLower (hchars high (by simp))
      obtain ⟨l, hl⟩ := hexValue_toLower (hchars low (by simp))
      have hrest : rest.length = 2 * n := by omega
      obtain ⟨bytes, hbytes⟩ := ih hrest (fun c hc => hchars c (by simp [hc]))
      refine ⟨UInt8.ofNat (16 * h + l) :: bytes, ?_⟩
      simp [fromHex, hh, hl, hbytes, bind, Except.bind, pure, Except.pure]

theorem inContract_init (rom : Bytes) (romLabel : String) (conversionMs : PyValue) :
    InContract (init rom romLabel conversionMs) (fun _ => True) := by
  refine inContract_seq (inContract_describing
    (inContract_transfer (P := fun _ => True) (fun _ => trivial))) (fun roms _ => ?_)
  cases roms.find? (fun found => found == rom) with
  | some found => exact inContract_pure trivial
  | none => exact inContract_osError

theorem inContract_initializeDevice {config : PyDict} (h : Accepted config)
    (hvalid : validateConfig config = .ok ()) (hoffsets : config.get? "offsets" ≠ some .none) :
    InContract (initializeDevice config) (fun _ => True) := by
  obtain ⟨t, ht⟩ := getAttribute_offsets h.offsets hoffsets "temperature_c" (.int 0)
  obtain ⟨rom, hrom, hlength, hchars⟩ := h.rom
  obtain ⟨bytes, hbytes⟩ := fromHex_ok 8 hlength hchars
  refine inContract_seq (inContract_checked hvalid) (fun _ _ => ?_)
  refine inContract_seq (inContract_ok (P := fun _ => True) ht trivial) (fun _ _ => ?_)
  refine inContract_seq (inContract_ok (P := fun v => v = .str rom) (subscript_some hrom) rfl) ?_
  rintro _ rfl
  refine inContract_seq (inContract_ok
    (P := fun s => s = String.ofList (rom.toList.map Char.toLower)) rfl rfl) ?_
  rintro _ rfl
  have hspelled : fromHex (String.ofList (rom.toList.map Char.toLower)).toList = .ok bytes := by
    rw [String.toList_ofList]
    exact hbytes
  refine inContract_seq (inContract_ok (P := fun _ => True) hspelled trivial) (fun _ _ => ?_)
  exact inContract_seq (inContract_init _ _ _) (fun _ _ => inContract_pure trivial)

end Ds18b20

namespace Yl69Fc28

theorem inContract_optionalPin {config : PyDict} {key : String} (value : Option Nat)
    (h : IsPresentPin (config.get? key)) :
    InContract (optionalPin config key value) (fun _ => True) := by
  unfold optionalPin
  cases hget : config.get? key with
  | none => exact inContract_pure trivial
  | some v =>
    rw [hget] at h
    cases h with
    | inl hnone => cases hnone
    | inr hpin =>
      obtain ⟨w, pin, hw, rfl, -⟩ := hpin
      cases hw
      exact inContract_seq (inContract_transfer (P := fun _ => True) (fun _ => trivial))
        (fun _ _ => inContract_pure trivial)

theorem inContract_setPower (power : Option Int) (activeLow enabled : Bool) :
    InContract (setPower power activeLow enabled) (fun _ => True) := by
  cases power with
  | none => exact inContract_pure trivial
  | some pin => exact inContract_normalizing (inContract_transfer (fun _ => trivial))

theorem inContract_initializeDevice {config : PyDict} (h : Accepted config)
    (hvalid : validateConfig config = .ok ()) :
    InContract (initializeDevice config) (fun _ => True) := by
  obtain ⟨dry, hdry, -⟩ := h.dry
  obtain ⟨wet, hwet, -⟩ := h.wet
  obtain ⟨count, hcount⟩ := h.samples.asInt
  refine inContract_seq (inContract_checked hvalid) (fun _ _ => ?_)
  refine inContract_seq (inContract_optionalPin _ h.digitalPin) (fun digital _ => ?_)
  refine inContract_seq (inContract_optionalPin _ h.powerPin) (fun power _ => ?_)
  refine inContract_seq (inContract_ok (P := fun _ => True) (subscript_some hdry) trivial)
    (fun _ _ => ?_)
  refine inContract_seq (inContract_ok (P := fun _ => True) (subscript_some hwet) trivial)
    (fun _ _ => ?_)
  refine inContract_seq (inContract_ok (P := fun _ => True) hcount trivial) (fun _ _ => ?_)
  exact inContract_seq (inContract_setPower _ _ _) (fun _ _ => inContract_pure trivial)

end Yl69Fc28

theorem inContract_initializeDriver {deviceType : String} {config : PyDict}
    (h : DeviceAccepted deviceType config)
    (hvalid : validateDeviceConfig deviceType config = .ok ())
    (hcandidates : config.get? "i2c_address_candidates" ≠ some .none)
    (hoffsets : config.get? "offsets" ≠ some .none) :
    InContract (initializeDriver deviceType config) (fun _ => True) := by
  cases h with
  | bme280 h =>
    exact inContract_seq (Bme280.inContract_initializeDevice h hvalid hcandidates hoffsets)
      (fun _ _ => inContract_pure trivial)
  | ltr390 h =>
    exact inContract_seq (Ltr390.inContract_initializeDevice h hvalid hoffsets)
      (fun _ _ => inContract_pure trivial)
  | ds18b20 h =>
    exact inContract_seq (Ds18b20.inContract_initializeDevice h hvalid hoffsets)
      (fun _ _ => inContract_pure trivial)
  | sht35 h =>
    exact inContract_seq (Sht35.inContract_initializeDevice h hvalid hcandidates hoffsets)
      (fun _ _ => inContract_pure trivial)
  | yl69_fc28 h =>
    exact inContract_seq (Yl69Fc28.inContract_initializeDevice h hvalid)
      (fun _ _ => inContract_pure trivial)

/-- An explicit null for the candidates or the offsets passes the validator, and the driver reads
it as a list or an object. -/
theorem initializeDriver_null {deviceType : String} {config : PyDict}
    (h : DeviceAccepted deviceType config)
    (hvalid : validateDeviceConfig deviceType config = .ok ())
    (hnull : config.get? "i2c_address_candidates" = some .none ∨
      config.get? "offsets" = some .none) :
    ∃ e, initializeDriver deviceType config = .raise (.python e) := by
  have hiterate : ∀ valid : List Int, config.get? "i2c_address_candidates" = some .none →
      ((config.get? "i2c_address_candidates").getD (.tuple (valid.map .int))).iterate =
        .error (.typeError "'NoneType' object is not iterable") := by
    intro valid hget
    rw [hget]
    rfl
  have hattribute : ∀ (key : String) (default : PyValue), config.get? "offsets" = some .none →
      ((config.get? "offsets").getD (.dict [])).getAttribute key default =
        .error (.attributeError "'NoneType' object has no attribute 'get'") := by
    intro key default hget
    rw [hget]
    rfl
  cases h with
  | bme280 h =>
    have hvalid : Bme280.validateConfig config = .ok () := hvalid
    by_cases hcandidates : config.get? "i2c_address_candidates" = some .none
    · refine ⟨.typeError "'NoneType' object is not iterable", ?_⟩
      simp only [initializeDriver, Bme280.initializeDevice, hvalid, hiterate _ hcandidates]
      rfl
    · obtain ⟨addresses, haddresses⟩ := iterate_candidates h.candidates hcandidates
      refine ⟨.attributeError "'NoneType' object has no attribute 'get'", ?_⟩
      simp only [initializeDriver, Bme280.initializeDevice, hvalid, haddresses,
        hattribute _ _ (hnull.resolve_left hcandidates)]
      rfl
  | sht35 h =>
    have hvalid : Sht35.validateConfig config = .ok () := hvalid
    by_cases hcandidates : config.get? "i2c_address_candidates" = some .none
    · refine ⟨.typeError "'NoneType' object is not iterable", ?_⟩
      simp only [initializeDriver, Sht35.initializeDevice, hvalid, hiterate _ hcandidates]
      rfl
    · obtain ⟨addresses, haddresses⟩ := iterate_candidates h.candidates hcandidates
      refine ⟨.attributeError "'NoneType' object has no attribute 'get'", ?_⟩
      simp only [initializeDriver, Sht35.initializeDevice, hvalid, haddresses,
        hattribute _ _ (hnull.resolve_left hcandidates)]
      rfl
  | ltr390 h =>
    have hvalid : Ltr390.validateConfig config = .ok () := hvalid
    have hno : config.get? "i2c_address_candidates" ≠ some .none := fun hget =>
      absurd (h.keys _ (PyDict.mem_keys_of_get? hget)) (by decide)
    refine ⟨.attributeError "'NoneType' object has no attribute 'get'", ?_⟩
    simp only [initializeDriver, Ltr390.initializeDevice, hvalid,
      hattribute _ _ (hnull.resolve_left hno)]
    rfl
  | ds18b20 h =>
    have hvalid : Ds18b20.validateConfig config = .ok () := hvalid
    have hno : config.get? "i2c_address_candidates" ≠ some .none := fun hget =>
      absurd (h.keys _ (PyDict.mem_keys_of_get? hget)) (by decide)
    refine ⟨.attributeError "'NoneType' object has no attribute 'get'", ?_⟩
    simp only [initializeDriver, Ds18b20.initializeDevice, hvalid,
      hattribute _ _ (hnull.resolve_left hno)]
    rfl
  | yl69_fc28 h =>
    have hno : ∀ key, key ∉ Yl69Fc28.ALLOWED_CONFIG_KEYS → config.get? key ≠ some .none :=
      fun key hkey hget => hkey (h.keys _ (PyDict.mem_keys_of_get? hget))
    cases hnull with
    | inl hget => exact absurd hget (hno _ (by decide))
    | inr hget => exact absurd hget (hno _ (by decide))

theorem acceptedDefinition_of_mem {items definition config : PyDict} {deviceType : String}
    {value : PyValue} {devices : List PyValue} (h : validateConfig (.dict items) = .ok value)
    (hdevices : items.getD "devices" = .list devices) (hmem : .dict definition ∈ devices)
    (htype : definition.getD "device_type" = .str deviceType)
    (hconfig : definition.getD "config" = .dict config) :
    AcceptedDefinition definition deviceType config := by
  obtain ⟨items', heq, haccepted⟩ := AcceptedConfig.of_ok h
  cases heq
  obtain ⟨accepted, hlist, -, -, hall⟩ := haccepted.devices
  rw [hdevices] at hlist
  cases hlist
  obtain ⟨d, hd, hsame⟩ := List.mem_map.mp hmem
  cases hsame
  obtain ⟨t, c, hdefinition⟩ := hall definition hd
  have ht := hdefinition.type
  have hc := hdefinition.body
  rw [htype] at ht
  rw [hconfig] at hc
  cases ht
  cases hc
  exact hdefinition

/-- For a device of an accepted configuration `initialize` stays within its contract whatever the
bus does, unless its candidates or its offsets are an explicit null. -/
theorem initializeDriver_inContract_iff {items definition config : PyDict} {deviceType : String}
    {value : PyValue} {devices : List PyValue} (h : validateConfig (.dict items) = .ok value)
    (hdevices : items.getD "devices" = .list devices) (hmem : .dict definition ∈ devices)
    (htype : definition.getD "device_type" = .str deviceType)
    (hconfig : definition.getD "config" = .dict config) :
    InContract (initializeDriver deviceType config) (fun _ => True) ↔
      config.get? "i2c_address_candidates" ≠ some .none ∧ config.get? "offsets" ≠ some .none := by
  have hdefinition := acceptedDefinition_of_mem h hdevices hmem htype hconfig
  constructor
  · intro hcontract
    by_contra hno
    have hnull : config.get? "i2c_address_candidates" = some .none ∨
        config.get? "offsets" = some .none := by
      by_contra hneither
      exact hno ⟨fun hget => hneither (.inl hget), fun hget => hneither (.inr hget)⟩
    obtain ⟨e, he⟩ := initializeDriver_null hdefinition.accepted hdefinition.valid hnull
    have hraise := hcontract ⟨0, []⟩
    rw [he] at hraise
    cases hraise
  · rintro ⟨hcandidates, hoffsets⟩
    exact inContract_initializeDriver hdefinition.accepted hdefinition.valid hcandidates hoffsets

def nullOffsets : PyDict :=
  [(.str "pin", .int 16), (.str "rom", .str "28ff641e0f1603d4"), (.str "offsets", .none)]

def nullOffsetsDevice : PyDict :=
  [(.str "id", .str "d1"), (.str "device_type", .str "ds18b20"), (.str "config", .dict nullOffsets)]

def withDevices (devices : List PyValue) : PyDict :=
  match shippedConfig "Soil-1" with
  | .dict items => (.str "devices", .list devices) ::
      items.filter (fun item => item.1 != .str "devices")
  | _ => []

theorem initializeDriver_nullOffsets : ¬ ∀ (items definition config : PyDict) (deviceType : String)
    (devices : List PyValue), validateConfig (.dict items) = .ok (.dict items) →
      items.getD "devices" = .list devices → .dict definition ∈ devices →
        definition.getD "device_type" = .str deviceType →
          definition.getD "config" = .dict config →
            InContract (initializeDriver deviceType config) (fun _ => True) := by
  intro hall
  have haccepted : validateConfig (.dict (withDevices [.dict nullOffsetsDevice])) =
      .ok (.dict (withDevices [.dict nullOffsetsDevice])) :=
    validateConfig_self (by decide)
  have hcontract := hall _ nullOffsetsDevice nullOffsets "ds18b20" _ haccepted rfl
    List.mem_cons_self rfl rfl
  obtain ⟨e, he⟩ : ∃ e, initializeDriver "ds18b20" nullOffsets = .raise (.python e) := ⟨_, rfl⟩
  have hraise := hcontract ⟨0, []⟩
  rw [he] at hraise
  cases hraise

def plainDs18b20 : PyDict := [(.str "pin", .int 16), (.str "rom", .str "28ff641e0f1603d4")]

def plainDs18b20Device : PyDict :=
  [(.str "id", .str "d1"), (.str "device_type", .str "ds18b20"), (.str "config", .dict plainDs18b20)]

theorem initializeDriver_inContract_ds18b20 :
    InContract (initializeDriver "ds18b20" plainDs18b20) (fun _ => True) := by
  have haccepted : validateConfig (.dict (withDevices [.dict plainDs18b20Device])) =
      .ok (.dict (withDevices [.dict plainDs18b20Device])) :=
    validateConfig_self (by decide)
  refine (@initializeDriver_inContract_iff _ plainDs18b20Device plainDs18b20 "ds18b20" _
    [.dict plainDs18b20Device] haccepted rfl List.mem_cons_self rfl rfl).mpr ⟨?_, ?_⟩
  · simp [plainDs18b20, PyDict.get?]
  · simp [plainDs18b20, PyDict.get?]

end PicoDualCore
