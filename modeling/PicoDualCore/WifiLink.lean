import PicoDualCore.AtomicProgram
set_option autoImplicit false

/-!
The Wi-Fi owner of Core 0: association, bounded observation windows, backoffs and snapshots. What
the radio answers is an input of every call, and so is what the call raises.
-/

namespace PicoDualCore
open AtomicProgram

inductive RadioFault where
  | osError
  | memoryError
  | other (name : String)
  deriving DecidableEq, Repr

/-- The tuple that `ifconfig` answers. -/
structure IfConfig where
  ipAddress : String
  netmask : String
  gateway : String
  dns : String
  deriving DecidableEq, Repr

/-- What the radio answers in a step, or what the call raises; `status` may be no integer. -/
structure RadioInput where
  fault : Option RadioFault := none
  connected : Bool := false
  status : Option Int := none
  addresses : IfConfig := ⟨"", "", "", ""⟩
  rssi : Int := 0
  hookFault : Option RadioFault := none

/-- `created` tells that `_wlan` is set. The source has no field for the two times: all that has
been slept, and what has been slept since the last call of the hook. -/
structure Wifi where
  created : Bool := false
  connectCount : Nat := 0
  disconnectCount : Nat := 0
  wasConnected : Bool := false
  sleptMs : Nat := 0
  sinceServiceMs : Nat := 0
  deriving DecidableEq, Repr

structure WifiSnapshot where
  wifiConnected : Bool
  mqttConnected : Bool
  ssid : Option String
  ipAddress : Option String
  netmask : Option String
  gateway : Option String
  dns : Option String
  rssi : Option Int
  wifiConnectCount : Nat
  wifiDisconnectCount : Nat
  deriving DecidableEq, Repr

abbrev WifiProg (α : Type) := Proc Wifi RadioInput RadioFault α

namespace Wifi

def SLICE_MS : Nat := 100

def OBSERVATION_SLICES : Nat := 200

/-- One call of the driver. -/
def call {α : Type} (answer : RadioInput → α) : WifiProg α :=
  .atomic (fun w i => (match i.fault with
    | some e => .error e
    | none => .ok (answer i), w))

def look {α : Type} (f : Wifi → α) : WifiProg α := .atomic (fun w _ => (.ok (f w), w))

def adjust (f : Wifi → Wifi) : WifiProg Unit := .atomic (fun w _ => (.ok (), f w))

/-- `network.WLAN(network.WLAN.IF_STA)`. -/
def create : WifiProg Unit :=
  .atomic (fun w i => match i.fault with
    | some e => (.error e, w)
    | none => (.ok (), { w with created := true }))

def serviceWait : WifiProg Unit :=
  .atomic (fun w i => (match i.hookFault with
    | some e => .error e
    | none => .ok (), { w with sinceServiceMs := 0 }))

def sleepSlice : WifiProg Unit :=
  adjust (fun w => { w with
    sleptMs := w.sleptMs + SLICE_MS, sinceServiceMs := w.sinceServiceMs + SLICE_MS })

def sleepSlices : Nat → WifiProg Unit
  | 0 => pure ()
  | slices + 1 => do
    serviceWait
    sleepSlice
    sleepSlices slices

def sleepSliced (delaySec : Nat) : WifiProg Unit := sleepSlices (delaySec * 10)

/-- A handler that lets everything but an `OSError` through. -/
def exceptOSError {α : Type} (instead : α) (p : WifiProg α) : WifiProg α :=
  p.handle fun
    | .osError => pure instead
    | e => throw e

def currentStatus : WifiProg (Option Int) := exceptOSError none (call RadioInput.status)

def isConnected : WifiProg Bool := exceptOSError false do
  if ← look Wifi.created then call RadioInput.connected else pure false

def ipAddress : WifiProg (Option String) := do
  if !(← isConnected) then return none
  exceptOSError none (call (fun i => some i.addresses.ipAddress))

def probePowerManagement : WifiProg Unit :=
  (call (fun _ => ())).handle fun
    | .memoryError => throw .memoryError
    | _ => pure ()

section Connect

variable (terminalStatuses : List Int) (ssid : String)

def observe : Nat → WifiProg Unit
  | 0 => do
    let _ ← call RadioInput.connected
  | slices + 1 => do
    if ← call RadioInput.connected then return
    serviceWait
    let status ← currentStatus
    if status.any (fun status => terminalStatuses.contains status) then return
    sleepSlice
    observe slices

def joined (w : Wifi) : Wifi :=
  { w with
    connectCount := if w.wasConnected then w.connectCount else w.connectCount + 1
    wasConnected := true }

def lost (w : Wifi) : Wifi :=
  { w with
    disconnectCount := if w.wasConnected then w.disconnectCount + 1 else w.disconnectCount
    wasConnected := false }

def attempt : WifiProg Bool := do
  create
  call (fun _ => ())
  probePowerManagement
  call (fun _ => ())
  observe terminalStatuses OBSERVATION_SLICES
  if ← call RadioInput.connected then
    adjust joined
    return true
  return false

def connect : List Nat → WifiProg Bool
  | [] => pure false
  | delaySec :: rest => do
    if ← exceptOSError false (attempt terminalStatuses) then return true
    adjust lost
    if rest.isEmpty then return false
    sleepSliced delaySec
    connect rest

def noteObserved (connected : Bool) : WifiProg Unit :=
  adjust (fun w =>
    if w.wasConnected && !connected then w.lost
    else if connected && !w.wasConnected then w.joined
    else w)

def readLinked {α : Type} (connected : Bool) (answer : RadioInput → α) : WifiProg (Option α) :=
  if connected then exceptOSError none (call (fun i => some (answer i))) else pure none

def snapshot (mqttConnected : Bool) : WifiProg WifiSnapshot := do
  let connected ← isConnected
  noteObserved connected
  let counts ← look (fun w => (w.connectCount, w.disconnectCount))
  let values ← readLinked connected RadioInput.addresses
  let rssi ← readLinked connected RadioInput.rssi
  return {
    wifiConnected := connected
    mqttConnected
    ssid := if connected then some ssid else none
    ipAddress := values.map IfConfig.ipAddress
    netmask := values.map IfConfig.netmask
    gateway := values.map IfConfig.gateway
    dns := values.map IfConfig.dns
    rssi
    wifiConnectCount := counts.1
    wifiDisconnectCount := counts.2 }

end Connect

inductive WifiCall where
  | connect
  | isConnected
  | ipAddress
  | snapshot (mqttConnected : Bool)

inductive WifiAnswer where
  | connect (connected : Bool)
  | isConnected (connected : Bool)
  | ipAddress (address : Option String)
  | snapshot (s : WifiSnapshot)

variable (terminalStatuses : List Int) (ssid : String) (delaysSec : List Nat)

def answer : WifiCall → WifiProg WifiAnswer
  | .connect => do return .connect (← connect terminalStatuses delaysSec)
  | .isConnected => do return .isConnected (← isConnected)
  | .ipAddress => do return .ipAddress (← ipAddress)
  | .snapshot mqttConnected => do return .snapshot (← snapshot ssid mqttConnected)

/-- What Core 0 asks of its Wi-Fi owner, until a call raises. -/
def session : List WifiCall → WifiProg (List WifiAnswer)
  | [] => pure []
  | call :: calls => do
    let first ← answer terminalStatuses ssid delaysSec call
    let rest ← session calls
    return first :: rest

/-- What holds of the owner in every state. -/
structure Books (w : Wifi) : Prop where
  balanced : w.connectCount = w.disconnectCount + (if w.wasConnected then 1 else 0)
  created : w.wasConnected = true → w.created = true
  serviced : w.sinceServiceMs ≤ SLICE_MS

structure After (base : Wifi) (ms : Nat) (t : Wifi) : Prop where
  books : Books t
  connects : base.connectCount ≤ t.connectCount
  disconnects : base.disconnectCount ≤ t.disconnectCount
  slept : t.sleptMs ≤ base.sleptMs + ms

section Books

variable {base w t : Wifi} {n m : Nat}

theorem After.refl (h : Books w) : After w 0 w := ⟨h, Nat.le_refl _, Nat.le_refl _, Nat.le_refl _⟩

theorem After.within (h : After base n t) (hn : n ≤ m) : After base m t :=
  ⟨h.books, h.connects, h.disconnects, by have := h.slept; omega⟩

theorem After.trans (h : After base n w) (h' : After w m t) : After base (n + m) t where
  books := h'.books
  connects := Nat.le_trans h.connects h'.connects
  disconnects := Nat.le_trans h.disconnects h'.disconnects
  slept := by
    have := h.slept
    have := h'.slept
    omega

theorem After.joined (h : After base n t) (hcreated : t.created = true) :
    After base n t.joined := by
  obtain ⟨⟨hbalanced, -, hserviced⟩, hconnects, hdisconnects, hslept⟩ := h
  refine ⟨⟨?_, fun _ => hcreated, hserviced⟩, ?_, hdisconnects, hslept⟩
  · cases hwas : t.wasConnected <;> simp [Wifi.joined, hwas] at hbalanced ⊢ <;> omega
  · cases hwas : t.wasConnected <;> simp [Wifi.joined, hwas] <;> omega

theorem After.lost (h : After base n t) : After base n t.lost := by
  obtain ⟨⟨hbalanced, -, hserviced⟩, hconnects, hdisconnects, hslept⟩ := h
  refine ⟨⟨?_, fun hwas => absurd hwas (by simp [Wifi.lost]), hserviced⟩, hconnects, ?_, hslept⟩
  · cases hwas : t.wasConnected <;> simp [Wifi.lost, hwas] at hbalanced ⊢ <;> omega
  · cases hwas : t.wasConnected <;> simp [Wifi.lost, hwas] <;> omega

theorem After.create (h : After base n t) : After base n { t with created := true } :=
  ⟨⟨h.books.balanced, fun _ => rfl, h.books.serviced⟩, h.connects, h.disconnects, h.slept⟩

theorem After.serviced (h : After base n t) : After base n { t with sinceServiceMs := 0 } :=
  ⟨⟨h.books.balanced, h.books.created, Nat.zero_le _⟩, h.connects, h.disconnects, h.slept⟩

theorem After.sleep (h : After base n t) (hserviced : t.sinceServiceMs = 0) :
    After base (n + SLICE_MS) { t with
      sleptMs := t.sleptMs + SLICE_MS, sinceServiceMs := t.sinceServiceMs + SLICE_MS } := by
  refine ⟨⟨h.books.balanced, h.books.created, ?_⟩, h.connects, h.disconnects, ?_⟩
  · rw [hserviced]
    exact Nat.le_of_eq (Nat.zero_add _)
  · have := h.slept
    show t.sleptMs + SLICE_MS ≤ _
    omega

end Books

/-- An `OSError` comes out only when the hook has raised it. -/
def Escapes (A : RadioInput → Prop) (e : RadioFault) : Prop :=
  e = .osError → ∃ i, A i ∧ i.hookFault = some .osError

section Calls

variable {A : RadioInput → Prop} {base : Wifi} {limit n : Nat} {α β : Type}
  {Q : α → Wifi → Prop} {X : RadioFault → Wifi → Prop} {w : Wifi}

abbrev keeps (A : RadioInput → Prop) (base : Wifi) (limit : Nat) (Q : α → Wifi → Prop)
    (X : RadioFault → Wifi → Prop) (p : WifiProg α) (w : Wifi) : Prop :=
  p.wp A Eq (fun _ t => After base limit t) Q X w

theorem keeps_seq {Q' : β → Wifi → Prop} {p : WifiProg α} {f : α → WifiProg β}
    (hp : keeps A base limit Q X p w) (hf : ∀ a t, Q a t → keeps A base limit Q' X (f a) t) :
    keeps A base limit Q' X (p >>= f) w :=
  (Proc.wp_seq _ _ _).mpr (Proc.wp_mono hp (fun _ _ h => h) hf (fun _ _ h => h))

theorem keeps_call {f : RadioInput → α} (h : After base limit w) (hQ : ∀ a, Q a w)
    (hX : ∀ e, X e w) : keeps A base limit Q X (call f) w := by
  rintro t rfl i -
  refine ⟨h, ?_⟩
  dsimp only [Wifi.call]
  cases i.fault with
  | none => exact hQ _
  | some e => exact hX e

theorem keeps_look {f : Wifi → α} (h : After base limit w) (hQ : Q (f w) w) :
    keeps A base limit Q X (look f) w := by
  rintro t rfl i -
  exact ⟨h, hQ⟩

theorem keeps_adjust {f : Wifi → Wifi} {Q : Unit → Wifi → Prop} (h : After base limit (f w))
    (hQ : Q () (f w)) : keeps A base limit Q X (adjust f) w := by
  rintro t rfl i -
  exact ⟨h, hQ⟩

theorem keeps_exceptOSError {instead : α} {p : WifiProg α}
    (h : keeps A base limit Q (fun e t => if e = .osError then Q instead t else X e t) p w) :
    keeps A base limit Q X (exceptOSError instead p) w := by
  refine (Proc.wp_handle _ _ _).mpr (Proc.wp_mono h (fun _ _ h => h) (fun _ _ h => h) ?_)
  intro e t ht
  cases e with
  | osError => exact ht
  | memoryError => exact ht
  | other name => exact ht

theorem keeps_serviceWait {Q : Unit → Wifi → Prop} (h : After base limit w)
    (hQ : Q () { w with sinceServiceMs := 0 })
    (hX : ∀ e i, A i → i.hookFault = some e → X e { w with sinceServiceMs := 0 }) :
    keeps A base limit Q X serviceWait w := by
  rintro t rfl i hi
  refine ⟨h.serviced, ?_⟩
  dsimp only [Wifi.serviceWait]
  cases hfault : i.hookFault with
  | none => exact hQ
  | some e => exact hX e i hi hfault

theorem keeps_sleepSlices (slices : Nat) (h : After base n w)
    (hlimit : n + slices * SLICE_MS ≤ limit) :
    keeps A base limit (fun _ t => After base (n + slices * SLICE_MS) t)
      (fun e t => After base (n + slices * SLICE_MS) t ∧ Escapes A e) (sleepSlices slices) w := by
  induction slices generalizing n w with
  | zero => exact h.within (by omega)
  | succ slices ih =>
    rw [Nat.succ_mul, Nat.add_comm _ SLICE_MS, ← Nat.add_assoc] at hlimit ⊢
    have hw : After base limit w := h.within (by omega)
    refine keeps_seq (Q := fun _ t => After base n t ∧ t.sinceServiceMs = 0)
      (keeps_serviceWait hw ⟨h.serviced, rfl⟩ (fun e i hi hfault => ⟨h.serviced.within (by omega),
        fun he => ⟨i, hi, he ▸ hfault⟩⟩)) (fun _ t ht => ?_)
    have hslept := ht.1.sleep ht.2
    exact keeps_seq (keeps_adjust (hslept.within (by omega)) hslept) (fun _ u hu => ih hu hlimit)

theorem keeps_isConnected (h : After base limit w) :
    keeps A base limit (fun connected t => t = w ∧ (connected = true → w.created = true))
      (fun e t => t = w ∧ e ≠ .osError) isConnected w := by
  refine keeps_exceptOSError (keeps_seq (Q := fun created t => t = w ∧ created = w.created)
    (keeps_look h ⟨rfl, rfl⟩) ?_)
  rintro created t ⟨rfl, hcreated⟩
  by_cases hset : created = true
  · rw [if_pos hset]
    refine keeps_call h (fun _ => ⟨rfl, fun _ => hcreated ▸ hset⟩) (fun e => ?_)
    cases e <;> simp
  · rw [if_neg hset]
    exact ⟨rfl, by simp⟩

theorem keeps_read {f : RadioInput → α} {instead : α} (h : After base limit w) (hQ : ∀ a, Q a w) :
    keeps A base limit Q (fun e t => t = w ∧ e ≠ .osError) (exceptOSError instead (call f)) w := by
  refine keeps_exceptOSError (keeps_call h hQ (fun e => ?_))
  by_cases he : e = .osError
  · rw [if_pos he]
    exact hQ instead
  · rw [if_neg he]
    exact ⟨rfl, he⟩

theorem keeps_ipAddress (h : After base limit w) :
    keeps A base limit (fun _ t => t = w) (fun e t => t = w ∧ e ≠ .osError) ipAddress w := by
  refine keeps_seq (keeps_isConnected h) ?_
  rintro connected t ⟨rfl, -⟩
  cases connected with
  | false => exact rfl
  | true => exact keeps_read h (fun _ => rfl)

section Attempts

variable {terminalStatuses : List Int}

theorem keeps_observe (slices : Nat) (h : After base n w) (hlimit : n + slices * SLICE_MS ≤ limit) :
    keeps A base limit
      (fun _ t => After base (n + slices * SLICE_MS) t ∧ t.created = w.created)
      (fun _ t => After base (n + slices * SLICE_MS) t) (observe terminalStatuses slices) w := by
  induction slices generalizing n w with
  | zero =>
    have hw := h.within (Nat.le_add_right n (0 * SLICE_MS))
    exact keeps_seq (keeps_call (h.within (by omega)) (fun _ => rfl) (fun _ => hw))
      (fun _ t ht => ht ▸ ⟨hw, rfl⟩)
  | succ slices ih =>
    rw [Nat.succ_mul, Nat.add_comm _ SLICE_MS, ← Nat.add_assoc] at hlimit ⊢
    have hw : After base (n + SLICE_MS + slices * SLICE_MS) w := h.within (by omega)
    refine keeps_seq (Q := fun _ t => t = w)
      (keeps_call (hw.within hlimit) (fun _ => rfl) (fun _ => hw)) (fun connected t ht => ?_)
    subst ht
    cases connected with
    | true => exact ⟨hw, rfl⟩
    | false =>
      refine keeps_seq (Q := fun _ u => u = { t with sinceServiceMs := 0 })
        (keeps_serviceWait (hw.within hlimit) rfl (fun _ _ _ _ => hw.serviced)) (fun _ u hu => ?_)
      have hu' : After base n u := hu ▸ h.serviced
      have hcreated : u.created = t.created := by rw [hu]
      have hstatus : keeps A base limit (fun _ v => v = u)
          (fun _ v => After base (n + SLICE_MS + slices * SLICE_MS) v) currentStatus u :=
        Proc.wp_mono (keeps_read (Q := fun _ v => v = u) (hu'.within (by omega)) (fun _ => rfl))
          (fun _ _ hG => hG) (fun _ _ hQ => hQ) (fun _ v hv => hv.1 ▸ hu'.within (by omega))
      refine keeps_seq hstatus (fun status v hv => ?_)
      subst hv
      by_cases hterminal :
        status.any (fun status => terminalStatuses.contains status) = true
      · rw [if_pos hterminal]
        exact ⟨hu'.within (by omega), hcreated⟩
      · rw [if_neg hterminal]
        have hslept := hu'.sleep (by rw [hu])
        refine keeps_seq (Q := fun _ x => After base (n + SLICE_MS) x ∧ x.created = t.created)
          (keeps_adjust (hslept.within (by omega)) ⟨hslept, hcreated⟩) (fun _ x hx => ?_)
        exact Proc.wp_mono (ih hx.1 hlimit) (fun _ _ hG => hG)
          (fun _ y hy => ⟨hy.1, hy.2.trans hx.2⟩) (fun _ _ hX => hX)

def ATTEMPT_MS : Nat := OBSERVATION_SLICES * SLICE_MS

theorem keeps_attempt (h : After base n w) (hlimit : n + ATTEMPT_MS ≤ limit) :
    keeps A base limit
      (fun joined t => After base (n + ATTEMPT_MS) t ∧ (joined = true → t.wasConnected = true))
      (fun _ t => After base (n + ATTEMPT_MS) t) (attempt terminalStatuses) w := by
  have hcreate : keeps A base limit (fun _ t => After base n t ∧ t.created = true)
      (fun _ t => After base (n + ATTEMPT_MS) t) create w := by
    rintro t rfl i -
    dsimp only
    cases i.fault with
    | none => exact ⟨h.create.within (by omega), h.create, rfl⟩
    | some e => exact ⟨h.within (by omega), h.within (by omega)⟩
  have hcall : ∀ {β : Type} {f : RadioInput → β} {m : Nat} {t : Wifi}, m ≤ n + ATTEMPT_MS →
      After base m t ∧ t.created = true →
      keeps A base limit (fun _ u => After base m u ∧ u.created = true)
        (fun _ u => After base (n + ATTEMPT_MS) u) (call f) t := by
    intro β f m t hm ht
    exact keeps_call (ht.1.within (by omega)) (fun _ => ht) (fun _ => ht.1.within hm)
  have hprobe : ∀ t, After base n t ∧ t.created = true →
      keeps A base limit (fun _ u => After base n u ∧ u.created = true)
        (fun _ u => After base (n + ATTEMPT_MS) u) probePowerManagement t := by
    intro t ht
    refine (Proc.wp_handle _ _ _).mpr (keeps_call (ht.1.within (by omega)) (fun _ => ht) ?_)
    intro e
    cases e with
    | memoryError => exact ht.1.within (by omega)
    | osError => exact ht
    | other name => exact ht
  refine keeps_seq hcreate (fun _ t ht => keeps_seq (hcall (by omega) ht) (fun _ u hu => ?_))
  refine keeps_seq (hprobe u hu) (fun _ v hv => keeps_seq (hcall (by omega) hv) (fun _ x hx => ?_))
  refine keeps_seq (keeps_observe OBSERVATION_SLICES hx.1 hlimit) (fun _ y hy => ?_)
  refine keeps_seq (hcall (Nat.le_refl _) ⟨hy.1, hy.2.trans hx.2⟩) (fun connected z hz => ?_)
  cases connected with
  | false => exact ⟨hz.1, fun hjoined => by cases hjoined⟩
  | true =>
    have hjoined := hz.1.joined hz.2
    exact keeps_seq (Q := fun _ u => After base (n + ATTEMPT_MS) u ∧ u.wasConnected = true)
      (keeps_adjust (hjoined.within hlimit) ⟨hjoined, rfl⟩) (fun _ u hu => ⟨hu.1, fun _ => hu.2⟩)

def connectMs : List Nat → Nat
  | [] => 0
  | delaySec :: rest =>
    ATTEMPT_MS + (if rest.isEmpty then 0 else delaySec * 10 * SLICE_MS + connectMs rest)

theorem keeps_connect (delaysSec : List Nat) (h : After base n w)
    (hlimit : n + connectMs delaysSec ≤ limit) :
    keeps A base limit (fun connected t => After base (n + connectMs delaysSec) t ∧
        (delaysSec ≠ [] → t.wasConnected = connected))
      (fun e t => After base (n + connectMs delaysSec) t ∧ Escapes A e)
      (connect terminalStatuses delaysSec) w := by
  induction delaysSec generalizing n w with
  | nil => exact ⟨h, fun hne => absurd rfl hne⟩
  | cons delaySec rest ih =>
    have hattempt : n + ATTEMPT_MS ≤ n + connectMs (delaySec :: rest) := by
      rw [connectMs]
      omega
    refine keeps_seq (Q := fun joined t => After base (n + ATTEMPT_MS) t ∧
      (joined = true → t.wasConnected = true)) (keeps_exceptOSError (Proc.wp_mono
        (keeps_attempt h (by omega)) (fun _ _ hG => hG) (fun _ _ hQ => hQ) (fun e t ht => ?_)))
        (fun joined t ht => ?_)
    · by_cases he : e = .osError
      · rw [if_pos he]
        exact ⟨ht, fun hjoined => by cases hjoined⟩
      · rw [if_neg he]
        exact ⟨ht.within hattempt, fun hos => absurd hos he⟩
    · cases joined with
      | true => exact ⟨ht.1.within hattempt, fun _ => ht.2 rfl⟩
      | false =>
        have hlost := ht.1.lost
        refine keeps_seq (Q := fun _ u => After base (n + ATTEMPT_MS) u ∧ u.wasConnected = false)
          (keeps_adjust (hlost.within (by omega)) ⟨hlost, rfl⟩) (fun _ u hu => ?_)
        by_cases hlast : rest.isEmpty = true
        · rw [if_pos hlast]
          exact ⟨hu.1.within hattempt, fun _ => hu.2⟩
        · rw [if_neg hlast]
          have hsum : n + connectMs (delaySec :: rest) =
              n + ATTEMPT_MS + delaySec * 10 * SLICE_MS + connectMs rest := by
            rw [connectMs, if_neg hlast]
            omega
          rw [hsum] at hlimit ⊢
          refine keeps_seq (Proc.wp_mono (keeps_sleepSlices (delaySec * 10) hu.1 (by omega))
            (fun _ _ hG => hG) (fun _ _ hQ => hQ)
            (fun e v hv => ⟨hv.1.within (by omega), hv.2⟩)) (fun _ v hv => ?_)
          refine Proc.wp_mono (ih hv hlimit) (fun _ _ hG => hG)
            (fun connected x hx => ⟨hx.1, fun _ => hx.2 ?_⟩) (fun _ _ hX => hX)
          rintro rfl
          exact hlast rfl

end Attempts

structure Truthful (ssid : String) (s : WifiSnapshot) : Prop where
  balanced : s.wifiConnectCount = s.wifiDisconnectCount + (if s.wifiConnected then 1 else 0)
  ssid : s.ssid = if s.wifiConnected then some ssid else none
  unlinked : s.wifiConnected = false → s.ipAddress = none ∧ s.netmask = none ∧ s.gateway = none ∧
    s.dns = none ∧ s.rssi = none

def Shows (s : WifiSnapshot) (t : Wifi) : Prop :=
  s.wifiConnected = t.wasConnected ∧ s.wifiConnectCount = t.connectCount ∧
    s.wifiDisconnectCount = t.disconnectCount

theorem keeps_noteObserved {connected : Bool} (h : After base n w) (hlimit : n ≤ limit)
    (hcreated : connected = true → w.created = true) :
    keeps A base limit (fun _ t => After base n t ∧ t.wasConnected = connected) X
      (noteObserved connected) w := by
  refine keeps_adjust (Q := fun _ t => After base n t ∧ t.wasConnected = connected) ?_ ?_ <;>
    cases hwas : w.wasConnected <;> cases connected
  · simpa [hwas] using h.within hlimit
  · simpa [hwas] using (h.joined (hcreated rfl)).within hlimit
  · simpa [hwas] using h.lost.within hlimit
  · simpa [hwas] using h.within hlimit
  · simpa [hwas] using h
  · exact ⟨by simpa [hwas] using h.joined (hcreated rfl), by simp [hwas, joined]⟩
  · exact ⟨by simpa [hwas] using h.lost, by simp [hwas, lost]⟩
  · simpa [hwas] using h

theorem keeps_readLinked {f : RadioInput → α} {connected : Bool} (h : After base n w)
    (hlimit : n ≤ limit) :
    keeps A base limit (fun value t => t = w ∧ (connected = false → value = none))
      (fun e t => After base n t ∧ e ≠ .osError) (readLinked connected f) w := by
  cases connected with
  | false => exact ⟨rfl, fun _ => rfl⟩
  | true =>
    exact Proc.wp_mono (keeps_read (Q := fun _ t => t = w) (h.within hlimit) (fun _ => rfl))
      (fun _ _ hG => hG) (fun _ _ ht => ⟨ht, fun hno => by cases hno⟩)
      (fun _ _ hX => ⟨hX.1 ▸ h, hX.2⟩)

theorem keeps_snapshot {ssid : String} {mqttConnected : Bool} (h : After base n w)
    (hlimit : n ≤ limit) :
    keeps A base limit (fun s t => After base n t ∧ Truthful ssid s ∧ Shows s t)
      (fun e t => After base n t ∧ e ≠ .osError) (snapshot ssid mqttConnected) w := by
  refine keeps_seq (Q := fun connected t => t = w ∧ (connected = true → w.created = true))
    (Proc.wp_mono (keeps_isConnected (h.within hlimit)) (fun _ _ hG => hG) (fun _ _ hQ => hQ)
      (fun _ _ hX => ⟨hX.1 ▸ h, hX.2⟩)) ?_
  rintro connected t ⟨rfl, hcreated⟩
  refine keeps_seq (keeps_noteObserved h hlimit hcreated) ?_
  rintro - u ⟨hu, hconnected⟩
  refine keeps_seq (Q := fun counts v => v = u ∧ counts = (u.connectCount, u.disconnectCount))
    (keeps_look (hu.within hlimit) ⟨rfl, rfl⟩) ?_
  rintro counts v ⟨rfl, rfl⟩
  refine keeps_seq (keeps_readLinked hu hlimit) ?_
  rintro values x ⟨rfl, hnoValues⟩
  refine keeps_seq (keeps_readLinked hu hlimit) ?_
  rintro rssi y ⟨rfl, hnoRssi⟩
  refine ⟨hu, ⟨?_, rfl, fun hno => ?_⟩, hconnected.symm, rfl, rfl⟩
  · rw [← hconnected]
    exact hu.books.balanced
  · rw [hnoValues hno, hnoRssi hno]
    exact ⟨rfl, rfl, rfl, rfl, rfl⟩

def snapshot? : WifiAnswer → Option WifiSnapshot
  | .snapshot s => some s
  | _ => none

def NotBehind (s s' : WifiSnapshot) : Prop :=
  s.wifiConnectCount ≤ s'.wifiConnectCount ∧ s.wifiDisconnectCount ≤ s'.wifiDisconnectCount

def Agrees (delaysSec : List Nat) (t : Wifi) : WifiAnswer → Prop
  | .connect connected => delaysSec ≠ [] → t.wasConnected = connected
  | .snapshot s => Shows s t
  | _ => True

def callMs (delaysSec : List Nat) : WifiCall → Nat
  | .connect => connectMs delaysSec
  | _ => 0

def sessionMs (delaysSec : List Nat) : List WifiCall → Nat
  | [] => 0
  | call :: calls => callMs delaysSec call + sessionMs delaysSec calls

/-- What the answers of a session from `w` to `t` tell. -/
structure Reported (ssid : String) (delaysSec : List Nat) (w : Wifi) (answers : List WifiAnswer)
    (t : Wifi) : Prop where
  truthful : ∀ s ∈ answers.filterMap snapshot?, Truthful ssid s
  later : ∀ s ∈ answers.filterMap snapshot?,
    w.connectCount ≤ s.wifiConnectCount ∧ w.disconnectCount ≤ s.wifiDisconnectCount
  ordered : (answers.filterMap snapshot?).Pairwise NotBehind
  agrees : ∀ a, answers.getLast? = some a → Agrees delaysSec t a

section Sessions

variable {terminalStatuses : List Int} {ssid : String} {delaysSec : List Nat}

theorem keeps_answer (h : Books w) (asked : WifiCall) :
    keeps A w (callMs delaysSec asked)
      (fun a t => After w (callMs delaysSec asked) t ∧ Agrees delaysSec t a ∧
        ∀ s, snapshot? a = some s → Truthful ssid s ∧ Shows s t)
      (fun e t => After w (callMs delaysSec asked) t ∧ Escapes A e)
      (answer terminalStatuses ssid delaysSec asked) w := by
  have hstart := After.refl h
  cases asked with
  | connect =>
    refine keeps_seq (Proc.wp_mono (keeps_connect delaysSec hstart (by simp [callMs]))
      (fun _ _ hG => hG) (fun _ _ hQ => hQ) (fun _ _ hX => by simpa [callMs] using hX)) ?_
    rintro connected t ⟨ht, hconnected⟩
    exact ⟨by simpa [callMs] using ht, hconnected, fun s hs => by cases hs⟩
  | isConnected =>
    refine keeps_seq (Proc.wp_mono (keeps_isConnected hstart) (fun _ _ hG => hG) (fun _ _ hQ => hQ)
      (fun _ _ hX => ⟨hX.1 ▸ hstart, fun he => absurd he hX.2⟩)) ?_
    rintro connected t ⟨rfl, -⟩
    exact ⟨hstart, trivial, fun s hs => by cases hs⟩
  | ipAddress =>
    refine keeps_seq (Proc.wp_mono (keeps_ipAddress hstart) (fun _ _ hG => hG) (fun _ _ hQ => hQ)
      (fun _ _ hX => ⟨hX.1 ▸ hstart, fun he => absurd he hX.2⟩)) ?_
    rintro address t rfl
    exact ⟨hstart, trivial, fun s hs => by cases hs⟩
  | snapshot mqttConnected =>
    refine keeps_seq (Proc.wp_mono (keeps_snapshot hstart (Nat.le_refl _)) (fun _ _ hG => hG)
      (fun _ _ hQ => hQ) (fun _ _ hX => ⟨hX.1, fun he => absurd he hX.2⟩)) ?_
    rintro s t ⟨ht, htruthful, hshows⟩
    exact ⟨ht, hshows, by rintro s ⟨⟩; exact ⟨htruthful, hshows⟩⟩

theorem reported_cons {a : WifiAnswer} {answers : List WifiAnswer} {t u : Wifi} {ms : Nat}
    (hfirst : After w ms t) (hagrees : Agrees delaysSec t a)
    (hshown : ∀ s, snapshot? a = some s → Truthful ssid s ∧ Shows s t)
    (hrest : Reported ssid delaysSec t answers u) (hend : answers = [] → u = t) :
    Reported ssid delaysSec w (a :: answers) u := by
  have hlater : ∀ s ∈ answers.filterMap snapshot?,
      w.connectCount ≤ s.wifiConnectCount ∧ w.disconnectCount ≤ s.wifiDisconnectCount :=
    fun s hs => ⟨Nat.le_trans hfirst.connects (hrest.later s hs).1,
      Nat.le_trans hfirst.disconnects (hrest.later s hs).2⟩
  have hlast : ∀ b, (a :: answers).getLast? = some b → Agrees delaysSec u b := by
    intro b hb
    cases answers with
    | nil =>
      rw [List.getLast?_singleton, Option.some.injEq] at hb
      rw [hend rfl, ← hb]
      exact hagrees
    | cons next rest => exact hrest.agrees b (by rwa [List.getLast?_cons_cons] at hb)
  cases ha : snapshot? a with
  | none =>
    exact ⟨by simpa [ha] using hrest.truthful, by simpa [ha] using hlater,
      by simpa [ha] using hrest.ordered, hlast⟩
  | some s =>
    obtain ⟨htruthful, -, hconnects, hdisconnects⟩ := hshown s ha
    refine ⟨?_, ?_, ?_, hlast⟩ <;> rw [List.filterMap_cons_some ha]
    · exact List.forall_mem_cons.mpr ⟨htruthful, hrest.truthful⟩
    · exact List.forall_mem_cons.mpr
        ⟨⟨hconnects ▸ hfirst.connects, hdisconnects ▸ hfirst.disconnects⟩, hlater⟩
    · refine List.pairwise_cons.mpr ⟨fun s' hs' => ?_, hrest.ordered⟩
      exact ⟨hconnects ▸ (hrest.later s' hs').1, hdisconnects ▸ (hrest.later s' hs').2⟩

theorem keeps_session (h : Books w) (calls : List WifiCall) :
    keeps A w (sessionMs delaysSec calls)
      (fun answers t => After w (sessionMs delaysSec calls) t ∧
        Reported ssid delaysSec w answers t ∧ (answers = [] → t = w))
      (fun e t => After w (sessionMs delaysSec calls) t ∧ Escapes A e)
      (session terminalStatuses ssid delaysSec calls) w := by
  induction calls generalizing w with
  | nil => exact ⟨After.refl h, ⟨by simp, by simp, .nil, by simp⟩, fun _ => rfl⟩
  | cons asked calls ih =>
    rw [sessionMs]
    refine keeps_seq (Proc.wp_mono (keeps_answer h asked) (fun _ _ hG => hG.within (by omega))
      (fun _ _ hQ => hQ) (fun _ _ hX => ⟨hX.1.within (by omega), hX.2⟩)) ?_
    rintro first t ⟨ht, hagrees, hshown⟩
    refine keeps_seq (Proc.wp_mono (ih ht.books) (fun _ _ hG => ht.trans hG) (fun _ _ hQ => hQ)
      (fun _ _ hX => ⟨ht.trans hX.1, hX.2⟩)) ?_
    rintro answers u ⟨hu, hreported, hend⟩
    exact ⟨ht.trans hu, reported_cons ht hagrees hshown hreported hend, fun hnil => by cases hnil⟩

/-- However the radio behaves and whatever is asked of the owner: its books are balanced in every
state, no sleep goes on for more than a slice without the hook, the sleep of a session is bounded,
the snapshots are truthful and never go back, and the last answer is that of the state. -/
theorem wifi_session (A : RadioInput → Prop) (terminalStatuses : List Int) (ssid : String)
    (delaysSec : List Nat) (calls : List WifiCall) :
    (session terminalStatuses ssid delaysSec calls).wp A Eq (fun _ t => Books t)
      (fun answers t => Books t ∧ t.sleptMs ≤ sessionMs delaysSec calls ∧
        Reported ssid delaysSec {} answers t)
      (fun e t => Books t ∧ t.sleptMs ≤ sessionMs delaysSec calls ∧ Escapes A e) {} := by
  have hstart : Books {} := ⟨rfl, by simp, Nat.zero_le _⟩
  refine Proc.wp_mono (keeps_session hstart calls) (fun _ _ hG => hG.books) ?_ ?_
  · rintro answers t ⟨ht, hreported, -⟩
    exact ⟨ht.books, by simpa using ht.slept, hreported⟩
  · rintro e t ⟨ht, he⟩
    exact ⟨ht.books, by simpa using ht.slept, he⟩

example : ((session [-3, -2, -1] "net" [5] [.connect, .snapshot true]).run { connected := true }
    {}).2 = { created := true, connectCount := 1, wasConnected := true } := by decide

end Sessions

end Calls

end Wifi

end PicoDualCore
