import FramedLink.Config.Load
import FramedLink.Proofs.CheckOrder

namespace FramedLink

def failureOf {ε α : Type} : Except ε α → Option ε
  | .error e => some e
  | .ok _ => none

section Bind

variable {ε α β : Type}

theorem bind_eq_ok_iff {x : Except ε α} {f : α → Except ε β} {b : β} :
    x >>= f = .ok b ↔ ∃ a, x = .ok a ∧ f a = .ok b := by
  cases x <;> simp [bind, Except.bind]

end Bind

namespace Config

def ValidDuration (value : Bytes) (d : Duration) : Prop :=
  Duration.read? (Utf8.trimBlank value) = .ok d ∧ 0 ≤ d.nanos

theorem duration_eq_ok_iff {key : String} {value : Bytes} {d : Duration} :
    duration key value = .ok d ↔ ValidDuration value d := by
  unfold duration ValidDuration
  split
  · next e he => simp [he]
  · next d' hd =>
    split
    · next hneg =>
      simp only [reduceCtorEq, false_iff, not_and, hd, Except.ok.injEq]
      rintro rfl
      omega
    · next hneg =>
      simp only [Except.ok.injEq, hd]
      constructor
      · rintro rfl
        exact ⟨rfl, by omega⟩
      · rintro ⟨rfl, _⟩
        rfl

namespace Raw

variable (raw : Raw)

def pick {α : Type} (key : String) (given default : α) : α :=
  if key ∈ raw.defined then given else default

def checked {α : Type} (key : String) (x : Except SettingsError α) (default : α) :
    Except SettingsError α :=
  raw.pick key x (pure default)

/-- A field after the overlay: what `given` allows of it when the file defines `key`, and its
default otherwise. -/
def Laid {α : Type} (key : String) (given : α → Prop) (default field : α) : Prop :=
  if key ∈ raw.defined then given field else field = default

def trimmedAddr : String := Utf8.text (Utf8.trimBlank raw.addr)

/-- `s` is the defaults with every key the file defines laid over its field: the address
trimmed, unless that leaves it empty; each timeout trimmed, read as a duration and not negative;
the count at least one; the log level trimmed. A key the file does not define leaves its field
at the default, whatever other keys it defines. -/
structure Overlays (s : Settings) : Prop where
  addr : raw.Laid "addr"
    (· = if raw.trimmedAddr = "" then Settings.defaults.addr else raw.trimmedAddr)
    Settings.defaults.addr s.addr
  writeTimeout : raw.Laid "write_timeout" (ValidDuration raw.writeTimeout)
    Settings.defaults.writeTimeout s.writeTimeout
  shutdownTimeout : raw.Laid "shutdown_timeout" (ValidDuration raw.shutdownTimeout)
    Settings.defaults.shutdownTimeout s.shutdownTimeout
  count : raw.Laid "count" (fun n => n = raw.count ∧ 1 ≤ n) Settings.defaults.count s.count
  logLevel : raw.Laid "log_level" (· = Utf8.text (Utf8.trimBlank raw.logLevel))
    Settings.defaults.logLevel s.logLevel

/-- Why the value the file gives the duration key `key` is refused: its trimmed text does not
read as a duration, or reads as a negative one. A key the file does not define is not refused. -/
def durationRefusal (key : String) (value : Bytes) : Option SettingsError :=
  if key ∈ raw.defined then
    match Duration.read? (Utf8.trimBlank value) with
    | .error e => some (.duration key e)
    | .ok d => if d.nanos < 0 then some (.negative key d) else none
  else none

/-- Why the file's value of each key that can be refused is refused, in the order the keys are
checked: the write timeout, the shutdown timeout, and the count, which must be at least one. The
address and the log level are never refused. -/
def refusals : List (Option SettingsError) :=
  [raw.durationRefusal "write_timeout" raw.writeTimeout,
   raw.durationRefusal "shutdown_timeout" raw.shutdownTimeout,
   if "count" ∈ raw.defined ∧ raw.count < 1 then some (.countNotPositive raw.count) else none]

def overlayFields : Except SettingsError Settings := do
  let writeTimeout ← raw.checked "write_timeout" (duration "write_timeout" raw.writeTimeout)
    Settings.defaults.writeTimeout
  let shutdownTimeout ← raw.checked "shutdown_timeout"
    (duration "shutdown_timeout" raw.shutdownTimeout) Settings.defaults.shutdownTimeout
  let count ← raw.checked "count"
    (if raw.count < 1 then throw (.countNotPositive raw.count) else pure raw.count)
    Settings.defaults.count
  pure ⟨raw.pick "addr" (if raw.trimmedAddr = "" then Settings.defaults.addr else raw.trimmedAddr)
      Settings.defaults.addr,
    writeTimeout, shutdownTimeout, count,
    raw.pick "log_level" (Utf8.text (Utf8.trimBlank raw.logLevel)) Settings.defaults.logLevel⟩

def layAddr : Settings :=
  let addr := Utf8.text (Utf8.trimBlank raw.addr)
  if (raw.defined.contains "addr" && !addr.isEmpty) = true then { Settings.defaults with addr }
  else Settings.defaults

def layDuration (key : String) (value : Bytes) (set : Settings → Duration → Settings)
    (s : Settings) (k : Settings → Except SettingsError Settings) :
    Except SettingsError Settings :=
  if raw.defined.contains key = true then do
    let d ← duration key value
    let s ← pure (set s d)
    k s
  else do
    let s ← pure s
    k s

def layCount (s : Settings) (k : Settings → Except SettingsError Settings) :
    Except SettingsError Settings :=
  if raw.defined.contains "count" = true then
    if raw.count < 1 then do
      let s ← throw (SettingsError.countNotPositive raw.count)
      k s
    else do
      let s ← pure { s with count := raw.count }
      k s
  else do
    let s ← pure s
    k s

def layLogLevel (s : Settings) : Settings :=
  if raw.defined.contains "log_level" = true then
    { s with logLevel := Utf8.text (Utf8.trimBlank raw.logLevel) }
  else s

theorem overlay_eq_steps : raw.overlay =
    raw.layDuration "write_timeout" raw.writeTimeout (fun s d => { s with writeTimeout := d })
      raw.layAddr fun s =>
    raw.layDuration "shutdown_timeout" raw.shutdownTimeout
      (fun s d => { s with shutdownTimeout := d }) s fun s =>
    raw.layCount s fun s => pure (raw.layLogLevel s) := rfl

theorem layDuration_eq (key : String) (value : Bytes) (set : Settings → Duration → Settings)
    (get : Settings → Duration) (hs : ∀ s, set s (get s) = s) (s : Settings)
    (k : Settings → Except SettingsError Settings) :
    raw.layDuration key value set s k =
      raw.checked key (duration key value) (get s) >>= fun d => k (set s d) := by
  by_cases hk : key ∈ raw.defined <;> simp [layDuration, checked, pick, hk, hs]

theorem layCount_eq (s : Settings) (k : Settings → Except SettingsError Settings) :
    raw.layCount s k = raw.checked "count"
      (if raw.count < 1 then throw (.countNotPositive raw.count) else pure raw.count) s.count >>=
        fun n => k { s with count := n } := by
  by_cases hk : "count" ∈ raw.defined
  · by_cases hc : raw.count < 1
    · simp [layCount, checked, pick, hk, hc]
      rfl
    · simp [layCount, checked, pick, hk, hc]
  · simp [layCount, checked, pick, hk]

theorem layAddr_eq : raw.layAddr = { Settings.defaults with
    addr := raw.pick "addr"
      (if raw.trimmedAddr = "" then Settings.defaults.addr else raw.trimmedAddr)
      Settings.defaults.addr } := by
  unfold layAddr pick trimmedAddr
  by_cases ha : "addr" ∈ raw.defined <;>
    by_cases he : Utf8.text (Utf8.trimBlank raw.addr) = "" <;> simp [ha, he]

theorem layLogLevel_eq (s : Settings) : raw.layLogLevel s = { s with
    logLevel := raw.pick "log_level" (Utf8.text (Utf8.trimBlank raw.logLevel)) s.logLevel } := by
  unfold layLogLevel pick
  split <;> simp_all

theorem overlay_eq_fields : raw.overlay = raw.overlayFields := by
  simp only [overlay_eq_steps,
    layDuration_eq raw _ _ (fun s d => { s with writeTimeout := d }) Settings.writeTimeout
      (fun _ => rfl),
    layDuration_eq raw _ _ (fun s d => { s with shutdownTimeout := d }) Settings.shutdownTimeout
      (fun _ => rfl),
    layCount_eq, layLogLevel_eq, layAddr_eq, overlayFields]

theorem laid_eq_iff {α : Type} {key : String} {given default a : α} :
    raw.Laid key (· = given) default a ↔ a = raw.pick key given default := by
  unfold Laid pick
  split <;> rfl

theorem checked_eq_ok_iff {α : Type} {key : String} {x : Except SettingsError α}
    {default a : α} :
    raw.checked key x default = .ok a ↔ raw.Laid key (fun a => x = .ok a) default a := by
  unfold checked pick Laid
  split
  · rfl
  · exact ⟨fun h => (Except.ok.inj h).symm, fun h => h ▸ rfl⟩

theorem count_eq_ok_iff {n : Int} :
    (if raw.count < 1 then throw (.countNotPositive raw.count) else pure raw.count :
      Except SettingsError Int) = .ok n ↔ n = raw.count ∧ 1 ≤ n := by
  split
  · next hc =>
    constructor
    · intro h
      cases h
    · rintro ⟨rfl, hle⟩
      omega
  · next hc =>
    constructor
    · intro h
      cases h
      exact ⟨rfl, by omega⟩
    · rintro ⟨rfl, -⟩
      rfl

theorem failureOf_checked_duration (key : String) (value : Bytes) (default : Duration) :
    failureOf (raw.checked key (duration key value) default) = raw.durationRefusal key value := by
  unfold checked pick durationRefusal duration
  split
  · cases Duration.read? (Utf8.trimBlank value) with
    | error e => rfl
    | ok d => by_cases hn : d.nanos < 0 <;> simp [hn, failureOf]
  · rfl

theorem failureOf_checked_count :
    failureOf (raw.checked "count"
      (if raw.count < 1 then throw (.countNotPositive raw.count) else pure raw.count)
      Settings.defaults.count) =
    if "count" ∈ raw.defined ∧ raw.count < 1 then some (.countNotPositive raw.count)
    else none := by
  unfold checked pick
  by_cases hk : "count" ∈ raw.defined <;> by_cases hc : raw.count < 1 <;> simp [hk, hc] <;> rfl

theorem overlayFields_eq_error_iff (e : SettingsError) :
    raw.overlayFields = .error e ↔ firstFailure raw.refusals = some e := by
  rw [refusals, ← failureOf_checked_duration raw "write_timeout" _ Settings.defaults.writeTimeout,
    ← failureOf_checked_duration raw "shutdown_timeout" _ Settings.defaults.shutdownTimeout,
    ← failureOf_checked_count, overlayFields]
  -- only the outcomes of the three checks matter
  generalize raw.checked "write_timeout" _ _ = w
  generalize raw.checked "shutdown_timeout" _ _ = t
  generalize raw.checked "count" _ _ = c
  cases w <;> cases t <;> cases c <;> simp [failureOf, bind, Except.bind, pure, Except.pure]

theorem overlayFields_eq_ok_iff (s : Settings) : raw.overlayFields = .ok s ↔ raw.Overlays s := by
  simp only [overlayFields, bind_eq_ok_iff, checked_eq_ok_iff, duration_eq_ok_iff, count_eq_ok_iff]
  constructor
  · rintro ⟨w, hw, t, ht, c, hc, hs⟩
    cases hs
    exact ⟨(raw.laid_eq_iff).mpr rfl, hw, ht, hc, (raw.laid_eq_iff).mpr rfl⟩
  · intro h
    refine ⟨s.writeTimeout, h.writeTimeout, s.shutdownTimeout, h.shutdownTimeout, s.count,
      h.count, ?_⟩
    rw [← (raw.laid_eq_iff).mp h.addr, ← (raw.laid_eq_iff).mp h.logLevel]
    rfl

end Raw

/-- Loading settings, for any decoder: an empty name gives the defaults, a missing or undecodable
file the decoder's complaint under its name, and a decoded file the first key refusal in field
order, or else exactly the settings `Overlays` describes. -/
theorem load_overlays (decode : Decoder) (name text : String) :
    (∀ content, load decode "" content = .ok Settings.defaults) ∧
    (name ≠ "" → load decode name none =
      .error (.load name ("open " ++ name ++ ": no such file or directory"))) ∧
    (∀ msg, name ≠ "" → decode (Format.ofName name) text = .error msg →
      load decode name (some text) = .error (.load name msg) ∧
        (SettingsError.load name msg).message = "load config " ++ name ++ ": " ++ msg) ∧
    (∀ raw, name ≠ "" → decode (Format.ofName name) text = .ok raw →
      (∀ s, load decode name (some text) = .ok s ↔ raw.Overlays s) ∧
      (∀ e, load decode name (some text) = .error e ↔ firstFailure raw.refusals = some e)) := by
  have named : ∀ {name : String}, name ≠ "" → name.isEmpty = false := by
    intro name hn
    simpa [String.isEmpty_iff] using hn
  refine ⟨fun _ => rfl, fun hn => by simp [load, named hn], fun msg hn hd => ?_,
    fun raw hn hd => ?_⟩
  · exact ⟨by simp [load, named hn, hd], rfl⟩
  · have hload : load decode name (some text) = raw.overlay := by simp [load, named hn, hd]
    rw [hload, raw.overlay_eq_fields]
    exact ⟨raw.overlayFields_eq_ok_iff, raw.overlayFields_eq_error_iff⟩

end Config
end FramedLink
