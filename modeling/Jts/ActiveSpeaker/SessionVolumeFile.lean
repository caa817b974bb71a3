import Jts.ActiveSpeaker.SessionVolume
import Jts.Shared.PythonJson

set_option autoImplicit false

namespace Jts.ActiveSpeaker.SessionVolumeFile

open Shared.PythonJson
open SessionVolume (Status Seconds defaultWallClockCeilingS maxWallClockCeilingS)

def schemaVersion : ℤ := 1

def stateKind : String := "jts_crossover_session_volume"

/-- What is loaded, its numbers as the file has them. -/
structure State where
  status : Status
  reason : Option String
  openedAt : PyFloat
  wallClockCeilingS : PyFloat
  measurementVolumeDb : Option PyFloat
  originalMainVolumeDb : Option PyFloat

def malformed (reason : String) : State where
  status := .unresolved
  reason := some reason
  openedAt := .finite 0
  wallClockCeilingS := .finite defaultWallClockCeilingS
  measurementVolumeDb := none
  originalMainVolumeDb := none

-- A bool is no number here, though Python takes it for an integer.
def number : Option Json → Option (Except PyError PyFloat)
  | some (.int value) => some (floatOfInt value)
  | some (.float value) => some (.ok value)
  | _ => none

def finiteFloat (value : Option Json) : Option PyFloat :=
  match number value with
  | some (.ok value) => if value.isFinite then some value else none
  | _ => none

def finiteNonpositive (value : Option Json) : Option PyFloat := (finiteFloat value).filter fun value => value.le (.finite 0)

def equalsStr (text : String) : Option Json → Bool
  | some (.str value) => value = text
  | _ => false

def equalsInt (number : ℤ) : Option Json → Bool
  | some (.int value) => value = number
  | some (.bool value) => (if value then 1 else 0) = number
  | some (.float (.finite value)) => value = number
  | _ => false

def isRecord (fields : List (String × Json)) : Bool :=
  equalsStr stateKind (field fields "kind") && equalsInt schemaVersion (field fields "schema_version")

def isResolved (fields : List (String × Json)) : Bool := equalsStr "resolved" (field fields "status")

-- Whether a status is in a set is asked by its hash.
def statusOf : Option Json → Except PyError (Option Status)
  | some (.list _) | some (.dict _) => .error .type
  | some (.str value) => .ok (if value = "active" then some .active else if value = "unresolved" then some .unresolved else none)
  | _ => .ok none

def ceilingOf (value : Option Json) : Except PyError PyFloat :=
  match number value with
  | none => .ok (.finite defaultWallClockCeilingS)
  | some (.error error) => .error error
  | some (.ok ceiling) =>
      .ok (if ceiling.isFinite && !ceiling.le (.finite 0) then ceiling else .finite defaultWallClockCeilingS)

variable (str : Json → String)

def hydrate (fields : List (String × Json)) : Except PyError (Option State) :=
  if !isRecord fields then .ok (some (malformed "session_volume_state_malformed"))
  else if isResolved fields then .ok none
  else do
    match ← statusOf (field fields "status") with
    | none => return some (malformed "session_volume_state_malformed")
    | some status =>
        match number (field fields "opened_at") with
        | none => return some (malformed "session_volume_state_malformed")
        | some openedAt =>
            let ceiling ← ceilingOf (field fields "wall_clock_ceiling_s")
            let openedAt ← openedAt
            return some
              { status := status
                reason :=
                  match field fields "reason" with
                  | none | some .null => none
                  | some reason => some (str reason)
                openedAt := openedAt
                wallClockCeilingS := ceiling
                measurementVolumeDb := finiteNonpositive (field fields "measurement_volume_db")
                originalMainVolumeDb := finiteNonpositive (field fields "original_main_volume_db") }

def loadState (loads : Loads) (content : FileContent) : Except PyError (Option State) :=
  match readText content >>= loadText loads with
  | .error error =>
      if error.isA .fileNotFound then .ok none
      else if error.isA .os || error.isA .jsonDecode then .ok (some (malformed "session_volume_state_unreadable"))
      else .error error
  | .ok (.dict fields) => hydrate str fields
  | .ok _ => .ok (some (malformed "session_volume_state_malformed"))

def State.staleActive (state : State) (now : Seconds) : Bool :=
  decide (state.status = .active) && state.wallClockCeilingS.lt (.fromFinite now state.openedAt)

/-- A file that says that its session is resolved. -/
def Resolved (loads : Loads) (content : FileContent) : Prop :=
  ∃ data text fields, content = .bytes data ∧ String.fromUTF8? data = some text ∧ loads text = .ok (.dict fields) ∧
    isRecord fields = true ∧ isResolved fields = true

def Quiet (volume : Option PyFloat) : Prop := ∀ level ∈ volume, ∃ db : ℚ, level = .finite db ∧ db ≤ 0

/-- What a file written at a moment loads as is safe. -/
structure Safe (loads : Loads) (content : FileContent) (written : Seconds) (loaded : Option State) : Prop where
  resolved : loaded = none → content = .missing ∨ Resolved loads content
  measurement : ∀ state ∈ loaded, Quiet state.measurementVolumeDb
  original : ∀ state ∈ loaded, Quiet state.originalMainVolumeDb
  expires : ∀ state ∈ loaded, state.status = .active → ∀ now, written + maxWallClockCeilingS < now → state.staleActive now = true

def FailsClosed (loads : Loads) (content : FileContent) (written : Seconds) : Prop :=
  ∃ loaded, loadState str loads content = .ok loaded ∧ Safe loads content written loaded

/-- A file whose text can be read and whose nesting and numbers can be parsed. -/
def Readable (loads : Loads) (content : FileContent) : Prop :=
  ∀ data, content = .bytes data →
    ∃ text, String.fromUTF8? data = some text ∧ loads text ≠ .error .digits ∧ loads text ≠ .error .depth

-- The session ends in time, if its moment is a number.
def Expires (openedAt ceiling : PyFloat) (written : Seconds) : Prop :=
  match openedAt, ceiling with
  | .finite opened, .finite ceiling => opened + ceiling ≤ written + maxWallClockCeilingS
  | .infinity negative, .finite _ => negative = true
  | _, _ => False

/-- The moment, if it is a number, and the ceiling are floats, and an active session ends in time. -/
def Timed (status : Status) (opened : Option (Except PyError PyFloat)) (ceiling : Except PyError PyFloat) (written : Seconds) : Prop :=
  match opened with
  | none => True
  | some opened => ∃ openedAt seconds, opened = .ok openedAt ∧ ceiling = .ok seconds ∧ (status = .active → Expires openedAt seconds written)

/-- A record whose status can be looked up and whose times, if it has a status, are as they should be. -/
def Plausible (fields : List (String × Json)) (written : Seconds) : Prop :=
  match statusOf (field fields "status") with
  | .error _ => False
  | .ok none => True
  | .ok (some status) => Timed status (number (field fields "opened_at")) (ceilingOf (field fields "wall_clock_ceiling_s")) written

def HoldsWhen (loads : Loads) (content : FileContent) (written : Seconds) : Prop :=
  Readable loads content ∧
    ∀ data text fields, content = .bytes data → String.fromUTF8? data = some text → loads text = .ok (.dict fields) →
      isRecord fields = true → isResolved fields = false → Plausible fields written

variable {str} {loads : Loads} {written : Seconds} {fields : List (String × Json)}

theorem quiet_none : Quiet none := nofun

theorem quiet_finiteNonpositive (value : Option Json) : Quiet (finiteNonpositive value) := by
  intro level mem
  obtain ⟨held, below⟩ := Option.filter_eq_some_iff.mp mem
  rw [finiteFloat] at held
  split at held
  next reading _ =>
    split at held
    next finite =>
      obtain rfl := Option.some.inj held
      cases reading with
      | finite db =>
          refine ⟨db, rfl, ?_⟩
          rcases Bool.or_eq_true_iff.mp below with less | same
          · exact (of_decide_eq_true less).le
          · have level : PyFloat.finite db = .finite 0 := by simpa using same
            exact (PyFloat.finite.inj level).le
      | infinity negative => exact absurd finite Bool.false_ne_true
      | nan => exact absurd finite Bool.false_ne_true
    next => exact absurd held nofun
  next => exact absurd held nofun

theorem ceilingOf_finite {value : Option Json} {ceiling : PyFloat} (taken : ceilingOf value = .ok ceiling) :
    ∃ seconds : ℚ, ceiling = .finite seconds ∧ 0 < seconds := by
  have default : (0 : ℚ) < defaultWallClockCeilingS := by norm_num [defaultWallClockCeilingS]
  rw [ceilingOf] at taken
  split at taken
  · exact ⟨_, (Except.ok.inj taken).symm, default⟩
  · exact absurd taken nofun
  next ceiling' _ =>
    obtain rfl := Except.ok.inj taken
    split
    next lasts =>
      cases ceiling' with
      | finite seconds =>
          simp only [PyFloat.isFinite, PyFloat.le, PyFloat.lt, Bool.true_and, Bool.not_eq_true', Bool.or_eq_false_iff,
            decide_eq_false_iff_not, not_lt] at lasts
          refine ⟨seconds, rfl, lt_of_le_of_ne lasts.1 fun same => ?_⟩
          simp [← same] at lasts
      | infinity negative => exact absurd lasts (by simp [PyFloat.isFinite])
      | nan => exact absurd lasts (by simp [PyFloat.isFinite])
    next => exact ⟨_, rfl, default⟩

theorem expires_iff (openedAt : PyFloat) (seconds : ℚ) (written : Seconds) :
    (∀ now, written + maxWallClockCeilingS < now → (PyFloat.finite seconds).lt (.fromFinite now openedAt) = true) ↔
      Expires openedAt (.finite seconds) written := by
  cases openedAt with
  | finite opened =>
      simp only [PyFloat.fromFinite, PyFloat.lt, decide_eq_true_eq, Expires]
      constructor
      next =>
        intro ends
        refine le_of_forall_gt fun now late => ?_
        exact lt_sub_iff_add_lt'.mp (ends now late)
      next => exact fun bound now late => lt_sub_iff_add_lt'.mpr (bound.trans_lt late)
  | infinity negative =>
      simp only [PyFloat.fromFinite, PyFloat.lt, Bool.not_not, Expires]
      exact ⟨fun ends => ends (written + maxWallClockCeilingS + 1) (lt_add_one _), fun low _ _ => low⟩
  | nan =>
      simp only [PyFloat.fromFinite, PyFloat.lt, Expires, Bool.false_eq_true, imp_false, iff_false, not_forall, not_not]
      exact ⟨written + maxWallClockCeilingS + 1, lt_add_one _⟩

-- The state of a record that names a status and a moment.
def record (str : Json → String) (fields : List (String × Json)) (status : Status) (openedAt ceiling : PyFloat) : State where
  status := status
  reason :=
    match field fields "reason" with
    | none | some .null => none
    | some reason => some (str reason)
  openedAt := openedAt
  wallClockCeilingS := ceiling
  measurementVolumeDb := finiteNonpositive (field fields "measurement_volume_db")
  originalMainVolumeDb := finiteNonpositive (field fields "original_main_volume_db")

/-- What a hydrated mapping must be for the file to be safe. -/
def Closed (fields : List (String × Json)) (written : Seconds) (loaded : Option State) : Prop :=
  (loaded = none → isRecord fields = true ∧ isResolved fields = true) ∧
    ∀ state ∈ loaded, Quiet state.measurementVolumeDb ∧ Quiet state.originalMainVolumeDb ∧
      (state.status = .active → ∀ now, written + maxWallClockCeilingS < now → state.staleActive now = true)

theorem malformed_closed (reason : String) : Closed fields written (some (malformed reason)) := by
  refine ⟨nofun, fun state mem => ?_⟩
  obtain rfl := Option.some.inj mem
  exact ⟨quiet_none, quiet_none, nofun⟩

theorem record_closed_iff (status : Status) (openedAt : PyFloat) {ceiling : PyFloat}
    (lasts : ∃ seconds : ℚ, ceiling = .finite seconds ∧ 0 < seconds) :
    Closed fields written (some (record str fields status openedAt ceiling)) ↔ (status = .active → Expires openedAt ceiling written) := by
  obtain ⟨seconds, rfl, -⟩ := lasts
  rw [← expires_iff]
  constructor
  next =>
    intro closed active now late
    have stale := (closed.2 _ rfl).2.2 active now late
    rw [State.staleActive, Bool.and_eq_true] at stale
    exact stale.2
  next =>
    intro ends
    refine ⟨nofun, fun state mem => ?_⟩
    obtain rfl := Option.some.inj mem
    refine ⟨quiet_finiteNonpositive _, quiet_finiteNonpositive _, fun active now late => ?_⟩
    rw [State.staleActive, Bool.and_eq_true]
    exact ⟨decide_eq_true active, ends active now late⟩

theorem timed_iff (str : Json → String) (fields : List (String × Json)) (status : Status) (written : Seconds) :
    (∃ loaded, (match number (field fields "opened_at") with
      | none => return some (malformed "session_volume_state_malformed")
      | some openedAt => do
          let ceiling ← ceilingOf (field fields "wall_clock_ceiling_s")
          let openedAt ← openedAt
          return some (record str fields status openedAt ceiling) : Except PyError (Option State)) = .ok loaded ∧
        Closed fields written loaded) ↔
      Timed status (number (field fields "opened_at")) (ceilingOf (field fields "wall_clock_ceiling_s")) written := by
  cases number (field fields "opened_at") with
  | none => exact ⟨fun _ => trivial, fun _ => ⟨_, rfl, malformed_closed _⟩⟩
  | some opened =>
      cases taken : ceilingOf (field fields "wall_clock_ceiling_s") with
      | error error =>
          exact ⟨fun ⟨_, loads, _⟩ => absurd loads nofun, fun ⟨_, _, _, taken, _⟩ => absurd taken nofun⟩
      | ok ceiling =>
          cases opened with
          | error error =>
              exact ⟨fun ⟨_, loads, _⟩ => absurd loads nofun, fun ⟨_, _, floats, _⟩ => absurd floats nofun⟩
          | ok openedAt =>
              have closed : Closed fields written (some (record str fields status openedAt ceiling)) ↔ _ :=
                record_closed_iff status openedAt (ceilingOf_finite taken)
              constructor
              · rintro ⟨loaded, loads, holds⟩
                obtain rfl := Except.ok.inj loads
                exact ⟨openedAt, ceiling, rfl, rfl, closed.mp holds⟩
              · rintro ⟨openedAt', ceiling', floats, seconds, ends⟩
                obtain rfl := Except.ok.inj floats
                obtain rfl := Except.ok.inj seconds
                exact ⟨_, rfl, closed.mpr ends⟩

theorem hydrate_closed_iff (str : Json → String) (fields : List (String × Json)) (written : Seconds) :
    (∃ loaded, hydrate str fields = .ok loaded ∧ Closed fields written loaded) ↔
      (isRecord fields = true → isResolved fields = false → Plausible fields written) := by
  rw [hydrate]
  cases kind : isRecord fields with
  | false => exact ⟨fun _ => nofun, fun _ => ⟨_, rfl, malformed_closed _⟩⟩
  | true =>
      cases done : isResolved fields with
      | true => exact ⟨fun _ _ => nofun, fun _ => ⟨none, rfl, fun _ => ⟨kind, done⟩, fun state mem => absurd mem (Option.not_mem_none state)⟩⟩
      | false =>
          simp only [Bool.not_true, Bool.false_eq_true, if_false, forall_const]
          rw [Plausible]
          cases statusOf (field fields "status") with
          | error error => exact ⟨fun ⟨_, loads, _⟩ => absurd loads nofun, nofun⟩
          | ok status =>
              cases status with
              | none => exact ⟨fun _ => trivial, fun _ => ⟨_, rfl, malformed_closed _⟩⟩
              | some status => exact timed_iff str fields status written

theorem safe_of_closed {data : ByteArray} {text : String} {loaded : Option State} (decoded : String.fromUTF8? data = some text)
    (parsed : loads text = .ok (.dict fields)) :
    Safe loads (.bytes data) written loaded ↔ Closed fields written loaded := by
  constructor
  next =>
    intro safe
    refine ⟨fun none => ?_, fun state mem => ⟨safe.measurement state mem, safe.original state mem, safe.expires state mem⟩⟩
    rcases safe.resolved none with missing | ⟨data', text', fields', same, decoded', parsed', kind, done⟩
    · exact absurd missing nofun
    · obtain rfl := FileContent.bytes.inj same
      obtain rfl := Option.some.inj (decoded.symm.trans decoded')
      obtain rfl := Json.dict.inj (Except.ok.inj (parsed.symm.trans parsed'))
      exact ⟨kind, done⟩
  next =>
    rintro ⟨resolved, safe⟩
    exact ⟨fun none => .inr ⟨data, text, fields, rfl, decoded, parsed, resolved none⟩, fun state mem => (safe state mem).1,
      fun state mem => (safe state mem).2.1, fun state mem => (safe state mem).2.2⟩

theorem malformed_safe (loads : Loads) (content : FileContent) (written : Seconds) (reason : String) :
    Safe loads content written (some (malformed reason)) :=
  have closed : Closed [] written (some (malformed reason)) := malformed_closed reason
  ⟨nofun, fun state mem => (closed.2 state mem).1, fun state mem => (closed.2 state mem).2.1, fun state mem => (closed.2 state mem).2.2⟩

theorem loadState_error {content : FileContent} {error : PyError} (failed : readText content >>= loadText loads = .error error) :
    loadState str loads content =
      if error.isA .fileNotFound then .ok none
      else if error.isA .os || error.isA .jsonDecode then .ok (some (malformed "session_volume_state_unreadable"))
      else .error error := by
  rw [loadState, failed]

theorem loadState_dict {content : FileContent} (parsed : readText content >>= loadText loads = .ok (.dict fields)) :
    loadState str loads content = hydrate str fields := by
  rw [loadState, parsed]

theorem read_bytes {data : ByteArray} {text : String} (decoded : String.fromUTF8? data = some text) :
    readText (.bytes data) >>= loadText loads = loadText loads text := by
  rw [readText, decoded]
  rfl

theorem not_closed_of_error {content : FileContent} {error : PyError} (failed : loadState str loads content = .error error) :
    ¬FailsClosed str loads content written := by
  rintro ⟨loaded, loads', -⟩
  exact absurd (failed.symm.trans loads') nofun

theorem closed_of_malformed {content : FileContent} {reason : String} (answer : loadState str loads content = .ok (some (malformed reason))) :
    FailsClosed str loads content written :=
  ⟨_, answer, malformed_safe loads content written reason⟩

theorem holds_of_no_dict {data : ByteArray} {text : String} (decoded : String.fromUTF8? data = some text)
    (digits : loads text ≠ .error .digits) (depth : loads text ≠ .error .depth) (other : ∀ fields, loads text ≠ .ok (.dict fields)) :
    HoldsWhen loads (.bytes data) written := by
  constructor
  · intro data' same
    obtain rfl := FileContent.bytes.inj same
    exact ⟨text, decoded, digits, depth⟩
  · intro data' text' fields same decoded' parsed
    obtain rfl := FileContent.bytes.inj same
    obtain rfl := Option.some.inj (decoded.symm.trans decoded')
    exact absurd parsed (other fields)

theorem bytes_closed_iff {data : ByteArray} {text : String} (decoded : String.fromUTF8? data = some text) :
    FailsClosed str loads (.bytes data) written ↔ HoldsWhen loads (.bytes data) written := by
  have read : readText (.bytes data) >>= loadText loads = loadText loads text := read_bytes decoded
  rw [loadText] at read
  have unreadable (error : PyError) (failed : loadState str loads (.bytes data) = .error error)
      (bad : loads text = .error .digits ∨ loads text = .error .depth) :
      FailsClosed str loads (.bytes data) written ↔ HoldsWhen loads (.bytes data) written := by
    refine ⟨fun closed => absurd closed (not_closed_of_error failed), fun holds => ?_⟩
    obtain ⟨text', decoded', digits, depth⟩ := holds.1 data rfl
    obtain rfl := Option.some.inj (decoded.symm.trans decoded')
    exact (bad.elim digits depth).elim
  cases parsed : loads text with
  | error error =>
      rw [parsed] at read
      have failed := @loadState_error str loads _ _ read
      cases error with
      | decode =>
          refine iff_of_true (closed_of_malformed (failed.trans rfl)) (holds_of_no_dict decoded ?_ ?_ fun fields => ?_)
          · rw [parsed]; exact nofun
          · rw [parsed]; exact nofun
          · rw [parsed]; exact nofun
      | digits => exact unreadable .value (failed.trans rfl) (.inl parsed)
      | depth => exact unreadable .recursion (failed.trans rfl) (.inr parsed)
  | ok json =>
      rw [parsed] at read
      have other (answer : loadState str loads (.bytes data) = .ok (some (malformed "session_volume_state_malformed")))
          (plain : ∀ fields, json ≠ .dict fields) : FailsClosed str loads (.bytes data) written ↔ HoldsWhen loads (.bytes data) written := by
        refine iff_of_true (closed_of_malformed answer) (holds_of_no_dict decoded ?_ ?_ fun fields same => ?_)
        · rw [parsed]; exact nofun
        · rw [parsed]; exact nofun
        · exact plain fields (Except.ok.inj (parsed.symm.trans same))
      cases json with
      | dict fields =>
          have loaded : loadState str loads (.bytes data) = hydrate str fields := loadState_dict read
          rw [FailsClosed, loaded]
          simp only [safe_of_closed decoded parsed]
          rw [hydrate_closed_iff]
          constructor
          next =>
            intro timely
            refine ⟨fun data' same => ?_, fun data' text' fields' same decoded' parsed' => ?_⟩
            · obtain rfl := FileContent.bytes.inj same
              refine ⟨text, decoded, ?_, ?_⟩
              · rw [parsed]; exact nofun
              · rw [parsed]; exact nofun
            · obtain rfl := FileContent.bytes.inj same
              obtain rfl := Option.some.inj (decoded.symm.trans decoded')
              obtain rfl := Json.dict.inj (Except.ok.inj (parsed.symm.trans parsed'))
              exact timely
          next => exact fun holds => holds.2 data text fields rfl decoded parsed
      | null | bool value | int value | float value | str value | list items =>
          refine other ?_ fun fields => nofun
          rw [loadState, read]
          rfl

theorem holds_of_no_bytes {content : FileContent} (other : ∀ data, content ≠ .bytes data) : HoldsWhen loads content written :=
  ⟨fun data same => absurd same (other data), fun data _ _ same => absurd same (other data)⟩

theorem missing_closed : FailsClosed str loads .missing written := by
  have answer : loadState str loads .missing = .ok none := by
    rw [@loadState_error str loads .missing .fileNotFound rfl, if_pos (by decide)]
  refine ⟨none, answer, fun _ => .inl rfl, ?_, ?_, ?_⟩
  · exact fun state mem => absurd mem (Option.not_mem_none state)
  · exact fun state mem => absurd mem (Option.not_mem_none state)
  · exact fun state mem => absurd mem (Option.not_mem_none state)

theorem unreadable_closed : FailsClosed str loads .unreadable written := by
  refine @closed_of_malformed str loads written .unreadable "session_volume_state_unreadable" ?_
  rw [@loadState_error str loads .unreadable .os rfl, if_neg (by decide), if_pos (by decide)]

theorem undecodable_open {data : ByteArray} (undecodable : String.fromUTF8? data = none) :
    ¬FailsClosed str loads (.bytes data) written := by
  have failed : readText (.bytes data) >>= loadText loads = .error .unicodeDecode := by
    rw [readText, undecodable]
    rfl
  exact not_closed_of_error (loadState_error failed)

def timelessText : String :=
  "\x7b\"kind\": \"jts_crossover_session_volume\", \"opened_at\": NaN, \"schema_version\": 1, \"status\": \"active\"\x7d"

def timeless : List (String × Json) :=
  [("kind", .str stateKind), ("opened_at", .float .nan), ("schema_version", .int 1), ("status", .str "active")]

def loadsTimeless : Loads := fun text => if text = timelessText then .ok (.dict timeless) else .error .decode

/-- The state as the plan has it, if its times are numbers. -/
def State.plan (state : State) : Option SessionVolume.State :=
  match state.openedAt, state.wallClockCeilingS with
  | .finite openedAt, .finite ceiling =>
      some
        { status := state.status
          reason := state.reason
          openedAt := openedAt
          wallClockCeilingS := ceiling
          measurementVolumeDb := state.measurementVolumeDb.bind level
          originalMainVolumeDb := state.originalMainVolumeDb.bind level }
  | _, _ => none
where
  level : PyFloat → Option Level
    | .finite db => some db
    | .infinity _ | .nan => none

theorem hydrate_cases {state : State} (loaded : hydrate str fields = .ok (some state)) :
    (∃ reason, state = malformed reason) ∨
      ∃ status openedAt ceiling, ceilingOf (field fields "wall_clock_ceiling_s") = .ok ceiling ∧
        state = record str fields status openedAt ceiling := by
  rw [hydrate] at loaded
  split at loaded
  · exact .inl ⟨_, (Option.some.inj (Except.ok.inj loaded)).symm⟩
  split at loaded
  · exact absurd (Except.ok.inj loaded) nofun
  cases hashed : statusOf (field fields "status") with
  | error error =>
      rw [hashed] at loaded
      exact absurd loaded nofun
  | ok status =>
      rw [hashed] at loaded
      cases status with
      | none => exact .inl ⟨_, (Option.some.inj (Except.ok.inj loaded)).symm⟩
      | some status =>
          cases opened : number (field fields "opened_at") with
          | none =>
              simp only [bind, Except.bind, opened] at loaded
              exact .inl ⟨_, (Option.some.inj (Except.ok.inj loaded)).symm⟩
          | some opened' =>
              simp only [bind, Except.bind, opened] at loaded
              cases taken : ceilingOf (field fields "wall_clock_ceiling_s") with
              | error error =>
                  rw [taken] at loaded
                  exact absurd loaded nofun
              | ok ceiling =>
                  rw [taken] at loaded
                  cases opened' with
                  | error error => exact absurd loaded nofun
                  | ok openedAt => exact .inr ⟨status, openedAt, ceiling, rfl, (Option.some.inj (Except.ok.inj loaded)).symm⟩

theorem level_nonpositive {volume : Option PyFloat} (quiet : Quiet volume) :
    SessionVolume.finiteNonpositive (volume.bind State.plan.level) = volume.bind State.plan.level := by
  cases volume with
  | none => rfl
  | some level =>
      obtain ⟨db, rfl, below⟩ := quiet level rfl
      exact if_pos (decide_eq_true below)

theorem plan_of_quiet {state : State} {plan : SessionVolume.State} (planned : state.plan = some plan)
    (lasts : ∃ seconds : ℚ, state.wallClockCeilingS = .finite seconds ∧ 0 < seconds) (measurement : Quiet state.measurementVolumeDb)
    (original : Quiet state.originalMainVolumeDb) : SessionVolume.loadState (.state plan) = some plan := by
  obtain ⟨seconds, ceiling, positive⟩ := lasts
  rw [State.plan, ceiling] at planned
  split at planned
  next same =>
    obtain rfl := PyFloat.finite.inj same
    obtain rfl := Option.some.inj planned
    rw [SessionVolume.loadState, if_neg (not_le.mpr positive), level_nonpositive measurement, level_nonpositive original]
  next => exact absurd planned nofun

/-- What a file loads as is what the plan takes up from it. -/
theorem loaded_state_hydrates_the_plan {content : FileContent} {state : State} {plan : SessionVolume.State}
    (loaded : loadState str loads content = .ok (some state)) (planned : state.plan = some plan) :
    SessionVolume.loadState (.state plan) = some plan := by
  have spoiled (reason : String) (same : state = malformed reason) : SessionVolume.loadState (.state plan) = some plan := by
    rw [same] at planned
    refine plan_of_quiet planned ⟨_, rfl, ?_⟩ quiet_none quiet_none
    norm_num [defaultWallClockCeilingS]
  rw [loadState] at loaded
  split at loaded
  · split at loaded
    · exact absurd (Except.ok.inj loaded) nofun
    split at loaded
    · exact spoiled _ (Option.some.inj (Except.ok.inj loaded)).symm
    · exact absurd loaded nofun
  · rcases hydrate_cases loaded with ⟨reason, same⟩ | ⟨status, openedAt, ceiling, taken, same⟩
    · exact spoiled reason same
    · rw [same] at planned
      exact plan_of_quiet planned (ceilingOf_finite taken) (quiet_finiteNonpositive _) (quiet_finiteNonpositive _)
  · exact spoiled _ (Option.some.inj (Except.ok.inj loaded)).symm

end Jts.ActiveSpeaker.SessionVolumeFile
