import Jts.Shared.PythonJson
import Jts.Shared.PythonText
import Jts.Volume.Curve
import Mathlib.Data.Rat.Floor

set_option autoImplicit false

namespace Jts.Volume.Persistence

open Shared.PythonJson
open Shared.PythonText (replace)

/-- A date and time: the seconds that its clock shows, and how far its time zone is ahead when it is aware of one. -/
structure Moment where
  clock : ℚ
  offset : Option ℚ
deriving DecidableEq

def Moment.utc (clock : ℚ) : Moment := { clock := clock, offset := some 0 }

/-- What the files are read and written with. -/
structure Library where
  loads : Loads
  dumps : Json → String
  floatOfStr : String → Option PyFloat
  intOfStr : String → Option ℤ
  fromIsoformat : String → Option Moment
  -- `isoformat(timespec="seconds")`
  isoformat : Moment → String

variable (lib : Library)

def floatOf : Json → Except PyError PyFloat
  | .null | .list _ | .dict _ => .error .type
  | .bool value => .ok (.finite (if value then 1 else 0))
  | .int value => floatOfInt value
  | .float value => .ok value
  | .str text => match lib.floatOfStr text with
      | none => .error .value
      | some value => .ok value

def truncate (value : ℚ) : ℤ := if value < 0 then ⌈value⌉ else ⌊value⌋

def intOf : Json → Except PyError ℤ
  | .null | .list _ | .dict _ => .error .type
  | .bool value => .ok (if value then 1 else 0)
  | .int value => .ok value
  | .float (.finite value) => .ok (truncate value)
  | .float (.infinity _) => .error .overflow
  | .float .nan => .error .value
  | .str text => match lib.intOfStr text with
      | none => .error .value
      | some value => .ok value

def momentOf : Json → Except PyError Moment
  | .str text => match lib.fromIsoformat (replace text "Z" "+00:00") with
      | none => .error .value
      | some moment => .ok moment
  | _ => .error .attribute

structure VolumeRecord where
  mainVolumeDb : PyFloat
  updatedAt : Moment
  listeningLevel : Option ℤ
  lastUsedAt : Option Moment
  preMuteLevel : Option ℤ
  muteToken : Option String

def volumeFloorMinDb : ℚ := -60

def isPlausible (db : PyFloat) : Bool := (PyFloat.finite (volumeFloorMinDb - 1)).le db && db.le (.finite (volumeCeilingDb + 1))

def updatedAtOf (now : Moment) (value : Option Json) : Except PyError Moment :=
  match value with
  | none => .ok now
  | some stamp => if truthy stamp then momentOf lib stamp else .ok now

/-- The part of the load that stands under the first except clause. -/
def parse (now : Moment) (raw : String) : Except PyError (List (String × Json) × PyFloat × Moment) := do
  match ← loadText lib.loads raw with
  | .dict fields =>
      match field fields "main_volume_db" with
      | none => throw .key
      | some main =>
          let db ← floatOf lib main
          let updatedAt ← updatedAtOf lib now (field fields "updated_at")
          return (fields, db, updatedAt)
  | _ => throw .type

def levelOf (value : Option Json) : Except PyError (Option ℤ) :=
  match value with
  | none | some .null => .ok none
  | some raw =>
      match intOf lib raw with
      | .ok level => .ok (if 0 ≤ level ∧ level ≤ 100 then some level else none)
      | .error error => if error.isA .type || error.isA .value then .ok none else .error error

def lastUsedAtOf (value : Option Json) : Option Moment :=
  match value with
  | none | some .null => none
  | some raw => (momentOf lib raw).toOption

def muteTokenOf : Option Json → Option String
  | some (.str token) => if 0 < token.length ∧ token.length ≤ 128 then some token else none
  | _ => none

-- A mute latch that is not whole is none.
def latch (preMute : Option ℤ) (token : Option String) : Option ℤ × Option String :=
  if preMute.isNone ≠ token.isNone then (none, none) else (preMute, token)

def record (fields : List (String × Json)) (db : PyFloat) (updatedAt : Moment) : Except PyError (Option VolumeRecord) :=
  if !isPlausible db then .ok none
  else do
    let listeningLevel ← levelOf lib (field fields "listening_level")
    let preMuteLevel ← levelOf lib (field fields "pre_mute_level")
    let mute := latch preMuteLevel (muteTokenOf (field fields "mute_token"))
    return some
      { mainVolumeDb := db
        updatedAt := updatedAt
        listeningLevel := listeningLevel
        lastUsedAt := lastUsedAtOf lib (field fields "last_used_at")
        preMuteLevel := mute.1
        muteToken := mute.2 }

def load (now : Moment) (content : FileContent) : Except PyError (Option VolumeRecord) :=
  match readText content with
  | .error error => if error.isA .fileNotFound || error.isA .os then .ok none else .error error
  | .ok raw =>
      match parse lib now raw with
      | .error error =>
          if error.isA .jsonDecode || error.isA .key || error.isA .type || error.isA .value then .ok none else .error error
      | .ok (fields, db, updatedAt) => record lib fields db updatedAt

def firstBootDefaultPct : ℤ := 50

def regressAfterSec : ℚ := 1800

def regressSafeLowPct : ℤ := 20

def regressSafeHighPct : ℤ := 70

-- A moment that is aware of its zone is not compared with one that is not.
def Moment.since (now before : Moment) : Except PyError ℚ :=
  match now.offset, before.offset with
  | some ahead, some behind => .ok (now.clock - ahead - (before.clock - behind))
  | none, none => .ok (now.clock - before.clock)
  | _, _ => .error .type

def regressPercent (pct : Option ℤ) (age : Option ℚ) : ℤ × String :=
  match pct, age with
  | some pct, some age =>
      let seconds := truncate age
      if age < regressAfterSec then (pct, s!"restored from disk ({pct}%, age={seconds}s)")
      else if pct < regressSafeLowPct then
        (regressSafeLowPct,
          s!"regressed up: stale ({seconds}s) and was {pct}% (< {regressSafeLowPct}%), clamped to {regressSafeLowPct}%")
      else if regressSafeHighPct < pct then
        (regressSafeHighPct,
          s!"regressed down: stale ({seconds}s) and was {pct}% (> {regressSafeHighPct}%), clamped to {regressSafeHighPct}%")
      else
        (pct, s!"restored from disk ({pct}%, stale {seconds}s but within safe band [{regressSafeLowPct}, {regressSafeHighPct}])")
  | _, _ => (firstBootDefaultPct, s!"first-boot default ({firstBootDefaultPct}%)")

def regressListeningLevelIfStale (loaded : Option VolumeRecord) (now : Moment) : Except PyError (ℤ × String) :=
  match loaded with
  | none => .ok (regressPercent none none)
  | some record => do
      let age ← now.since (record.lastUsedAt.getD record.updatedAt)
      return regressPercent record.listeningLevel (some age)

/-- A record whose values are in their ranges and whose mute is whole or none. -/
structure Valid (record : VolumeRecord) : Prop where
  main : isPlausible record.mainVolumeDb = true
  listening : ∀ level ∈ record.listeningLevel, 0 ≤ level ∧ level ≤ 100
  preMute : ∀ level ∈ record.preMuteLevel, 0 ≤ level ∧ level ≤ 100
  mute : record.preMuteLevel.isSome = record.muteToken.isSome
  token : ∀ token ∈ record.muteToken, 0 < token.length ∧ token.length ≤ 128

/-- The file loads as a valid record or none, from which a level follows whenever it is asked for. -/
def SoftLoad (now : ℚ) (content : FileContent) : Prop :=
  ∃ loaded, load lib (.utc now) content = .ok loaded ∧ (∀ record ∈ loaded, Valid record) ∧
    ∀ later, ∃ answer, regressListeningLevelIfStale loaded (.utc later) = .ok answer ∧ 0 ≤ answer.1 ∧ answer.1 ≤ 100

def Readable (content : FileContent) : Prop :=
  ∀ data, content = .bytes data → ∃ text, String.fromUTF8? data = some text ∧ lib.loads text ≠ .error .depth

def bounded : Option Json → Bool
  | some (.float (.infinity _)) => false
  | _ => true

def small : Json → Bool
  | .int value => value.natAbs < floatLimit
  | _ => true

-- A text, or what is taken as no date.
def dated : Option Json → Bool
  | none | some (.str _) => true
  | some value => !truthy value

/-- The casts of a record stay within the floats, and the time it was last used is aware of its zone. -/
def Steady (now : ℚ) (fields : List (String × Json)) : Prop :=
  ∀ main ∈ field fields "main_volume_db", small main = true ∧
    ∀ db, floatOf lib main = .ok db → dated (field fields "updated_at") = true ∧
      ∀ updatedAt, updatedAtOf lib (.utc now) (field fields "updated_at") = .ok updatedAt → isPlausible db = true →
        (bounded (field fields "listening_level") = true ∧ bounded (field fields "pre_mute_level") = true) ∧
          ((lastUsedAtOf lib (field fields "last_used_at")).getD updatedAt).offset.isSome

def LoadsWhen (now : ℚ) (content : FileContent) : Prop :=
  Readable lib content ∧
    ∀ data text fields, content = .bytes data → String.fromUTF8? data = some text → lib.loads text = .ok (.dict fields) →
      Steady lib now fields

variable {lib} {fields : List (String × Json)}

theorem floatOf_error {value : Json} {error : PyError} (failed : floatOf lib value = .error error) :
    (error = .type ∨ error = .value) ∧ small value = true ∨ error = .overflow ∧ small value = false := by
  cases value with
  | null | list items | dict fields => exact .inl ⟨.inl (Except.error.inj failed).symm, rfl⟩
  | bool value | float value => exact absurd failed nofun
  | int value =>
      rw [floatOf, floatOfInt] at failed
      split at failed
      · exact absurd failed nofun
      next large => exact .inr ⟨(Except.error.inj failed).symm, by rw [small, decide_eq_false large]⟩
  | str text =>
      rw [floatOf] at failed
      split at failed
      · exact .inl ⟨.inr (Except.error.inj failed).symm, rfl⟩
      · exact absurd failed nofun

theorem small_of_floatOf {value : Json} {db : PyFloat} (cast : floatOf lib value = .ok db) : small value = true := by
  cases value with
  | int value =>
      rw [floatOf, floatOfInt] at cast
      split at cast
      next within => rw [small, decide_eq_true within]
      next => exact absurd cast nofun
  | null | bool value | float value | str text | list items | dict fields => rfl

theorem updatedAtOf_error {now : Moment} {value : Option Json} {error : PyError} (failed : updatedAtOf lib now value = .error error) :
    error = .value ∧ dated value = true ∨ error = .attribute ∧ dated value = false := by
  rw [updatedAtOf.eq_def] at failed
  split at failed
  · exact absurd failed nofun
  split at failed
  next stamp filled =>
    cases stamp with
    | str text =>
        rw [momentOf] at failed
        split at failed
        · exact .inl ⟨(Except.error.inj failed).symm, rfl⟩
        · exact absurd failed nofun
    | null | bool value | int value | float value | list items | dict fields =>
        exact .inr ⟨(Except.error.inj failed).symm, (congrArg (! ·) filled).trans rfl⟩
  · exact absurd failed nofun

theorem dated_of_updatedAtOf {now updatedAt : Moment} {value : Option Json} (taken : updatedAtOf lib now value = .ok updatedAt) :
    dated value = true := by
  rw [updatedAtOf.eq_def] at taken
  split at taken
  · rfl
  split at taken
  next stamp filled =>
    cases stamp with
    | str text => rfl
    | null | bool value | int value | float value | list items | dict fields => exact absurd taken nofun
  next stamp blank =>
    cases stamp with
    | str text => rfl
    | null | bool value | int value | float value | list items | dict fields => simpa [dated] using blank

-- The infinities are the only numbers that no integer is made of.
theorem intOf_error {value : Json} {error : PyError} (failed : intOf lib value = .error error) :
    error = .type ∨ error = .value ∨ error = .overflow ∧ bounded (some value) = false := by
  cases value with
  | null | list items | dict fields => exact .inl (Except.error.inj failed).symm
  | bool value | int value => exact absurd failed nofun
  | float value =>
      cases value with
      | finite value => exact absurd failed nofun
      | infinity negative => exact .inr (.inr ⟨(Except.error.inj failed).symm, rfl⟩)
      | nan => exact .inr (.inl (Except.error.inj failed).symm)
  | str text =>
      rw [intOf] at failed
      split at failed
      · exact .inr (.inl (Except.error.inj failed).symm)
      · exact absurd failed nofun

theorem levelOf_ok {value : Option Json} (stays : bounded value = true) :
    ∃ level, levelOf lib value = .ok level ∧ ∀ percent ∈ level, 0 ≤ percent ∧ percent ≤ 100 := by
  have absent : ∀ percent ∈ (none : Option ℤ), 0 ≤ percent ∧ percent ≤ 100 := fun percent mem => absurd mem (Option.not_mem_none percent)
  rw [levelOf.eq_def]
  split
  · exact ⟨none, rfl, absent⟩
  · exact ⟨none, rfl, absent⟩
  next raw _ =>
    split
    next level _ =>
      refine ⟨_, rfl, fun percent mem => ?_⟩
      split at mem
      next within => exact Option.some.inj mem ▸ within
      next => exact absurd mem (Option.not_mem_none percent)
    next error failed =>
      rcases intOf_error failed with rfl | rfl | ⟨-, far⟩
      · exact ⟨none, rfl, absent⟩
      · exact ⟨none, rfl, absent⟩
      · exact absurd (stays.symm.trans far) nofun

theorem levelOf_infinite {value : Option Json} (far : bounded value = false) : levelOf lib value = .error .overflow := by
  rw [bounded.eq_def] at far
  split at far
  · rfl
  · exact absurd far nofun

theorem latch_whole (preMute : Option ℤ) (token : Option String) :
    (latch preMute token).1.isSome = (latch preMute token).2.isSome := by
  rw [latch]
  split
  · rfl
  next whole =>
    cases preMute with
    | none =>
        cases token with
        | none => rfl
        | some token => simp at whole
    | some level =>
        cases token with
        | none => simp at whole
        | some token => rfl

theorem mem_latch {preMute : Option ℤ} {token : Option String} {level : ℤ} (mem : level ∈ (latch preMute token).1) : level ∈ preMute := by
  rw [latch] at mem
  split at mem
  · exact absurd mem (Option.not_mem_none level)
  · exact mem

theorem regressPercent_range {pct : Option ℤ} (range : ∀ level ∈ pct, 0 ≤ level ∧ level ≤ 100) (age : Option ℚ) :
    0 ≤ (regressPercent pct age).1 ∧ (regressPercent pct age).1 ≤ 100 := by
  rw [regressPercent.eq_def]
  split
  next level age =>
    obtain ⟨low, high⟩ := range level rfl
    have safeLow : 0 ≤ regressSafeLowPct ∧ regressSafeLowPct ≤ 100 := by decide
    have safeHigh : 0 ≤ regressSafeHighPct ∧ regressSafeHighPct ≤ 100 := by decide
    dsimp only
    split
    · exact ⟨low, high⟩
    split
    · exact safeLow
    split
    · exact safeHigh
    · exact ⟨low, high⟩
  next => exact ⟨by decide, by decide⟩

theorem token_of_latch {preMute : Option ℤ} {value : Option Json} {token : String} (mem : token ∈ (latch preMute (muteTokenOf value)).2) :
    0 < token.length ∧ token.length ≤ 128 := by
  rw [latch] at mem
  split at mem
  · exact absurd mem (Option.not_mem_none token)
  · rw [muteTokenOf.eq_def] at mem
    dsimp only at mem
    split at mem
    · split at mem
      next short => exact Option.some.inj mem ▸ short
      next => exact absurd mem (Option.not_mem_none token)
    · exact absurd mem (Option.not_mem_none token)

/-- What is loaded is safe to be used. -/
def Usable (loaded : Option VolumeRecord) : Prop :=
  (∀ record ∈ loaded, Valid record) ∧
    ∀ later, ∃ answer, regressListeningLevelIfStale loaded (.utc later) = .ok answer ∧ 0 ≤ answer.1 ∧ answer.1 ≤ 100

theorem usable_none : Usable none := by
  refine ⟨fun record mem => absurd mem (Option.not_mem_none record), fun later => ⟨_, rfl, ?_⟩⟩
  exact ⟨by decide, by decide⟩

theorem usable_some_iff {record : VolumeRecord} (valid : Valid record) :
    Usable (some record) ↔ (record.lastUsedAt.getD record.updatedAt).offset.isSome := by
  constructor
  next =>
    rintro ⟨-, answers⟩
    obtain ⟨answer, given, -⟩ := answers 0
    cases zone : (record.lastUsedAt.getD record.updatedAt).offset with
    | some ahead => rfl
    | none =>
        rw [regressListeningLevelIfStale, Moment.since, zone] at given
        exact absurd given nofun
  next =>
    intro aware
    refine ⟨fun other mem => Option.some.inj mem ▸ valid, fun later => ?_⟩
    obtain ⟨ahead, zone⟩ := Option.isSome_iff_exists.mp aware
    rw [regressListeningLevelIfStale, Moment.since, zone]
    exact ⟨_, rfl, regressPercent_range valid.listening _⟩

theorem record_usable_iff {db : PyFloat} {updatedAt : Moment} :
    (∃ loaded, record lib fields db updatedAt = .ok loaded ∧ Usable loaded) ↔
      (isPlausible db = true → (bounded (field fields "listening_level") = true ∧ bounded (field fields "pre_mute_level") = true) ∧
        ((lastUsedAtOf lib (field fields "last_used_at")).getD updatedAt).offset.isSome) := by
  rw [record]
  cases loud : isPlausible db with
  | false => exact ⟨fun _ => nofun, fun _ => ⟨none, rfl, usable_none⟩⟩
  | true =>
      simp only [Bool.not_true, Bool.false_eq_true, if_false, forall_const]
      cases first : bounded (field fields "listening_level") with
      | false =>
          rw [levelOf_infinite first]
          exact ⟨fun ⟨_, loads, _⟩ => absurd loads nofun, fun ⟨⟨far, _⟩, _⟩ => absurd far nofun⟩
      | true =>
          obtain ⟨listening, taken, listeningRange⟩ := @levelOf_ok lib _ first
          rw [taken]
          cases second : bounded (field fields "pre_mute_level") with
          | false =>
              rw [levelOf_infinite second]
              exact ⟨fun ⟨_, loads, _⟩ => absurd loads nofun, fun ⟨⟨_, far⟩, _⟩ => absurd far nofun⟩
          | true =>
              obtain ⟨preMute, muted, preMuteRange⟩ := @levelOf_ok lib _ second
              rw [muted]
              have valid : Valid
                  { mainVolumeDb := db
                    updatedAt := updatedAt
                    listeningLevel := listening
                    lastUsedAt := lastUsedAtOf lib (field fields "last_used_at")
                    preMuteLevel := (latch preMute (muteTokenOf (field fields "mute_token"))).1
                    muteToken := (latch preMute (muteTokenOf (field fields "mute_token"))).2 } :=
                ⟨loud, listeningRange, fun level mem => preMuteRange level (mem_latch mem), latch_whole _ _,
                  fun token mem => token_of_latch mem⟩
              have usable := usable_some_iff valid
              constructor
              · rintro ⟨loaded, loads, safe⟩
                obtain rfl := Except.ok.inj loads
                exact ⟨⟨rfl, rfl⟩, usable.mp safe⟩
              · exact fun aware => ⟨_, rfl, usable.mpr aware.2⟩

theorem load_of_parse_error {now : Moment} {data : ByteArray} {text : String} {error : PyError}
    (decoded : String.fromUTF8? data = some text) (failed : parse lib now text = .error error) :
    load lib now (.bytes data) =
      if error.isA .jsonDecode || error.isA .key || error.isA .type || error.isA .value then .ok none else .error error := by
  rw [load, readText, decoded]
  dsimp only
  rw [failed]

theorem load_of_parse {now : Moment} {data : ByteArray} {text : String} {db : PyFloat} {updatedAt : Moment}
    (decoded : String.fromUTF8? data = some text) (parsed : parse lib now text = .ok (fields, db, updatedAt)) :
    load lib now (.bytes data) = record lib fields db updatedAt := by
  rw [load, readText, decoded]
  dsimp only
  rw [parsed]

theorem softLoad_iff (now : ℚ) (content : FileContent) :
    SoftLoad lib now content ↔ ∃ loaded, load lib (.utc now) content = .ok loaded ∧ Usable loaded := Iff.rfl

theorem soft_of_none {now : ℚ} {content : FileContent} (loaded : load lib (.utc now) content = .ok none) : SoftLoad lib now content :=
  ⟨none, loaded, usable_none⟩

theorem not_soft_of_error {now : ℚ} {content : FileContent} {error : PyError} (failed : load lib (.utc now) content = .error error) :
    ¬SoftLoad lib now content := by
  rintro ⟨loaded, loads, -⟩
  exact absurd (failed.symm.trans loads) nofun

theorem parse_dict {now : Moment} {text : String} (parsed : lib.loads text = .ok (.dict fields)) :
    parse lib now text =
      match field fields "main_volume_db" with
      | none => .error .key
      | some main => do
          let db ← floatOf lib main
          let updatedAt ← updatedAtOf lib now (field fields "updated_at")
          return (fields, db, updatedAt) := by
  rw [parse, loadText, parsed]
  rfl

theorem dict_soft_iff {now : ℚ} {data : ByteArray} {text : String} (decoded : String.fromUTF8? data = some text)
    (parsed : lib.loads text = .ok (.dict fields)) : SoftLoad lib now (.bytes data) ↔ Steady lib now fields := by
  have read := @parse_dict lib fields (.utc now) text parsed
  rw [Steady]
  cases held : field fields "main_volume_db" with
  | none =>
      rw [held] at read
      have caught := load_of_parse_error decoded read
      rw [if_pos (by decide)] at caught
      exact iff_of_true (soft_of_none caught) fun main mem => absurd mem (Option.not_mem_none main)
  | some main =>
      rw [held] at read
      dsimp only at read
      simp only [Option.mem_some_iff, forall_eq']
      cases cast : floatOf lib main with
      | error error =>
          rw [cast] at read
          have stopped := load_of_parse_error decoded read
          rcases floatOf_error cast with ⟨rfl | rfl, within⟩ | ⟨rfl, large⟩
          · rw [if_pos (by decide)] at stopped
            exact iff_of_true (soft_of_none stopped) ⟨within, nofun⟩
          · rw [if_pos (by decide)] at stopped
            exact iff_of_true (soft_of_none stopped) ⟨within, nofun⟩
          · rw [if_neg (by decide)] at stopped
            exact iff_of_false (not_soft_of_error stopped) fun steady => absurd (large.symm.trans steady.1) nofun
      | ok db =>
          rw [cast] at read
          cases stamp : updatedAtOf lib (.utc now) (field fields "updated_at") with
          | error error =>
              rw [stamp] at read
              have stopped := load_of_parse_error decoded read
              rcases updatedAtOf_error stamp with ⟨rfl, text⟩ | ⟨rfl, other⟩
              · rw [if_pos (by decide)] at stopped
                exact iff_of_true (soft_of_none stopped) ⟨small_of_floatOf cast, fun _ _ => ⟨text, nofun⟩⟩
              · rw [if_neg (by decide)] at stopped
                exact iff_of_false (not_soft_of_error stopped) fun steady => absurd (other.symm.trans (steady.2 db rfl).1) nofun
          | ok updatedAt =>
              rw [stamp] at read
              have loaded := load_of_parse decoded read
              rw [softLoad_iff, loaded, record_usable_iff]
              constructor
              · intro safe
                refine ⟨small_of_floatOf cast, fun db' same => ⟨dated_of_updatedAtOf stamp, fun updatedAt' stamped loud => ?_⟩⟩
                obtain rfl := Except.ok.inj same
                obtain rfl := Except.ok.inj stamped
                exact safe loud
              · exact fun steady loud => (steady.2 db rfl).2 updatedAt rfl loud

theorem parse_other {now : Moment} {text : String} {json : Json} (parsed : lib.loads text = .ok json)
    (other : ∀ fields, json ≠ .dict fields) : parse lib now text = .error .type := by
  rw [parse, loadText, parsed]
  cases json with
  | dict fields => exact absurd rfl (other fields)
  | null | bool value | int value | float value | str value | list items => rfl

theorem parse_error {now : Moment} {text : String} {error : LoadsError} (failed : lib.loads text = .error error) :
    parse lib now text = .error error.error := by
  rw [parse, loadText, failed]
  rfl

theorem loads_of_no_bytes {now : ℚ} {content : FileContent} (other : ∀ data, content ≠ .bytes data) : LoadsWhen lib now content :=
  ⟨fun data same => absurd same (other data), fun data _ _ same => absurd same (other data)⟩

theorem loadsWhen_bytes {now : ℚ} {data : ByteArray} {text : String} (decoded : String.fromUTF8? data = some text) :
    LoadsWhen lib now (.bytes data) ↔
      lib.loads text ≠ .error .depth ∧ ∀ fields, lib.loads text = .ok (.dict fields) → Steady lib now fields := by
  constructor
  next =>
    rintro ⟨readable, steady⟩
    obtain ⟨text', decoded', shallow⟩ := readable data rfl
    obtain rfl := Option.some.inj (decoded.symm.trans decoded')
    exact ⟨shallow, fun fields parsed => steady data text fields rfl decoded parsed⟩
  next =>
    rintro ⟨shallow, steady⟩
    constructor
    · intro data' same
      obtain rfl := FileContent.bytes.inj same
      exact ⟨text, decoded, shallow⟩
    · intro data' text' fields same decoded' parsed
      obtain rfl := FileContent.bytes.inj same
      obtain rfl := Option.some.inj (decoded.symm.trans decoded')
      exact steady fields parsed

theorem text_soft_iff {now : ℚ} {data : ByteArray} {text : String} (decoded : String.fromUTF8? data = some text) :
    SoftLoad lib now (.bytes data) ↔ LoadsWhen lib now (.bytes data) := by
  rw [loadsWhen_bytes decoded]
  cases parsed : lib.loads text with
  | error error =>
      have stopped := load_of_parse_error decoded (@parse_error lib (.utc now) text error parsed)
      cases error with
      | decode =>
          rw [if_pos (by decide)] at stopped
          exact iff_of_true (soft_of_none stopped) ⟨nofun, nofun⟩
      | digits =>
          rw [if_pos (by decide)] at stopped
          exact iff_of_true (soft_of_none stopped) ⟨nofun, nofun⟩
      | depth =>
          rw [if_neg (by decide)] at stopped
          exact iff_of_false (not_soft_of_error stopped) fun shallow => shallow.1 rfl
  | ok json =>
      have other (plain : ∀ fields, json ≠ .dict fields) :
          SoftLoad lib now (.bytes data) ↔ Except.ok json ≠ .error LoadsError.depth ∧
            ∀ fields, (Except.ok json : Except LoadsError Json) = .ok (.dict fields) → Steady lib now fields := by
        have stopped := load_of_parse_error decoded (@parse_other lib (.utc now) text json parsed plain)
        rw [if_pos (by decide)] at stopped
        exact iff_of_true (soft_of_none stopped) ⟨nofun, fun fields same => absurd (Except.ok.inj same) (plain fields)⟩
      cases json with
      | dict fields =>
          rw [dict_soft_iff decoded parsed]
          refine ⟨fun steady => ⟨nofun, fun fields' same => ?_⟩, fun holds => holds.2 fields rfl⟩
          obtain rfl := Json.dict.inj (Except.ok.inj same)
          exact steady
      | null | bool value | int value | float value | str value | list items => exact other fun fields => nofun

theorem load_missing (now : Moment) : load lib now .missing = .ok none := by
  rw [load, readText]
  exact if_pos (by decide)

theorem load_unreadable (now : Moment) : load lib now .unreadable = .ok none := by
  rw [load, readText]
  exact if_pos (by decide)

/-- A state file loads softly when its text can be read and its casts stay within what can be cast. -/
theorem soft_load_iff (now : ℚ) (content : FileContent) : SoftLoad lib now content ↔ LoadsWhen lib now content := by
  cases content with
  | missing => exact iff_of_true (soft_of_none (load_missing _)) (loads_of_no_bytes fun data same => FileContent.noConfusion same)
  | unreadable => exact iff_of_true (soft_of_none (load_unreadable _)) (loads_of_no_bytes fun data same => FileContent.noConfusion same)
  | bytes data =>
      cases decoded : String.fromUTF8? data with
      | none =>
          have failed : load lib (.utc now) (.bytes data) = .error .unicodeDecode := by
            rw [load, readText, decoded]
            exact if_neg (by decide)
          refine iff_of_false (not_soft_of_error failed) fun holds => ?_
          obtain ⟨text, decoded', -⟩ := holds.1 data rfl
          exact absurd (decoded.symm.trans decoded') nofun
      | some text => exact text_soft_iff decoded

end Jts.Volume.Persistence
