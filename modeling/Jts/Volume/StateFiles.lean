import Jts.Volume.ModeFile
import Jts.Volume.Persistence

set_option autoImplicit false

namespace Jts.Volume.Persistence

open Shared.PythonJson
open Shared.PythonText (replace)

/-- The values a process keeps between its writes; a token is never kept without the level that it unmutes to. -/
structure Memory where
  mainVolumeDb : Option PyFloat
  listeningLevel : Option ℤ
  lastUsedAt : Option Moment
  preMuteLevel : Option ℤ
  muteToken : Option String
  listening : ∀ level ∈ listeningLevel, 0 ≤ level ∧ level ≤ 100
  preMute : ∀ level ∈ preMuteLevel, 0 ≤ level ∧ level ≤ 100
  token : ∀ token ∈ muteToken, 0 < token.length ∧ token.length ≤ 128
  latched : muteToken.isSome → preMuteLevel.isSome

def Memory.initial : Memory where
  mainVolumeDb := none
  listeningLevel := none
  lastUsedAt := none
  preMuteLevel := none
  muteToken := none
  listening level mem := absurd mem (Option.not_mem_none level)
  preMute level mem := absurd mem (Option.not_mem_none level)
  token token mem := absurd mem (Option.not_mem_none token)
  latched := nofun

variable {lib : Library}

theorem levelOf_range {value : Option Json} {level : Option ℤ} (taken : levelOf lib value = .ok level) :
    ∀ percent ∈ level, 0 ≤ percent ∧ percent ≤ 100 := by
  cases far : bounded value with
  | false => exact absurd ((levelOf_infinite far).symm.trans taken) nofun
  | true =>
      obtain ⟨level', taken', range⟩ := @levelOf_ok lib value far
      obtain rfl := Except.ok.inj (taken'.symm.trans taken)
      exact range

theorem valid_of_record {fields : List (String × Json)} {db : PyFloat} {updatedAt : Moment} {kept : VolumeRecord}
    (loaded : record lib fields db updatedAt = .ok (some kept)) : Valid kept := by
  rw [record] at loaded
  split at loaded
  · cases loaded
  next loud =>
    cases listening : levelOf lib (field fields "listening_level") with
    | error error =>
        rw [listening] at loaded
        cases loaded
    | ok level =>
        rw [listening] at loaded
        cases muted : levelOf lib (field fields "pre_mute_level") with
        | error error =>
            rw [muted] at loaded
            cases loaded
        | ok preMute =>
            rw [muted] at loaded
            obtain rfl := Option.some.inj (Except.ok.inj loaded)
            constructor
            · simpa using loud
            · exact levelOf_range listening
            · exact fun level mem => levelOf_range muted level (mem_latch mem)
            · exact latch_whole _ _
            · exact fun token mem => token_of_latch mem

theorem valid_of_load {now : Moment} {content : FileContent} {kept : VolumeRecord} (loaded : load lib now content = .ok (some kept)) :
    Valid kept := by
  rw [load] at loaded
  split at loaded
  · split at loaded
    · cases loaded
    · cases loaded
  · split at loaded
    · split at loaded
      · cases loaded
      · cases loaded
    · exact valid_of_record loaded

def Memory.ofRecord (record : VolumeRecord) (valid : Valid record) : Memory where
  mainVolumeDb := some record.mainVolumeDb
  listeningLevel := record.listeningLevel
  lastUsedAt := record.lastUsedAt
  preMuteLevel := record.preMuteLevel
  muteToken := record.muteToken
  listening := valid.listening
  preMute := valid.preMute
  token := valid.token
  latched held := valid.mute.trans held

def clampLevel (level : ℤ) : ℤ := max 0 (min 100 level)

theorem clampLevel_range (level : ℤ) : 0 ≤ clampLevel level ∧ clampLevel level ≤ 100 := by
  rw [clampLevel]
  omega

def roundHalfEven (value : ℚ) : ℤ :=
  let below := ⌊value⌋
  let rest := value - below
  if rest < 1 / 2 then below
  else if 1 / 2 < rest then below + 1
  else if below % 2 = 0 then below
  else below + 1

-- `round(db, 2)`
def round2 : PyFloat → PyFloat
  | .finite db => .finite (roundHalfEven (db * 100) / 100)
  | .infinity negative => .infinity negative
  | .nan => .nan

variable (lib)

def stamp (moment : Moment) : String := replace (lib.isoformat moment) "+00:00" "Z"

def entry (key : String) : Option Json → List (String × Json)
  | none => []
  | some value => [(key, value)]

def payload (memory : Memory) (db : PyFloat) (now : Moment) : List (String × Json) :=
  [("version", .int 2), ("main_volume_db", .float (round2 db)), ("updated_at", .str (stamp lib now))] ++
    entry "listening_level" (memory.listeningLevel.map .int) ++
    entry "last_used_at" (memory.lastUsedAt.map fun moment => .str (stamp lib moment)) ++
    entry "pre_mute_level" (memory.preMuteLevel.map .int) ++
    entry "mute_token" (if memory.preMuteLevel.isSome then memory.muteToken.map .str else none)

-- Without a main volume nothing is written.
def writeFull (memory : Memory) (now : Moment) : Option ByteArray :=
  memory.mainVolumeDb.map fun db => (lib.dumps (.dict (payload lib memory db now))).toUTF8

/-- The values of the file are taken up before one of them is changed, but not within an update that took them up already. -/
def stateUpdate (nested : Bool) (now : Moment) (memory : Memory) (content : FileContent) : Except PyError Memory :=
  if nested then .ok memory
  else match loaded : load lib now content with
    | .error error => .error error
    | .ok none => .ok memory
    | .ok (some record) => .ok (.ofRecord record (valid_of_load loaded))

inductive Save
  | now (mainVolumeDb : PyFloat)
  | muteState (level : Option ℤ) (muteToken : Option String)
  | listeningLevel (percent : ℤ) (markUserChange : Bool)

def saveNow (memory : Memory) (mainVolumeDb : PyFloat) : Memory := { memory with mainVolumeDb := some mainVolumeDb }

def saveMuteState (memory : Memory) : Option ℤ → Option String → Except PyError Memory
  | none, _ =>
      .ok
        { memory with
          preMuteLevel := none
          muteToken := none
          preMute := fun level mem => absurd mem (Option.not_mem_none level)
          token := fun token mem => absurd mem (Option.not_mem_none token)
          latched := nofun }
  | some level, none =>
      .ok
        { memory with
          preMuteLevel := some (clampLevel level)
          muteToken := none
          preMute := fun _ mem => Option.some.inj mem ▸ clampLevel_range level
          token := fun token mem => absurd mem (Option.not_mem_none token)
          latched := nofun }
  | some level, some token =>
      if within : 0 < token.length ∧ token.length ≤ 128 then
        .ok
          { memory with
            preMuteLevel := some (clampLevel level)
            muteToken := some token
            preMute := fun _ mem => Option.some.inj mem ▸ clampLevel_range level
            token := fun _ mem => Option.some.inj mem ▸ within
            latched := fun _ => rfl }
      else .error .value

def saveListeningLevel (floor : Floor) (now : Moment) (memory : Memory) (percent : ℤ) (markUserChange : Bool) : Memory :=
  { memory with
    listeningLevel := some (clampLevel percent)
    listening := fun _ mem => Option.some.inj mem ▸ clampLevel_range percent
    lastUsedAt := if markUserChange then some now else memory.lastUsedAt
    mainVolumeDb := some (memory.mainVolumeDb.getD (.finite (percentToDb floor (clampLevel percent).toNat))) }

def change (floor : Floor) (now : Moment) (memory : Memory) : Save → Except PyError Memory
  | .now mainVolumeDb => .ok (saveNow memory mainVolumeDb)
  | .muteState level muteToken => saveMuteState memory level muteToken
  | .listeningLevel percent markUserChange => .ok (saveListeningLevel floor now memory percent markUserChange)

/-- A save: the memory it leaves, and what it leaves in the file, which a failed write leaves as it was. -/
def save (floor : Floor) (nested writable : Bool) (now written : Moment) (memory : Memory) (content : FileContent) (save : Save) :
    Except PyError (Memory × FileContent) := do
  let fresh ← stateUpdate lib nested now memory content
  let changed ← change floor now fresh save
  match writeFull lib changed written with
  | some data => return (changed, if writable then .bytes data else content)
  | none => return (changed, content)

def Moment.toSecond (moment : Moment) : Moment := { moment with clock := ⌊moment.clock⌋ }

def Memory.record (memory : Memory) (db : PyFloat) (written : Moment) : VolumeRecord where
  mainVolumeDb := round2 db
  updatedAt := written.toSecond
  listeningLevel := memory.listeningLevel
  lastUsedAt := memory.lastUsedAt.map Moment.toSecond
  preMuteLevel := memory.preMuteLevel
  muteToken := memory.muteToken

/-- A moment is written to its second, in a text that it is read from. -/
structure Spelled (moment : Moment) : Prop where
  text : stamp lib moment ≠ ""
  back : lib.fromIsoformat (replace (stamp lib moment) "Z" "+00:00") = some moment.toSecond

/-- The libraries read what they wrote of a payload. -/
structure ReadsBack (memory : Memory) (db : PyFloat) (written : Moment) : Prop where
  json : lib.loads (lib.dumps (.dict (payload lib memory db written))) = .ok (.dict (payload lib memory db written))
  updated : Spelled lib written
  used : ∀ moment ∈ memory.lastUsedAt, Spelled lib moment

variable {lib}

theorem field_updated (memory : Memory) (db : PyFloat) (written : Moment) :
    field (payload lib memory db written) "updated_at" = some (.str (stamp lib written)) := by
  simp [field, payload]

theorem field_main (memory : Memory) (db : PyFloat) (written : Moment) :
    field (payload lib memory db written) "main_volume_db" = some (.float (round2 db)) := by
  simp [field, payload]

theorem field_entry (before : List (String × Json)) (key asked : String) (value : Option Json) :
    field (before ++ entry key value) asked = (field before asked).or (if key = asked then value else none) := by
  rw [field, field, List.find?_append]
  cases value with
  | none => simp [entry]
  | some value =>
      by_cases same : key = asked
      · rw [if_pos same, entry, List.find?_singleton, if_pos (decide_eq_true same)]
        cases before.find? fun entry => entry.1 = asked <;> rfl
      · simp [entry, same]

theorem field_listening (memory : Memory) (db : PyFloat) (written : Moment) :
    field (payload lib memory db written) "listening_level" = memory.listeningLevel.map .int := by
  rw [payload, field_entry, field_entry, field_entry, field_entry]
  simp [field]

theorem field_used (memory : Memory) (db : PyFloat) (written : Moment) :
    field (payload lib memory db written) "last_used_at" = memory.lastUsedAt.map fun moment => .str (stamp lib moment) := by
  rw [payload, field_entry, field_entry, field_entry, field_entry]
  simp [field]

theorem field_preMute (memory : Memory) (db : PyFloat) (written : Moment) :
    field (payload lib memory db written) "pre_mute_level" = memory.preMuteLevel.map .int := by
  rw [payload, field_entry, field_entry, field_entry, field_entry]
  simp [field]

theorem field_token (memory : Memory) (db : PyFloat) (written : Moment) :
    field (payload lib memory db written) "mute_token" = memory.muteToken.map .str := by
  rw [payload, field_entry, field_entry, field_entry, field_entry]
  cases held : memory.muteToken with
  | none => simp [field]
  | some token =>
      have level := memory.latched (by rw [held]; rfl)
      simp [field, level]

theorem levelOf_saved {level : Option ℤ} (range : ∀ percent ∈ level, 0 ≤ percent ∧ percent ≤ 100) :
    levelOf lib (level.map .int) = .ok level := by
  cases level with
  | none => rfl
  | some percent =>
      have within := range percent rfl
      rw [Option.map_some, levelOf, intOf]
      · exact congrArg Except.ok (if_pos within)
      · intro spelling
        cases spelling

theorem lastUsedAtOf_saved {lastUsedAt : Option Moment} (spelled : ∀ moment ∈ lastUsedAt, Spelled lib moment) :
    lastUsedAtOf lib (lastUsedAt.map fun moment => .str (stamp lib moment)) = lastUsedAt.map Moment.toSecond := by
  cases lastUsedAt with
  | none => rfl
  | some moment =>
      have back := (spelled moment rfl).back
      rw [Option.map_some, lastUsedAtOf, momentOf, back]
      · rfl
      · intro spelling
        cases spelling

theorem muteTokenOf_saved {muteToken : Option String} (length : ∀ token ∈ muteToken, 0 < token.length ∧ token.length ≤ 128) :
    muteTokenOf (muteToken.map .str) = muteToken := by
  cases muteToken with
  | none => rfl
  | some token => exact if_pos (length token rfl)

theorem updatedAtOf_saved {now moment : Moment} (spelled : Spelled lib moment) :
    updatedAtOf lib now (some (.str (stamp lib moment))) = .ok moment.toSecond := by
  have stamped : truthy (.str (stamp lib moment)) = true := decide_eq_true spelled.text
  rw [updatedAtOf, if_pos stamped, momentOf, spelled.back]

-- The whole record comes back but for a latch that has no token.
theorem record_saved {memory : Memory} {db : PyFloat} {written : Moment}
    (used : ∀ moment ∈ memory.lastUsedAt, Spelled lib moment) :
    record lib (payload lib memory db written) (round2 db) written.toSecond =
      .ok (if isPlausible (round2 db) then
        some
          { memory.record db written with
            preMuteLevel := (latch memory.preMuteLevel memory.muteToken).1
            muteToken := (latch memory.preMuteLevel memory.muteToken).2 }
      else none) := by
  rw [record, field_listening, field_preMute, field_used, field_token, levelOf_saved memory.listening, levelOf_saved memory.preMute,
    lastUsedAtOf_saved used, muteTokenOf_saved memory.token]
  cases isPlausible (round2 db) <;> rfl

theorem load_saved {memory : Memory} {db : PyFloat} {written : Moment} (reads : ReadsBack lib memory db written) (later : Moment) :
    load lib later (.bytes (lib.dumps (.dict (payload lib memory db written))).toUTF8) =
      record lib (payload lib memory db written) (round2 db) written.toSecond := by
  refine load_of_parse (fromUTF8?_toUTF8 _) ?_
  rw [parse_dict reads.json, field_main, field_updated, updatedAtOf_saved reads.updated]
  rfl

theorem latch_eq_iff (preMute : Option ℤ) (token : Option String) :
    latch preMute token = (preMute, token) ↔ preMute.isSome = token.isSome := by
  cases preMute <;> cases token <;> simp [latch]

theorem loads_as_saved_iff {memory : Memory} {db : PyFloat} {written : Moment} (reads : ReadsBack lib memory db written) (later : Moment) :
    load lib later (.bytes (lib.dumps (.dict (payload lib memory db written))).toUTF8) = .ok (some (memory.record db written)) ↔
      isPlausible (round2 db) = true ∧ memory.preMuteLevel.isSome = memory.muteToken.isSome := by
  rw [load_saved reads, record_saved reads.used]
  cases isPlausible (round2 db) with
  | false => exact iff_of_false nofun nofun
  | true =>
      rw [← latch_eq_iff, if_pos rfl]
      constructor
      · intro same
        have kept := Option.some.inj (Except.ok.inj same)
        exact ⟨rfl, Prod.ext (congrArg VolumeRecord.preMuteLevel kept) (congrArg VolumeRecord.muteToken kept)⟩
      · rintro ⟨-, whole⟩
        rw [whole]
        rfl

/-- The values that a save is about are in the record. -/
def Save.Carried (record : VolumeRecord) : Save → Prop
  | .now mainVolumeDb => record.mainVolumeDb = round2 mainVolumeDb
  | .muteState level muteToken =>
      record.preMuteLevel = level.map clampLevel ∧ record.muteToken = if level.isSome then muteToken else none
  | .listeningLevel percent _ => record.listeningLevel = some (clampLevel percent)

/-- The main volume that is written is one that is loaded again, and a mute has the token that it is told apart by. -/
def Save.Kept (memory : Memory) : Save → Prop
  | .now mainVolumeDb => isPlausible (round2 mainVolumeDb) = true ∧ memory.preMuteLevel.isSome = memory.muteToken.isSome
  | .muteState level muteToken =>
      (∀ db ∈ memory.mainVolumeDb, isPlausible (round2 db) = true) ∧ (level.isSome → muteToken.isSome)
  | .listeningLevel _ _ =>
      (∀ db ∈ memory.mainVolumeDb, isPlausible (round2 db) = true) ∧ memory.preMuteLevel.isSome = memory.muteToken.isSome

/-- The load returns what the save left in memory, with the values that it was about. -/
def Restores (changed : Memory) (written : Moment) (save : Save) (loaded : Except PyError (Option VolumeRecord)) : Prop :=
  ∃ db ∈ changed.mainVolumeDb, loaded = .ok (some (changed.record db written)) ∧ save.Carried (changed.record db written)

theorem saveMuteState_ok {memory changed : Memory} {level : Option ℤ} {muteToken : Option String}
    (did : saveMuteState memory level muteToken = .ok changed) :
    changed.mainVolumeDb = memory.mainVolumeDb ∧ changed.preMuteLevel = level.map clampLevel ∧
      changed.muteToken = if level.isSome then muteToken else none := by
  cases level with
  | none =>
      obtain rfl := Except.ok.inj did
      exact ⟨rfl, rfl, rfl⟩
  | some level =>
      cases muteToken with
      | none =>
          obtain rfl := Except.ok.inj did
          exact ⟨rfl, rfl, rfl⟩
      | some token =>
          rw [saveMuteState] at did
          split at did
          · obtain rfl := Except.ok.inj did
            exact ⟨rfl, rfl, rfl⟩
          · exact absurd did nofun

theorem change_carries {floor : Floor} {now written : Moment} {memory changed : Memory} {save : Save} {db : PyFloat}
    (did : change floor now memory save = .ok changed) (main : changed.mainVolumeDb = some db) :
    save.Carried (changed.record db written) := by
  cases save with
  | now mainVolumeDb =>
      obtain rfl := Except.ok.inj did
      obtain rfl := Option.some.inj main
      rfl
  | listeningLevel percent markUserChange =>
      obtain rfl := Except.ok.inj did
      rfl
  | muteState level muteToken =>
      obtain ⟨-, muted, named⟩ := saveMuteState_ok did
      exact ⟨muted, named⟩

theorem plausible_finite {db : ℚ} : isPlausible (.finite db) = true ↔ -61 ≤ db ∧ db ≤ 1 := by
  have le_finite (left right : ℚ) : PyFloat.le (.finite left) (.finite right) = true ↔ left ≤ right := by
    rw [PyFloat.le, PyFloat.lt, le_iff_lt_or_eq]
    simp
  rw [isPlausible, Bool.and_eq_true, le_finite, le_finite]
  norm_num [volumeFloorMinDb, volumeCeilingDb]

theorem roundHalfEven_range {value : ℚ} {low high : ℤ} (above : (low : ℚ) ≤ value) (below : value ≤ high) :
    low ≤ roundHalfEven value ∧ roundHalfEven value ≤ high := by
  have floored : low ≤ ⌊value⌋ := Int.le_floor.mpr above
  have under : ⌊value⌋ ≤ high := Int.cast_le.mp ((Int.floor_le value).trans below)
  have raised (rest : ¬value - ⌊value⌋ < 1 / 2) : ⌊value⌋ + 1 ≤ high := by
    by_contra past
    have top : high = ⌊value⌋ := by omega
    rw [top] at below
    exact rest (by linarith)
  rw [roundHalfEven]
  split
  · exact ⟨floored, under⟩
  next rest =>
    have next := raised rest
    split
    · omega
    · split <;> omega

-- The level that stands in for a main volume is always loaded again.
theorem plausible_percentToDb (floor : Floor) (percent : ℕ) : isPlausible (round2 (.finite (percentToDb floor percent))) = true := by
  have low : ((-6000 : ℤ) : ℚ) ≤ percentToDb floor percent * 100 := by
    have above := (percentToDb_zero floor ▸ floor_le_percentToDb floor percent : floor.db ≤ _)
    have deepest := floor.low
    push_cast
    linarith
  have high : percentToDb floor percent * 100 ≤ ((0 : ℤ) : ℚ) := by
    have ceiling := percentToDb_le_ceiling floor percent
    rw [volumeCeilingDb] at ceiling
    push_cast
    linarith
  obtain ⟨above, below⟩ := roundHalfEven_range low high
  have above' : ((-6000 : ℤ) : ℚ) ≤ roundHalfEven (percentToDb floor percent * 100) := Int.cast_le.mpr above
  have below' : (roundHalfEven (percentToDb floor percent * 100) : ℚ) ≤ ((0 : ℤ) : ℚ) := Int.cast_le.mpr below
  push_cast at above' below'
  rw [round2, plausible_finite]
  constructor <;> linarith

theorem change_kept_iff {floor : Floor} {now : Moment} {memory changed : Memory} {save : Save} {db : PyFloat}
    (did : change floor now memory save = .ok changed) (main : changed.mainVolumeDb = some db) :
    isPlausible (round2 db) = true ∧ changed.preMuteLevel.isSome = changed.muteToken.isSome ↔ save.Kept memory := by
  cases save with
  | now mainVolumeDb =>
      obtain rfl := Except.ok.inj did
      obtain rfl := Option.some.inj main
      exact Iff.rfl
  | listeningLevel percent markUserChange =>
      obtain rfl := Except.ok.inj did
      have held : ∀ earlier ∈ memory.mainVolumeDb, earlier = db := by
        rintro earlier same
        rw [saveListeningLevel, Option.mem_def.mp same] at main
        exact Option.some.inj main
      refine and_congr ⟨fun loud earlier mem => held earlier mem ▸ loud, fun loud => ?_⟩ Iff.rfl
      cases before : memory.mainVolumeDb with
      | some earlier => exact held earlier before ▸ loud earlier before
      | none =>
          rw [saveListeningLevel, before] at main
          exact Option.some.inj main ▸ plausible_percentToDb floor _
  | muteState level muteToken =>
      obtain ⟨same, muted, named⟩ := saveMuteState_ok did
      rw [muted, named, Save.Kept, ← same, main]
      refine and_congr (by simp) ?_
      cases level <;> cases muteToken <;> simp

theorem save_of_change {floor : Floor} {nested : Bool} {now written : Moment} {memory fresh changed : Memory} {content : FileContent}
    {s : Save} {data : ByteArray} (taken : stateUpdate lib nested now memory content = .ok fresh)
    (done : change floor now fresh s = .ok changed) (wrote : writeFull lib changed written = some data) :
    save lib floor nested true now written memory content s = .ok (changed, .bytes data) := by
  rw [save, taken]
  simp only [bind, Except.bind, done, wrote]
  rfl

theorem save_ok {floor : Floor} {nested : Bool} {now written : Moment} {memory fresh changed : Memory} {content after : FileContent}
    {s : Save} {db : PyFloat} (taken : stateUpdate lib nested now memory content = .ok fresh)
    (did : save lib floor nested true now written memory content s = .ok (changed, after)) (main : changed.mainVolumeDb = some db) :
    change floor now fresh s = .ok changed ∧ after = .bytes (lib.dumps (.dict (payload lib changed db written))).toUTF8 := by
  rw [save, taken] at did
  cases done : change floor now fresh s with
  | error error =>
      simp only [bind, Except.bind, done] at did
      exact absurd did nofun
  | ok changed' =>
      simp only [bind, Except.bind, done] at did
      cases main' : changed'.mainVolumeDb with
      | none =>
          rw [writeFull, main'] at did
          obtain ⟨rfl, -⟩ := Prod.mk.inj (Except.ok.inj did)
          exact absurd (main'.symm.trans main) nofun
      | some db' =>
          rw [writeFull, main'] at did
          obtain ⟨rfl, rfl⟩ := Prod.mk.inj (Except.ok.inj did)
          obtain rfl := Option.some.inj (main'.symm.trans main)
          exact ⟨rfl, rfl⟩

theorem restores_iff {floor : Floor} {nested : Bool} {now written later : Moment} {memory fresh changed : Memory}
    {content after : FileContent} {s : Save} {db : PyFloat} (taken : stateUpdate lib nested now memory content = .ok fresh)
    (did : save lib floor nested true now written memory content s = .ok (changed, after)) (main : changed.mainVolumeDb = some db)
    (reads : ReadsBack lib changed db written) : Restores changed written s (load lib later after) ↔ s.Kept fresh := by
  obtain ⟨done, rfl⟩ := save_ok taken did main
  rw [← change_kept_iff done main, ← loads_as_saved_iff reads later]
  constructor
  · rintro ⟨db', main', loaded, -⟩
    obtain rfl := Option.some.inj (main.symm.trans main')
    exact loaded
  · exact fun loaded => ⟨db, main, loaded, change_carries done main⟩

/-- When the state files of the volume and of the mode fail softly, and what of the saves is loaded again. -/
theorem state_files_fail_soft_iff (lib : Library) :
    (∀ now content, SoftLoad lib now content ↔ LoadsWhen lib now content) ∧
      (∀ content, ModeFile.SoftMode lib.loads content ↔ ModeFile.ReadsWhen lib.loads content) ∧
      (∀ floor nested now written later memory fresh changed content after s db,
        stateUpdate lib nested now memory content = .ok fresh →
          save lib floor nested true now written memory content s = .ok (changed, after) → changed.mainVolumeDb = some db →
            ReadsBack lib changed db written → (Restores changed written s (load lib later after) ↔ s.Kept fresh)) ∧
      ∀ mode, lib.loads (lib.dumps (ModeFile.modePayload mode) ++ "\n") = .ok (ModeFile.modePayload mode) →
        (ModeFile.readManualSource lib.loads (.bytes (ModeFile.writeMode lib.dumps mode)) = .ok mode ↔ mode ≠ some .idle) :=
  ⟨soft_load_iff, ModeFile.soft_mode_iff, fun _ _ _ _ _ _ _ _ _ _ _ _ taken did main reads => restores_iff taken did main reads,
    fun _ reads => ModeFile.written_mode_iff reads⟩

def savedText : String :=
  "\x7b\n  \"version\": 2,\n  \"main_volume_db\": -12.38,\n  \"updated_at\": \"2023-11-14T22:13:20Z\"\n\x7d"

def savedFields : List (String × Json) :=
  [("version", .int 2), ("main_volume_db", .float (.finite (-1238 / 100))), ("updated_at", .str "2023-11-14T22:13:20Z")]

def naiveText : String := "\x7b\"main_volume_db\": -20.5, \"last_used_at\": \"2023-11-14T22:13:20\"\x7d"

def naiveFields : List (String × Json) :=
  [("main_volume_db", .float (.finite (-41 / 2))), ("last_used_at", .str "2023-11-14T22:13:20")]

def pinText : String := "\x7b\"mode\": \"manual\", \"selected_source\": \"airplay\"\x7d"

/-- The libraries on one saved volume, one saved mode and one record whose time has no zone. -/
def sampleLibrary : Library where
  loads text :=
    if text = savedText then .ok (.dict savedFields)
    else if text = naiveText then .ok (.dict naiveFields)
    else if text = pinText ++ "\n" then .ok (ModeFile.modePayload (some .airplay))
    else .error .decode
  dumps json :=
    match json with
    | .dict (("version", _) :: _) => savedText
    | _ => pinText
  floatOfStr _ := none
  intOfStr _ := none
  fromIsoformat text :=
    if text = "2023-11-14T22:13:20+00:00" then some (.utc 1700000000)
    else if text = "2023-11-14T22:13:20" then some ⟨1700000000, none⟩
    else none
  isoformat _ := "2023-11-14T22:13:20+00:00"

theorem sample_loads (text : String) :
    sampleLibrary.loads text =
      if text = savedText then .ok (.dict savedFields)
      else if text = naiveText then .ok (.dict naiveFields)
      else if text = pinText ++ "\n" then .ok (ModeFile.modePayload (some .airplay))
      else .error .decode := rfl

theorem sample_saved : sampleLibrary.dumps (.dict savedFields) = savedText := rfl

theorem sample_stamp (moment : Moment) : stamp sampleLibrary moment = "2023-11-14T22:13:20Z" := by
  show replace "2023-11-14T22:13:20+00:00" "+00:00" "Z" = "2023-11-14T22:13:20Z"
  decide +kernel

theorem sample_spelled : Spelled sampleLibrary (.utc (3400000001 / 2)) where
  text := by
    rw [sample_stamp]
    decide +kernel
  back := by
    rw [sample_stamp]
    decide +kernel

theorem sample_payload :
    payload sampleLibrary (saveNow .initial (.finite (-99 / 8))) (.finite (-99 / 8)) (.utc (3400000001 / 2)) = savedFields := by
  have rounded : round2 (.finite (-99 / 8)) = .finite (-1238 / 100) := by decide +kernel
  rw [payload, rounded, sample_stamp]
  rfl

theorem a_saved_volume_is_loaded_to_the_cent :
    Restores (saveNow .initial (.finite (-99 / 8))) (.utc (3400000001 / 2)) (.now (.finite (-99 / 8)))
      (load sampleLibrary (.utc 1700000060) (.bytes savedText.toUTF8)) := by
  have written : writeFull sampleLibrary (saveNow .initial (.finite (-99 / 8))) (.utc (3400000001 / 2)) = some savedText.toUTF8 :=
    congrArg (fun fields => some (sampleLibrary.dumps (.dict fields)).toUTF8) sample_payload
  have did := @save_of_change sampleLibrary ⟨-40, by norm_num, by norm_num⟩ false (.utc 0) (.utc (3400000001 / 2)) .initial .initial _
    .missing (.now (.finite (-99 / 8))) _ rfl rfl written
  refine ((state_files_fail_soft_iff sampleLibrary).2.2.1 _ _ _ _ _ _ .initial _ _ _ _ _ rfl did rfl ?_).mpr ⟨by decide +kernel, rfl⟩
  refine ⟨?_, sample_spelled, fun moment mem => absurd mem (Option.not_mem_none moment)⟩
  rw [sample_payload, sample_saved, sample_loads, if_pos rfl]

def naiveRecord : VolumeRecord where
  mainVolumeDb := .finite (-41 / 2)
  updatedAt := .utc 1700000060
  listeningLevel := none
  lastUsedAt := some ⟨1700000000, none⟩
  preMuteLevel := none
  muteToken := none

theorem sample_naive : load sampleLibrary (.utc 1700000060) (.bytes naiveText.toUTF8) = .ok (some naiveRecord) := by
  have other : naiveText ≠ savedText := by decide +kernel
  have parsed : sampleLibrary.loads naiveText = .ok (.dict naiveFields) := by
    rw [sample_loads, if_neg other, if_pos rfl]
  have loud : isPlausible (.finite (-41 / 2)) = true := by decide +kernel
  have used : lastUsedAtOf sampleLibrary (field naiveFields "last_used_at") = some ⟨1700000000, none⟩ := by decide +kernel
  rw [load_of_parse (fromUTF8?_toUTF8 _) ((parse_dict parsed).trans rfl), record, loud, used]
  rfl

-- A byte that is no UTF-8, and a time that has no zone.
theorem a_stray_byte_and_a_naive_time_raise :
    (¬∀ content, SoftLoad sampleLibrary 1700000060 content ∧ ModeFile.SoftMode sampleLibrary.loads content) ∧
      load sampleLibrary (.utc 1700000060) (.bytes ⟨#[0xFF]⟩) = .error .unicodeDecode ∧
      ModeFile.readManualSource sampleLibrary.loads (.bytes ⟨#[0xFF]⟩) = .error .unicodeDecode ∧
      ∃ loaded, load sampleLibrary (.utc 1700000060) (.bytes naiveText.toUTF8) = .ok (some loaded) ∧
        regressListeningLevelIfStale (some loaded) (.utc 1700000060) = .error .type := by
  have stray : load sampleLibrary (.utc 1700000060) (.bytes ⟨#[0xFF]⟩) = .error .unicodeDecode := by rfl
  exact ⟨fun soft => not_soft_of_error stray (soft _).1, stray, rfl, naiveRecord, sample_naive, rfl⟩

end Jts.Volume.Persistence
