import Jts.Env.EnvEdits

set_option autoImplicit false

namespace Jts.Env

open Jts.Shared.Lines Jts.Shared.PythonText

/-- A mapping in the order in which its keys came. -/
structure EnvState where
  entries : List (Text × Text)
  distinct : (entries.map Prod.fst).Nodup

namespace EnvState

def empty : EnvState := ⟨[], List.nodup_nil⟩

def find (key : Text) : List (Text × Text) → Option Text
  | [] => none
  | entry :: entries => if entry.1 = key then some entry.2 else find key entries

def get (state : EnvState) (key : Text) : Option Text := find key state.entries

def put (key value : Text) : List (Text × Text) → List (Text × Text)
  | [] => [(key, value)]
  | entry :: entries => if entry.1 = key then (key, value) :: entries else entry :: put key value entries

theorem mem_keys_put {key value other : Text} {entries : List (Text × Text)} :
    other ∈ (put key value entries).map Prod.fst ↔ other = key ∨ other ∈ entries.map Prod.fst := by
  induction entries with
  | nil => simp [put]
  | cons entry entries ih =>
      rw [put]
      split
      next same => simp [same]
      next =>
        rw [List.map_cons, List.mem_cons, ih, List.map_cons, List.mem_cons]
        exact or_left_comm

theorem put_distinct (key value : Text) {entries : List (Text × Text)} (distinct : (entries.map Prod.fst).Nodup) :
    ((put key value entries).map Prod.fst).Nodup := by
  induction entries with
  | nil => simp [put]
  | cons entry entries ih =>
      obtain ⟨fresh, rest⟩ := List.nodup_cons.mp distinct
      rw [put]
      split
      next same => exact List.nodup_cons.mpr ⟨same ▸ fresh, rest⟩
      next other =>
        refine List.nodup_cons.mpr ⟨fun mem => ?_, ih rest⟩
        rcases mem_keys_put.mp mem with same | mem
        · exact other same
        · exact fresh mem

def set (state : EnvState) (key value : Text) : EnvState := ⟨put key value state.entries, put_distinct key value state.distinct⟩

def update (state updates : EnvState) : EnvState := updates.entries.foldl (fun state entry => state.set entry.1 entry.2) state

theorem get_set (state : EnvState) (key value other : Text) :
    (state.set key value).get other = if other = key then some value else state.get other := by
  rw [get, get, set]
  dsimp only
  induction state.entries with
  | nil => simp [put, find, eq_comm]
  | cons entry entries ih =>
      rw [put]
      by_cases mine : entry.1 = key
      next =>
        rw [if_pos mine, find, find, mine]
        by_cases same : other = key
        next => rw [if_pos same.symm, if_pos same]
        next => rw [if_neg (Ne.symm same), if_neg same, if_neg (Ne.symm same)]
      next =>
        rw [if_neg mine, find, find, ih]
        by_cases same : other = key
        next => simp [same, mine]
        next => simp [same]

theorem find_eq_none_iff {key : Text} {entries : List (Text × Text)} : find key entries = none ↔ key ∉ entries.map Prod.fst := by
  induction entries with
  | nil => simp [find]
  | cons entry entries ih =>
      rw [find, List.map_cons, List.mem_cons, not_or]
      split
      next same => simp [same]
      next other => exact ⟨fun none => ⟨Ne.symm other, ih.mp none⟩, fun absent => ih.mpr absent.2⟩

theorem find_of_mem {entry : Text × Text} {entries : List (Text × Text)} (distinct : (entries.map Prod.fst).Nodup)
    (mem : entry ∈ entries) : find entry.1 entries = some entry.2 := by
  induction entries with
  | nil => exact absurd mem List.not_mem_nil
  | cons head entries ih =>
      obtain ⟨fresh, rest⟩ := List.nodup_cons.mp distinct
      rw [find]
      rcases List.mem_cons.mp mem with rfl | mem
      · exact if_pos rfl
      · have other : head.1 ≠ entry.1 := fun same => fresh (same.symm ▸ List.mem_map_of_mem mem)
        rw [if_neg other, ih rest mem]

theorem mem_of_find {key value : Text} {entries : List (Text × Text)} (found : find key entries = some value) :
    (key, value) ∈ entries := by
  induction entries with
  | nil => exact absurd found nofun
  | cons entry entries ih =>
      rw [find] at found
      split at found
      next same =>
        rw [← same, ← Option.some.inj found]
        exact List.mem_cons_self
      next => exact List.mem_cons_of_mem _ (ih found)

theorem get_update (state updates : EnvState) (key : Text) : (state.update updates).get key = (updates.get key).or (state.get key) := by
  obtain ⟨entries, distinct⟩ := updates
  change (entries.foldl (fun state entry => state.set entry.1 entry.2) state).get key = (find key entries).or (state.get key)
  induction entries generalizing state with
  | nil => rfl
  | cons entry entries ih =>
      obtain ⟨fresh, rest⟩ := List.nodup_cons.mp distinct
      rw [List.foldl_cons, ih (state.set entry.1 entry.2) rest, get_set, find]
      by_cases mine : entry.1 = key
      next =>
        have absent : find key entries = none := find_eq_none_iff.mpr (mine ▸ fresh)
        rw [absent, if_pos mine.symm, if_pos mine]
        rfl
      next => rw [if_neg (Ne.symm mine), if_neg mine]

end EnvState

def parseEnvMapping (text : Text) : EnvState :=
  (assignments (parseEnvLines text)).foldl (fun state pair => state.set pair.1 (unquoted pair.2)) EnvState.empty

theorem get_parseEnvMapping (text key : Text) : (parseEnvMapping text).get key = readValue text key := by
  rw [parseEnvMapping, readValue, readLines]
  have ahead (lines : List ParsedLine) : ∀ state : EnvState,
      ((assignments lines).foldl (fun state pair => state.set pair.1 (unquoted pair.2)) state).get key =
        lines.foldl (fun found line => ((assigned key line).map unquoted).or found) (state.get key) := by
    induction lines with
    | nil => exact fun state => rfl
    | cons line lines ih =>
        intro state
        obtain ⟨name, value⟩ := line
        cases value with
        | none => simpa [assignments, assigned] using ih state
        | some value =>
            have step := ih (state.set name (unquoted value))
            rw [EnvState.get_set] at step
            by_cases mine : name = key
            · simpa [assignments, assigned, mine] using step
            · simpa [assignments, assigned, mine, Ne.symm mine] using step
  exact ahead (parseEnvLines text) EnvState.empty

-- The name in a file's header.
abbrev Owner := { name : Text // Clean isLineBreak name }

def writtenBy : Text := " Written by ".toList

def fullStop : Char := Char.ofNat 0x2E

def header (owner : Owner) : Text := hash :: (writtenBy ++ owner.1 ++ [fullStop])

def endsLine (char : Char) : Bool := isNewline char || isReturn char

/-- The text of a mapping, or nothing when a value would begin a line of its own. -/
def formatEnvText (state : EnvState) (owner : Option Owner) : Option Text :=
  if state.entries.any fun entry => entry.2.any endsLine then none
  else some (ended newline (owner.toList.map header ++ state.entries.map fun entry => entry.1 ++ equals :: entry.2))

inductive SysCall
  | makedirs
  | lock
  | read
  | statParent
  | statTarget
  | mkstemp
  | write
  | publishGroup
  | chown
  | chmod
  | replace
  | unlink
  | unlinkTemp
deriving DecidableEq, Repr

inductive Raised
  | sys (call : SysCall)
  | value
deriving DecidableEq, Repr

structure EnvFile where
  text : Option Text
  strayTemp : Bool
deriving DecidableEq, Repr

variable (fails : SysCall → Bool)

-- A temporary file takes the target's place only when all else has been done to it.
def atomicWriteText (file : EnvFile) (text : Text) (groupFromParent : Bool) : EnvFile × Option Raised :=
  let parent := if groupFromParent then [SysCall.statParent] else []
  match ([SysCall.makedirs] ++ parent ++ [SysCall.statTarget, .mkstemp]).find? fails with
  | some call => (file, some (.sys call))
  | none =>
      let owned := if file.text.isSome then [SysCall.chown] else []
      let group := if file.text.isNone && groupFromParent then [SysCall.publishGroup] else []
      match ([SysCall.write] ++ group ++ owned ++ [SysCall.chmod, .replace]).find? fails with
      | some call => ({ file with strayTemp := file.strayTemp || fails .unlinkTemp }, some (.sys call))
      | none => ({ file with text := some text }, none)

def readEnvState (file : EnvFile) : Except Raised EnvState :=
  match file.text with
  | none => .ok EnvState.empty
  | some text => if fails .read then .error (.sys .read) else .ok (parseEnvMapping text)

def publish (file : EnvFile) (state : EnvState) (owner : Option Owner) (groupFromParent : Bool) : EnvFile × Except Raised (Option EnvState) :=
  match formatEnvText state owner with
  | none => (file, .error .value)
  | some text =>
      match atomicWriteText fails file text groupFromParent with
      | (file, some raised) => (file, .error raised)
      | (file, none) => (file, .ok (some state))

def lockedUpdateEnvFile (file : EnvFile) (updates : EnvState) (owner : Option Owner) (groupFromParent : Bool) :
    EnvFile × Except Raised (Option EnvState) :=
  match [SysCall.makedirs, .lock].find? fails with
  | some call => (file, .error (.sys call))
  | none =>
      match readEnvState fails file with
      | .error raised => (file, .error raised)
      | .ok state => publish fails file (state.update updates) owner groupFromParent

def lockedTransformEnvFile (file : EnvFile) (transform : EnvState → Option EnvState) (owner : Option Owner) (groupFromParent : Bool) :
    EnvFile × Except Raised (Option EnvState) :=
  match [SysCall.makedirs, .lock].find? fails with
  | some call => (file, .error (.sys call))
  | none =>
      match readEnvState fails file with
      | .error raised => (file, .error raised)
      | .ok state =>
          match transform state with
          | none => if file.text.isSome && fails .unlink then (file, .error (.sys .unlink)) else ({ file with text := none }, .ok none)
          | some new => publish fails file new owner groupFromParent

variable {fails : SysCall → Bool} {key value text : Text} {state : EnvState} {owner : Option Owner}

theorem isAssignment_header (owner : Owner) : isAssignment (header owner) = false := by
  have stays : isSpace hash = false := by decide
  have commented (rest : Text) : (strip (hash :: rest)).head? = some hash := by
    have kept := rdropWhile_append_cons stays [] rest
    rw [List.nil_append, List.nil_append] at kept
    rw [strip, List.dropWhile_cons_of_neg (by simp [stays]), kept, List.head?_cons]
  rw [header, isAssignment, commented]
  simp

theorem clean_header (owner : Owner) : Clean isLineBreak (header owner) := by
  have first : Clean isLineBreak [hash] := by decide
  have before : Clean isLineBreak writtenBy := by decide
  exact first.append ((before.append owner.2).append (by decide))

theorem unescape_sublist (value : Text) : (unescape value).Sublist value := by
  induction value using unescape.induct with
  | case1 => exact List.Sublist.refl _
  | case2 => exact List.Sublist.refl _
  | case3 char next text escaped ih =>
      rw [unescape, if_pos escaped]
      exact (ih.cons_cons next).cons char
  | case4 char next text kept ih =>
      rw [unescape, if_neg kept]
      exact ih.cons_cons char

theorem unquoted_sublist (value : Text) : (unquoted value).Sublist value := by
  have content : (inner (strip value)).Sublist value :=
    ((List.dropLast_sublist _).trans (List.drop_sublist _ _)).trans (strip_sublist value)
  rw [unquoted]
  split
  · split
    · exact (unescape_sublist _).trans content
    · exact content
  · exact strip_sublist value

/-- A mapping each of whose keys a line can assign to. -/
structure Writable (state : EnvState) : Prop where
  keys : ∀ entry ∈ state.entries, WellFormed entry.1
  values : ∀ entry ∈ state.entries, Clean isLineBreak entry.2

theorem formatEnvText_some (values : ∀ entry ∈ state.entries, Clean isLineBreak entry.2) (owner : Option Owner) :
    formatEnvText state owner =
      some (ended newline (owner.toList.map header ++ state.entries.map fun entry => entry.1 ++ equals :: entry.2)) := by
  refine if_neg fun raises => ?_
  obtain ⟨entry, mem, raises⟩ := List.any_eq_true.mp raises
  obtain ⟨char, held, ends⟩ := List.any_eq_true.mp raises
  have inner := values entry mem char held
  rcases Bool.or_eq_true_iff.mp ends with line | back
  · exact Bool.false_ne_true (inner.symm.trans (isLineBreak_of_isNewline line))
  · exact Bool.false_ne_true (inner.symm.trans (isLineBreak_of_isReturn back))

theorem Writable.reads (writable : Writable state) (owner : Option Owner) (key : Text) :
    readValue (ended newline (owner.toList.map header ++ state.entries.map fun entry => entry.1 ++ equals :: entry.2)) key =
      (state.get key).map unquoted := by
  have clean : ∀ line ∈ owner.toList.map header ++ state.entries.map fun entry => entry.1 ++ equals :: entry.2,
      Clean isLineBreak line := by
    intro line mem
    rcases List.mem_append.mp mem with mem | mem
    · obtain ⟨name, -, rfl⟩ := List.mem_map.mp mem
      exact clean_header name
    · obtain ⟨entry, held, rfl⟩ := List.mem_map.mp mem
      refine (writable.keys entry held).clean.append fun char mem => ?_
      rcases List.mem_cons.mp mem with rfl | mem
      · decide
      · exact writable.values entry held char mem
  have silent : ((owner.toList.map header).map parseEnvLine).filterMap (assigned key) = [] := by
    rw [List.filterMap_eq_nil_iff]
    intro line mem
    obtain ⟨raw, held, rfl⟩ := List.mem_map.mp mem
    obtain ⟨name, -, rfl⟩ := List.mem_map.mp held
    rw [parseEnvLine_plain (isAssignment_header name)]
    exact ite_self _
  have found : ((state.entries.map fun entry => entry.1 ++ equals :: entry.2).map parseEnvLine).filterMap (assigned key) =
      ((state.get key).map fun value => value.rdropWhile isSpace).toList := by
    obtain ⟨entries, distinct⟩ := state
    have keys := writable.keys
    dsimp only [EnvState.get] at keys ⊢
    clear writable clean
    induction entries with
    | nil => rfl
    | cons entry entries ih =>
        obtain ⟨fresh, rest⟩ := List.nodup_cons.mp distinct
        have later := ih rest fun entry mem => keys entry (List.mem_cons_of_mem _ mem)
        rw [List.map_cons, List.map_cons, parseEnvLine_assignment (keys entry List.mem_cons_self), EnvState.find]
        by_cases mine : entry.1 = key
        next =>
          have absent : EnvState.find key entries = none := EnvState.find_eq_none_iff.mpr (mine ▸ fresh)
          have assigns : assigned key (entry.1, some (entry.2.rdropWhile isSpace)) = some (entry.2.rdropWhile isSpace) := if_pos mine
          rw [absent] at later
          rw [List.filterMap_cons_some assigns, later, if_pos mine]
          rfl
        next =>
          have foreign : assigned key (entry.1, some (entry.2.rdropWhile isSpace)) = none := if_neg mine
          rw [List.filterMap_cons_none foreign, later, if_neg mine]
  rw [readValue, parseEnvLines, splitlines_ended clean, readLines_eq, List.map_append, List.filterMap_append, silent, List.nil_append,
    found]
  cases state.get key with
  | none => rfl
  | some value => simp [unquoted_rdropWhile]

theorem wellFormed_of_reads (reads : readValue text key = some value) : WellFormed key ∧ Clean isLineBreak value := by
  rw [readValue, readLines_eq] at reads
  obtain ⟨old, mem, rfl⟩ := List.mem_map.mp (List.mem_of_getLast? reads)
  obtain ⟨line, held, assigns⟩ := List.mem_filterMap.mp mem
  obtain ⟨raw, cut, rfl⟩ := List.mem_map.mp held
  rw [assigned] at assigns
  split at assigns
  next mine =>
    obtain ⟨well, -, clean⟩ := assignment_of_parse (clean_of_mem_splitlines cut) (Prod.ext mine assigns)
    exact ⟨well, clean.of_subset (unquoted_sublist old).subset⟩
  next => cases assigns

/-- What an update of a file should do to what is read of it. -/
def Updated (before : Text) (updates : EnvState) (after : Text) : Prop :=
  ∀ key, readValue after key = (updates.get key).or (readValue before key)

/-- What a write should do: it leaves the file when it raises, and it updates it when it does not. -/
def Exact (before : Text) (updates : EnvState) (answer : EnvFile × Except Raised (Option EnvState)) : Prop :=
  match answer with
  | (file, .error _) => file.text = some before
  | (file, .ok _) => ∃ after, file.text = some after ∧ Updated before updates after

/-- The keys can be assigned to, and the values kept resolve to themselves. -/
structure Restatable (before : Text) (updates : EnvState) : Prop where
  keys : ∀ entry ∈ updates.entries, WellFormed entry.1
  kept : ∀ key value, updates.get key = none → readValue before key = some value → unquoted value = value

theorem atomicWriteText_raises {file : EnvFile} {groupFromParent : Bool} {raised : Raised}
    (raises : (atomicWriteText fails file text groupFromParent).2 = some raised) :
    (atomicWriteText fails file text groupFromParent).1.text = file.text := by
  rw [atomicWriteText] at raises ⊢
  dsimp only at raises ⊢
  split
  · rfl
  next begun =>
    rw [begun] at raises
    dsimp only at raises
    split
    · rfl
    next done =>
      rw [done] at raises
      exact absurd raises nofun

theorem atomicWriteText_done {file : EnvFile} {groupFromParent : Bool}
    (done : (atomicWriteText fails file text groupFromParent).2 = none) :
    (atomicWriteText fails file text groupFromParent).1.text = some text := by
  rw [atomicWriteText] at done ⊢
  dsimp only at done ⊢
  split
  next begun =>
    rw [begun] at done
    exact absurd done nofun
  next begun =>
    rw [begun] at done
    dsimp only at done
    split
    next raised =>
      rw [raised] at done
      exact absurd done nofun
    next => rfl

theorem atomicWriteText_quiet (file : EnvFile) (text : Text) (groupFromParent : Bool) :
    atomicWriteText (fun _ => false) file text groupFromParent = ({ file with text := some text }, none) := by
  have silent (calls : List SysCall) : calls.find? (fun _ => false) = none := List.find?_eq_none.mpr fun _ _ => Bool.false_ne_true
  rw [atomicWriteText, silent]
  dsimp only
  rw [silent]

section Writes

variable {before : Text} {updates new : EnvState}

theorem entries_of_get (state : EnvState) (Holds : Text → Text → Prop) :
    (∀ entry ∈ state.entries, Holds entry.1 entry.2) ↔ ∀ key value, state.get key = some value → Holds key value := by
  constructor
  · exact fun each key value found => each (key, value) (EnvState.mem_of_find found)
  · exact fun each entry mem => each entry.1 entry.2 (EnvState.find_of_mem state.distinct mem)

theorem values_clean (plain : ∀ entry ∈ updates.entries, Plain entry.2)
    (updated : ∀ key, new.get key = (updates.get key).or (readValue before key)) : ∀ entry ∈ new.entries, Clean isLineBreak entry.2 := by
  rw [entries_of_get new (fun _ value => Clean isLineBreak value)]
  intro key value found
  rw [updated] at found
  cases fresh : updates.get key with
  | some value' =>
      rw [fresh] at found
      obtain rfl := Option.some.inj found
      exact (plain _ (EnvState.mem_of_find fresh)).clean
  | none =>
      rw [fresh] at found
      exact (wellFormed_of_reads found).2

-- A text that says anything of each updated key says that its key can be assigned to.
theorem keys_of_updated {after : Text} (shown : Updated before updates after) : ∀ entry ∈ updates.entries, WellFormed entry.1 := by
  rw [entries_of_get updates (fun key _ => WellFormed key)]
  intro key value found
  have reads := shown key
  rw [found] at reads
  exact (wellFormed_of_reads reads).1

theorem writable_of_keys (plain : ∀ entry ∈ updates.entries, Plain entry.2) (keys : ∀ entry ∈ updates.entries, WellFormed entry.1)
    (updated : ∀ key, new.get key = (updates.get key).or (readValue before key)) : Writable new := by
  refine ⟨?_, values_clean plain updated⟩
  rw [entries_of_get new (fun key _ => WellFormed key)]
  intro key value found
  rw [updated] at found
  cases fresh : updates.get key with
  | some value' => exact keys _ (EnvState.mem_of_find fresh)
  | none =>
      rw [fresh] at found
      exact (wellFormed_of_reads found).1

/-- The text of an updated mapping reads as it should exactly when what it keeps can be said again. -/
theorem updated_iff (plain : ∀ entry ∈ updates.entries, Plain entry.2)
    (updated : ∀ key, new.get key = (updates.get key).or (readValue before key)) (owner : Option Owner) :
    (∃ after, formatEnvText new owner = some after ∧ Updated before updates after) ↔ Restatable before updates := by
  have formatted := formatEnvText_some (values_clean plain updated) owner
  constructor
  next =>
    rintro ⟨after, written, shown⟩
    have keys := keys_of_updated shown
    refine ⟨keys, fun key value old reads => ?_⟩
    have again := shown key
    obtain rfl := Option.some.inj (formatted.symm.trans written)
    rw [(writable_of_keys plain keys updated).reads, updated, old, reads] at again
    exact Option.some.inj again
  next =>
    intro restatable
    refine ⟨_, formatted, fun key => ?_⟩
    rw [(writable_of_keys plain restatable.keys updated).reads, updated]
    cases fresh : updates.get key with
    | some value =>
        exact congrArg some (plain _ (EnvState.mem_of_find fresh)).resolved
    | none =>
        cases reads : readValue before key with
        | none => rfl
        | some value => exact congrArg some (restatable.kept key value fresh reads)

theorem restatable_of_publish (plain : ∀ entry ∈ updates.entries, Plain entry.2)
    (updated : ∀ key, new.get key = (updates.get key).or (readValue before key)) {stray groupFromParent : Bool}
    (exact : Exact before updates (publish (fun _ => false) ⟨some before, stray⟩ new owner groupFromParent)) : Restatable before updates := by
  have formatted := formatEnvText_some (values_clean plain updated) owner
  rw [← updated_iff plain updated owner]
  rw [publish, formatted] at exact
  dsimp only at exact
  rw [atomicWriteText_quiet] at exact
  obtain ⟨after, written, shown⟩ := exact
  obtain rfl := Option.some.inj written
  exact ⟨_, formatted, shown⟩

theorem Restatable.publish (restatable : Restatable before updates) (plain : ∀ entry ∈ updates.entries, Plain entry.2)
    (updated : ∀ key, new.get key = (updates.get key).or (readValue before key)) (fails : SysCall → Bool) (stray groupFromParent : Bool) :
    Exact before updates (publish fails ⟨some before, stray⟩ new owner groupFromParent) := by
  obtain ⟨after, written, shown⟩ := (updated_iff plain updated owner).mpr restatable
  rw [Env.publish, written]
  dsimp only
  split
  next raised file answer =>
    have kept := atomicWriteText_raises (congrArg Prod.snd answer)
    rw [answer] at kept
    exact kept
  next file answer =>
    have done := atomicWriteText_done (congrArg Prod.snd answer)
    rw [answer] at done
    exact ⟨after, done, shown⟩

end Writes

def UpdateExact (before : Text) (updates : EnvState) (owner : Option Owner) : Prop :=
  ∀ fails stray groupFromParent, Exact before updates (lockedUpdateEnvFile fails ⟨some before, stray⟩ updates owner groupFromParent)

def TransformExact (before : Text) (updates : EnvState) (transform : EnvState → Option EnvState) (owner : Option Owner) : Prop :=
  ∀ fails stray groupFromParent, Exact before updates (lockedTransformEnvFile fails ⟨some before, stray⟩ transform owner groupFromParent)

/-- A transform that returns the mapping with the keys updated. -/
def Updates (transform : EnvState → Option EnvState) (updates : EnvState) : Prop :=
  ∀ state, ∃ new, transform state = some new ∧ ∀ key, new.get key = (updates.get key).or (state.get key)

theorem updates_update (updates : EnvState) : Updates (fun state => some (state.update updates)) updates :=
  fun state => ⟨_, rfl, state.get_update updates⟩

-- An update is the transform that updates.
theorem lockedUpdateEnvFile_eq (fails : SysCall → Bool) (file : EnvFile) (updates : EnvState) (owner : Option Owner) (groupFromParent : Bool) :
    lockedUpdateEnvFile fails file updates owner groupFromParent =
      lockedTransformEnvFile fails file (fun state => some (state.update updates)) owner groupFromParent := rfl

theorem transform_exact_iff (before : Text) {updates : EnvState} (plain : ∀ entry ∈ updates.entries, Plain entry.2)
    {transform : EnvState → Option EnvState} (updating : Updates transform updates) (owner : Option Owner) :
    TransformExact before updates transform owner ↔ Restatable before updates := by
  obtain ⟨new, transformed, got⟩ := updating (parseEnvMapping before)
  have updated (key : Text) : new.get key = (updates.get key).or (readValue before key) := by rw [got, get_parseEnvMapping]
  constructor
  next =>
    intro exact
    have quiet := exact (fun _ => false) false true
    rw [lockedTransformEnvFile] at quiet
    simp only [List.find?, readEnvState, Bool.false_eq_true, if_false, transformed] at quiet
    exact restatable_of_publish plain updated quiet
  next =>
    intro restatable fails stray groupFromParent
    rw [lockedTransformEnvFile]
    split
    · exact rfl
    rw [readEnvState]
    dsimp only
    cases fails .read with
    | true => exact rfl
    | false =>
        simp only [Bool.false_eq_true, if_false, transformed]
        exact restatable.publish plain updated fails stray groupFromParent

/-- A locked write of some keys leaves what the others mean exactly when that can be said without quotes. -/
theorem locked_writes_keep_the_other_values_iff (before : Text) {updates : EnvState} (plain : ∀ entry ∈ updates.entries, Plain entry.2)
    {transform : EnvState → Option EnvState} (updating : Updates transform updates) (owner : Option Owner) :
    (UpdateExact before updates owner ↔ Restatable before updates) ∧
      (TransformExact before updates transform owner ↔ Restatable before updates) :=
  ⟨transform_exact_iff before plain (updates_update updates) owner, transform_exact_iff before plain updating owner⟩

def loud : EnvState := EnvState.empty.set volumeKey "80".toList

theorem loud_plain_values : ∀ entry ∈ loud.entries, Plain entry.2 := by
  intro entry mem
  rw [List.mem_singleton.mp mem]
  exact loud_plain

theorem a_plain_file_keeps_its_values : UpdateExact "VOLUME=60\nNAME='den'\n".toList loud none := by
  refine (locked_writes_keep_the_other_values_iff _ loud_plain_values (updates_update loud) none).1.mpr ⟨?_, ?_⟩
  · intro entry mem
    rw [List.mem_singleton.mp mem]
    exact volumeKey_wellFormed
  · intro key value _ reads
    rw [← get_parseEnvMapping] at reads
    have each : ∀ entry ∈ (parseEnvMapping "VOLUME=60\nNAME='den'\n".toList).entries, unquoted entry.2 = entry.2 := by decide +kernel
    exact each _ (EnvState.mem_of_find reads)

/-- The edges of another key's quoted value are lost. -/
theorem a_quoted_value_loses_its_edges :
    ¬UpdateExact "NAME=\" den\"\nVOLUME=60\n".toList loud none ∧
      ¬TransformExact "NAME=\" den\"\nVOLUME=60\n".toList loud (fun state => some (state.update loud)) none := by
  have lost : ¬Restatable "NAME=\" den\"\nVOLUME=60\n".toList loud := by
    intro restatable
    have same := restatable.kept "NAME".toList " den".toList (by decide) (by decide +kernel)
    exact absurd same (by decide)
  have exact_iff := transform_exact_iff "NAME=\" den\"\nVOLUME=60\n".toList loud_plain_values (updates_update loud) none
  exact ⟨mt exact_iff.mp lost, mt exact_iff.mp lost⟩

end Jts.Env
