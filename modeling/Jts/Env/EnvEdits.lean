import Jts.Env.Reparse

set_option autoImplicit false

namespace Jts.Env

open Jts.Shared.Lines Jts.Shared.PythonText

variable {key value other text after : Text} {line : ParsedLine} {lines edited : List ParsedLine}

theorem readLines_eq (lines : List ParsedLine) (key : Text) :
    readLines lines key = ((lines.filterMap (assigned key)).map unquoted).getLast? := by
  have ahead : ∀ found, lines.foldl (fun found line => ((assigned key line).map unquoted).or found) found =
      ((lines.filterMap (assigned key)).map unquoted).getLast?.or found := by
    induction lines with
    | nil => exact fun found => rfl
    | cons line lines ih =>
        intro found
        rw [List.foldl_cons, ih]
        cases assigns : assigned key line with
        | none => rw [List.filterMap_cons_none assigns]; rfl
        | some value =>
            rw [List.filterMap_cons_some assigns, List.map_cons, List.getLast?_cons]
            cases ((lines.filterMap (assigned key)).map unquoted).getLast? with
            | none => rfl
            | some last => rfl
  rw [readLines, ahead, Option.or_none]

theorem upsertLines_values (resolved : unquoted value = value) (key : Text) (found : Bool) (lines : List ParsedLine) :
    ((upsertLines key value found lines).1.filterMap (assigned key)).map unquoted = if found then [] else [value] := by
  induction lines generalizing found with
  | nil =>
      cases found with
      | true => rfl
      | false => simp [upsertLines, assigned, resolved]
  | cons line lines ih =>
      rw [upsertLines]
      cases assigns : assigned key line with
      | none => simp [assigns, ih]
      | some old =>
          cases found with
          | true => simpa using ih true
          | false =>
              by_cases same : unquoted old = value
              · simp [same, assigns, ih]
              · simp [same, ih, assigned, resolved]

theorem upsertLines_others (key value : Text) (found : Bool) (lines : List ParsedLine) :
    removeLines key (upsertLines key value found lines).1 = removeLines key lines := by
  have mine : assigned key (key, some value) = some value := if_pos rfl
  induction lines generalizing found with
  | nil =>
      cases found with
      | true => rfl
      | false => simp [upsertLines, removeLines, mine]
  | cons line lines ih =>
      simp only [removeLines] at ih ⊢
      rw [upsertLines]
      cases assigns : assigned key line with
      | none => simp [assigns, ih]
      | some old =>
          cases found with
          | true => simpa [assigns] using ih true
          | false =>
              by_cases same : unquoted old = value
              · simp [same, assigns, ih]
              · simp [same, assigns, mine, ih]

theorem upsertLines_again (resolved : unquoted value = value) (key : Text) (found : Bool) (lines : List ParsedLine) :
    upsertLines key value found (upsertLines key value found lines).1 = ((upsertLines key value found lines).1, false) := by
  have mine : assigned key (key, some value) = some value := if_pos rfl
  induction lines generalizing found with
  | nil =>
      cases found with
      | true => rfl
      | false => simp [upsertLines, mine, resolved]
  | cons line lines ih =>
      rw [upsertLines]
      cases assigns : assigned key line with
      | none => simp [upsertLines, assigns, ih]
      | some old =>
          cases found with
          | true => simpa using ih true
          | false =>
              by_cases same : unquoted old = value
              · simp [upsertLines, same, assigns, ih]
              · simp [upsertLines, same, mine, resolved, ih]

theorem upsertLines_unchanged (key value : Text) (found : Bool) (lines : List ParsedLine)
    (unchanged : (upsertLines key value found lines).2 = false) :
    (lines.filterMap (assigned key)).map unquoted = if found then [] else [value] := by
  induction lines generalizing found with
  | nil =>
      cases found with
      | true => rfl
      | false => exact absurd unchanged nofun
  | cons line lines ih =>
      rw [upsertLines] at unchanged
      cases assigns : assigned key line with
      | none =>
          rw [assigns] at unchanged
          rw [List.filterMap_cons_none assigns]
          exact ih found unchanged
      | some old =>
          rw [assigns] at unchanged
          cases found with
          | true => exact absurd unchanged nofun
          | false =>
              by_cases same : unquoted old = value
              · simp only [Bool.false_eq_true, if_false, same, if_true] at unchanged
                rw [List.filterMap_cons_some assigns, List.map_cons, ih true unchanged, same]
                rfl
              · simp [same] at unchanged

theorem mem_upsertLines {found : Bool} (mem : line ∈ (upsertLines key value found lines).1) : line ∈ lines ∨ line = (key, some value) := by
  induction lines generalizing found with
  | nil =>
      cases found with
      | true => exact .inl mem
      | false => exact .inr (List.mem_singleton.mp mem)
  | cons head lines ih =>
      have later {found : Bool} (mem : line ∈ (upsertLines key value found lines).1) : line ∈ head :: lines ∨ line = (key, some value) :=
        (ih mem).imp_left (List.mem_cons_of_mem _)
      rw [upsertLines] at mem
      split at mem
      · rcases List.mem_cons.mp mem with rfl | mem
        · exact .inl List.mem_cons_self
        · exact later mem
      · split at mem
        · exact later mem
        dsimp only at mem
        split at mem
        · rcases List.mem_cons.mp mem with rfl | mem
          · exact .inl List.mem_cons_self
          · exact later mem
        · rcases List.mem_cons.mp mem with rfl | mem
          · exact .inr rfl
          · exact later mem

theorem upsertLines_ne_nil (key value : Text) (lines : List ParsedLine) : (upsertLines key value false lines).1 ≠ [] := by
  cases lines with
  | nil => exact List.cons_ne_nil _ _
  | cons line lines =>
      rw [upsertLines]
      split
      · exact List.cons_ne_nil _ _
      · rw [if_neg Bool.false_ne_true]
        dsimp only
        split
        · exact List.cons_ne_nil _ _
        · exact List.cons_ne_nil _ _

def assignments (lines : List ParsedLine) : List (Text × Text) := lines.filterMap fun line => line.2.map (line.1, ·)

def elsewhere (key : Text) (pairs : List (Text × Text)) : List (Text × Text) := pairs.filter fun pair => pair.1 != key

def plainLines (text : Text) : List Text := (newlineLines text).filter fun line => !isAssignment line

/-- What an edit of a key leaves as it was. -/
structure Keeps (key before after : Text) : Prop where
  others : ∀ other, other ≠ key → readValue after other = readValue before other
  plain : (plainLines before).Sublist (newlineLines after)
  fresh : elsewhere key (assignments (parseEnvLines after)) =
    elsewhere key (((newlineLines before).filter isAssignment).flatMap fun line => assignments (parseEnvLines (line ++ [newline])))

structure UpsertExact (text key value : Text) : Prop where
  reads : readValue (upsert text key value).1 key = some value
  keeps : Keeps key text (upsert text key value).1
  again : upsert (upsert text key value).1 key value = ((upsert text key value).1, false)
  unchanged : (upsert text key value).2 = false → readValue text key = some value

structure RemoveExact (text key : Text) : Prop where
  reads : readValue (remove text key).1 key = none
  keeps : Keeps key text (remove text key).1
  again : remove (remove text key).1 key = ((remove text key).1, false)
  unchanged : (remove text key).2 = false → readValue text key = none

/-- A file none of whose comment, blank and malformed lines holds a line break of another kind. -/
def WholeLines (text : Text) : Prop := ∀ line ∈ plainLines text, Clean isLineBreak line

/-- A file of whose lines nothing but an empty one would be left. -/
def LoneBlank (text key : Text) : Prop := removeLines key (parseEnvLines text) = [([], none)] ∧ [] ∈ newlineLines text

theorem filterMap_assigned_removeLines (different : other ≠ key) (lines : List ParsedLine) :
    (removeLines key lines).filterMap (assigned other) = lines.filterMap (assigned other) := by
  rw [removeLines, List.filterMap_filter]
  refine List.filterMap_congr fun line _ => ?_
  cases assigns : assigned key line with
  | none => rfl
  | some value =>
      have mine : line.1 = key := by
        by_contra foreign
        rw [assigned, if_neg foreign] at assigns
        exact absurd assigns nofun
      exact (if_neg (mine ▸ different.symm)).symm

theorem readLines_congr (same : removeLines key edited = removeLines key lines) (different : other ≠ key) :
    readLines edited other = readLines lines other := by
  rw [readLines_eq, readLines_eq, ← filterMap_assigned_removeLines different edited, same, filterMap_assigned_removeLines different]

theorem elsewhere_assignments (key : Text) (lines : List ParsedLine) :
    elsewhere key (assignments lines) = assignments (removeLines key lines) := by
  induction lines with
  | nil => rfl
  | cons line lines ih =>
      obtain ⟨name, value⟩ := line
      simp only [elsewhere, assignments, removeLines] at ih ⊢
      cases value with
      | none => simpa [assigned] using ih
      | some value =>
          by_cases mine : name = key
          · simpa [assigned, mine] using ih
          · simpa [assigned, mine] using ih

theorem assignments_append (left right : List ParsedLine) : assignments (left ++ right) = assignments left ++ assignments right :=
  List.filterMap_append

theorem parseEnvLine_plain {raw : Text} (plain : isAssignment raw = false) : parseEnvLine raw = (raw, none) := by
  rw [parseEnvLine, if_pos (by simp [plain])]

-- The program reads a file line by line.
theorem assignments_parse (text : Text) :
    assignments (parseEnvLines text) = (newlineLines text).flatMap fun line => assignments (parseEnvLines (line ++ [newline])) := by
  have read (lines : List Text) : assignments (lines.map parseEnvLine) = lines.flatMap fun raw => assignments [parseEnvLine raw] := by
    induction lines with
    | nil => rfl
    | cons raw lines ih =>
        rw [List.map_cons, List.flatMap_cons, ← ih]
        exact assignments_append [parseEnvLine raw] _
  have each := splitlines_flatMap (fun raw => assignments [parseEnvLine raw]) rfl text
  simp only [parseEnvLines, read]
  exact each

theorem assignments_whole (whole : WholeLines text) :
    assignments (parseEnvLines text) =
      ((newlineLines text).filter isAssignment).flatMap fun line => assignments (parseEnvLines (line ++ [newline])) := by
  rw [assignments_parse]
  have silent : ∀ line ∈ newlineLines text, isAssignment line = false → assignments (parseEnvLines (line ++ [newline])) = [] := by
    intro line mem plain
    have clean := whole line (List.mem_filter.mpr ⟨mem, by simp [plain]⟩)
    rw [parseEnvLines, splitlines_line clean, List.map_singleton, parseEnvLine_plain plain]
    rfl
  generalize newlineLines text = all at silent
  induction all with
  | nil => rfl
  | cons line all ih =>
      have rest := ih fun line mem => silent line (List.mem_cons_of_mem _ mem)
      rw [List.flatMap_cons, List.filter_cons, rest]
      cases assigns : isAssignment line with
      | true => simp
      | false => simp [silent line List.mem_cons_self assigns]

/-- A file that was written from lines. -/
structure Written (after : Text) (lines : List ParsedLine) : Prop where
  parsed : parseEnvLines after = lines
  held : newlineLines after = lines.map renderLine
  clean : ∀ line ∈ lines.map renderLine, Clean isLineBreak line

theorem written_ended (parsed : ∀ line ∈ lines, Parsed line) : Written (ended newline (lines.map renderLine)) lines := by
  have clean : ∀ line ∈ lines.map renderLine, Clean isLineBreak line := by
    intro raw mem
    obtain ⟨line, held, rfl⟩ := List.mem_map.mp mem
    exact (parsed line held).clean
  exact ⟨parseEnvLines_ended parsed, newlineLines_ended clean, clean⟩

-- The plain lines of a file are among the lines that it is written from.
theorem plainLines_sublist (whole : WholeLines text) (key : Text) :
    (plainLines text).Sublist ((removeLines key (parseEnvLines text)).map renderLine) := by
  have kept : (plainLines text).Sublist ((splitlines text).filter fun line => !isAssignment line) := by
    have clean : (plainLines text).filter (fun line => Clean isLineBreak line) = plainLines text :=
      List.filter_eq_self.mpr fun line mem => decide_eq_true (whole line mem)
    rw [← clean, plainLines, List.filter_comm]
    exact (clean_newlineLines_sublist text).filter _
  refine kept.trans ?_
  rw [parseEnvLines]
  induction splitlines text with
  | nil => exact List.Sublist.refl _
  | cons raw raws ih =>
      rw [removeLines] at ih ⊢
      cases assigns : isAssignment raw with
      | false => simpa [assigns, parseEnvLine_plain assigns, assigned, renderLine] using ih
      | true =>
          rw [List.map_cons, List.filter_cons_of_neg (by simp [assigns]), List.filter_cons]
          split
          · exact ih.cons _
          · exact ih

theorem Written.keeps (written : Written after edited) (same : removeLines key edited = removeLines key (parseEnvLines text))
    (whole : WholeLines text) : Keeps key text after where
  others other different := by
    rw [readValue, readValue, written.parsed]
    exact readLines_congr same different
  plain := by
    rw [written.held]
    refine (plainLines_sublist whole key).trans ?_
    rw [← same]
    exact List.filter_sublist.map _
  fresh := by rw [written.parsed, elsewhere_assignments, same, ← elsewhere_assignments, assignments_whole whole]

theorem Written.whole (written : Written after edited) (plain : (plainLines text).Sublist (newlineLines after)) : WholeLines text := by
  intro line mem
  have held := plain.subset mem
  rw [written.held] at held
  exact written.clean line held

theorem upsert_written (well : WellFormed key) (plain : Plain value) :
    Written (upsert text key value).1 (upsertLines key value false (parseEnvLines text)).1 := by
  have parsed : ∀ line ∈ (upsertLines key value false (parseEnvLines text)).1, Parsed line := by
    intro line mem
    rcases mem_upsertLines mem with mem | rfl
    · exact parsed_of_mem mem
    · exact parsed_assignment well (rdropWhile_of_strip_eq plain.edges) plain.clean
  have written := written_ended parsed
  rwa [← render_ended (upsertLines_ne_nil key value _)] at written

theorem upsert_exact_iff (text : Text) (well : WellFormed key) (plain : Plain value) : UpsertExact text key value ↔ WholeLines text := by
  have written : Written (upsert text key value).1 _ := upsert_written well plain
  constructor
  · exact fun exact => written.whole exact.keeps.plain
  intro whole
  refine ⟨?_, written.keeps (upsertLines_others key value false _) whole, ?_, fun unchanged => ?_⟩
  · rw [readValue, written.parsed, readLines_eq, upsertLines_values plain.resolved]
    rfl
  · have again := upsertLines_again plain.resolved key false (parseEnvLines text)
    rw [upsert, written.parsed, again]
    rfl
  · rw [readValue, readLines_eq, upsertLines_unchanged key value false _ unchanged]
    rfl

theorem removeLines_again (key : Text) (lines : List ParsedLine) : removeLines key (removeLines key lines) = removeLines key lines := by
  rw [removeLines, removeLines, List.filter_filter]
  simp

theorem readLines_removeLines (key : Text) (lines : List ParsedLine) : readLines (removeLines key lines) key = none := by
  have gone : (removeLines key lines).filterMap (assigned key) = [] := by
    rw [List.filterMap_eq_nil_iff]
    intro line mem
    exact Option.isNone_iff_eq_none.mp (List.mem_filter.mp mem).2
  rw [readLines_eq, gone]
  rfl

theorem render_ne_nil (several : lines ≠ []) (other : lines ≠ [([], none)]) : render lines ≠ [] := by
  match lines with
  | [] => exact absurd rfl several
  | [(raw, none)] =>
      intro empty
      have blank : raw = [] := by simpa [render, renderLine] using empty
      exact other (by rw [blank])
  | [(key, some value)] => simp [render, renderLine]
  | first :: second :: lines => simp [render, List.intercalate_cons_cons]

theorem remove_written (other : removeLines key (parseEnvLines text) ≠ [([], none)]) :
    Written (remove text key).1 (removeLines key (parseEnvLines text)) := by
  rw [remove]
  dsimp only
  by_cases none : removeLines key (parseEnvLines text) = []
  next =>
    rw [none]
    exact ⟨rfl, rfl, fun line mem => absurd mem List.not_mem_nil⟩
  next =>
    rw [if_neg (render_ne_nil none other), render_ended none]
    exact written_ended fun line mem => parsed_of_mem (List.mem_of_mem_filter mem)

theorem remove_of_blank (blank : removeLines key (parseEnvLines text) = [([], none)]) : (remove text key).1 = [] := by
  rw [remove, blank]
  rfl

theorem readLines_of_absent (absent : (lines.any fun line => (assigned key line).isSome) = false) : readLines lines key = none := by
  have gone : lines.filterMap (assigned key) = [] := by
    rw [List.filterMap_eq_nil_iff]
    intro line mem
    simpa using List.any_eq_false.mp absent line mem
  rw [readLines_eq, gone]
  rfl

theorem remove_again_changes (lines : List ParsedLine) : ((removeLines key lines).any fun line => (assigned key line).isSome) = false := by
  rw [List.any_eq_false]
  intro line mem
  have gone := (List.mem_filter.mp mem).2
  simpa using gone

theorem nil_mem_plainLines (text : Text) : [] ∈ plainLines text ↔ [] ∈ newlineLines text := by
  simp [plainLines, show isAssignment [] = false from rfl]

-- The blank line that is left was no line of the file's own.
theorem keeps_of_blank (whole : WholeLines text) (blank : removeLines key (parseEnvLines text) = [([], none)])
    (foreign : [] ∉ newlineLines text) : Keeps key text [] where
  others other different := by
    have blankRead : readLines [([], none)] other = none := by simp [readLines, assigned]
    have same : removeLines key [([], none)] = removeLines key (parseEnvLines text) := by
      rw [blank]
      simp [removeLines, assigned]
    rw [readValue, readValue, ← readLines_congr same different, blankRead]
    rfl
  plain := by
    have held := plainLines_sublist whole key
    rw [blank] at held
    have empty : plainLines text = [] := by
      rcases List.sublist_singleton.mp held with none | one
      · exact none
      · have mem : [] ∈ plainLines text := by simp [one, renderLine]
        exact absurd ((nil_mem_plainLines text).mp mem) foreign
    rw [empty]
    exact List.nil_sublist _
  fresh := by
    rw [← assignments_whole whole, elsewhere_assignments key (parseEnvLines text), blank]
    rfl

theorem remove_exact_iff (text key : Text) : RemoveExact text key ↔ WholeLines text ∧ ¬LoneBlank text key := by
  by_cases blank : removeLines key (parseEnvLines text) = [([], none)]
  next =>
    have empty := remove_of_blank blank
    constructor
    next =>
      intro exact
      have none : plainLines text = [] := by
        have plain := exact.keeps.plain
        rw [empty] at plain
        exact List.sublist_nil.mp plain
      refine ⟨fun line mem => absurd (none ▸ mem) List.not_mem_nil, fun lone => ?_⟩
      have mem := (nil_mem_plainLines text).mpr lone.2
      rw [none] at mem
      exact absurd mem List.not_mem_nil
    next =>
      rintro ⟨whole, several⟩
      have keeps := keeps_of_blank whole blank fun mem => several ⟨blank, mem⟩
      refine ⟨?_, ?_, ?_, fun unchanged => readLines_of_absent unchanged⟩
      · rw [empty]
        rfl
      · rw [empty]
        exact keeps
      · rw [empty]
        rfl
  next =>
    have written : Written (remove text key).1 _ := remove_written blank
    constructor
    · exact fun exact => ⟨written.whole exact.keeps.plain, fun lone => blank lone.1⟩
    rintro ⟨whole, -⟩
    refine ⟨?_, written.keeps (removeLines_again key _) whole, ?_, fun unchanged => readLines_of_absent unchanged⟩
    · rw [readValue, written.parsed]
      exact readLines_removeLines key _
    · rw [remove, written.parsed, removeLines_again, remove_again_changes]
      rfl

def escape (char : Char) : Text := if isEscaped char then [backslash, char] else [char]

theorem quoteEnvValue_eq (value : Text) : quoteEnvValue value = doubleQuote :: value.flatMap escape ++ [doubleQuote] := by
  have each : replaceChar backquote [backslash, backquote] (replaceChar dollar [backslash, dollar]
      (replaceChar doubleQuote [backslash, doubleQuote] (replaceChar backslash [backslash, backslash] value))) = value.flatMap escape := by
    induction value with
    | nil => rfl
    | cons char value ih =>
        rw [replaceChar, replaceChar, replaceChar, replaceChar] at ih ⊢
        rw [List.flatMap_cons, List.flatMap_append, List.flatMap_append, List.flatMap_append, ih, List.flatMap_cons]
        congr 1
        by_cases slash : char = backslash
        · rw [slash]
          decide
        by_cases double : char = doubleQuote
        · rw [double]
          decide
        by_cases money : char = dollar
        · rw [money]
          decide
        by_cases back : char = backquote
        · rw [back]
          decide
        simp [escape, isEscaped, slash, double, money, back]
  rw [quoteEnvValue, each]

theorem unescape_cons_of_ne {char : Char} (other : char ≠ backslash) (text : Text) : unescape (char :: text) = char :: unescape text := by
  cases text with
  | nil => rfl
  | cons next text => rw [unescape, if_neg (by simp [other])]

theorem unescape_escape (value : Text) : unescape (value.flatMap escape) = value := by
  induction value with
  | nil => rfl
  | cons char value ih =>
      rw [List.flatMap_cons, escape]
      cases escaped : isEscaped char with
      | true =>
          rw [if_pos rfl, List.cons_append, List.cons_append, List.nil_append, unescape, if_pos (by simp [escaped]), ih]
      | false =>
          have other : char ≠ backslash := by
            rintro rfl
            exact absurd escaped (by decide)
          rw [if_neg Bool.false_ne_true, List.singleton_append, unescape_cons_of_ne other, ih]

theorem clean_quoteEnvValue (clean : Clean isLineBreak value) : Clean isLineBreak (quoteEnvValue value) := by
  rw [quoteEnvValue_eq]
  intro char mem
  rcases List.mem_cons.mp mem with rfl | mem
  · decide
  rcases List.mem_append.mp mem with mem | mem
  · obtain ⟨old, held, mem⟩ := List.mem_flatMap.mp mem
    rw [escape] at mem
    split at mem
    · rcases List.mem_cons.mp mem with rfl | mem
      · decide
      · exact List.mem_singleton.mp mem ▸ clean old held
    · exact List.mem_singleton.mp mem ▸ clean old held
  · rw [List.mem_singleton.mp mem]
    decide

theorem strip_quoteEnvValue (value : Text) : strip (quoteEnvValue value) = quoteEnvValue value := by
  rw [quoteEnvValue_eq, strip, List.cons_append, List.dropWhile_cons_of_neg (by decide), ← List.cons_append,
    List.rdropWhile_concat_neg _ _ _ (by decide)]

theorem unquoted_quoteEnvValue (value : Text) : unquoted (quoteEnvValue value) = value := by
  have first : (quoteEnvValue value).head? = some doubleQuote := by
    rw [quoteEnvValue_eq]
    rfl
  have last : (quoteEnvValue value).getLast? = some doubleQuote := by
    rw [quoteEnvValue_eq]
    exact List.getLast?_concat
  have pair : 2 ≤ (quoteEnvValue value).length := by
    rw [quoteEnvValue_eq]
    simp
  have paired : isQuoted (quoteEnvValue value) = true := by simp [isQuoted, first, last, pair]
  have content : inner (quoteEnvValue value) = value.flatMap escape := by
    rw [quoteEnvValue_eq, inner, List.cons_append, List.drop_succ_cons, List.drop_zero, List.dropLast_concat]
  rw [unquoted, strip_quoteEnvValue]
  simp only [paired, first, content, if_true, beq_self_eq_true]
  exact unescape_escape value

theorem quoted_line_reads (well : WellFormed key) (clean : Clean isLineBreak value) :
    readValue (key ++ equals :: quoteEnvValue value) key = some value := by
  have whole : Clean isLineBreak (key ++ equals :: quoteEnvValue value) := by
    refine well.clean.append fun char mem => ?_
    rcases List.mem_cons.mp mem with rfl | mem
    · decide
    · exact clean_quoteEnvValue clean char mem
  have some : key ++ equals :: quoteEnvValue value ≠ [] := List.append_ne_nil_of_right_ne_nil _ (List.cons_ne_nil _ _)
  have edges : (quoteEnvValue value).rdropWhile isSpace = quoteEnvValue value := rdropWhile_of_strip_eq (strip_quoteEnvValue value)
  rw [readValue, parseEnvLines, splitlines_clean whole some, List.map_singleton, parseEnvLine_assignment well, edges]
  simp [readLines, assigned, unquoted_quoteEnvValue]

instance (text : Text) : Decidable (WholeLines text) :=
  inferInstanceAs (Decidable (∀ line ∈ plainLines text, Clean isLineBreak line))

instance (text key : Text) : Decidable (LoneBlank text key) := inferInstanceAs (Decidable (_ ∧ _))

/-- The edits of one key are exact in the files whose other lines they can keep. -/
theorem one_key_edits_are_exact_iff (text : Text) (well : WellFormed key) (plain : Plain value) :
    (UpsertExact text key value ∧ RemoveExact text key ↔ WholeLines text ∧ ¬LoneBlank text key) ∧
      (UpsertExact text key value ↔ WholeLines text) ∧
      ∀ quoted : Text, Clean isLineBreak quoted → readValue (key ++ equals :: quoteEnvValue quoted) key = some quoted := by
  have upserts := upsert_exact_iff text well plain
  have removes := remove_exact_iff text key
  refine ⟨⟨fun exact => removes.mp exact.2, fun kept => ⟨upserts.mpr kept.1, removes.mpr kept⟩⟩, upserts, ?_⟩
  exact fun quoted clean => quoted_line_reads well clean

def volumeKey : Text := "VOLUME".toList

theorem volumeKey_wellFormed : WellFormed volumeKey := ⟨by decide, by decide, by decide, by decide⟩

theorem loud_plain : Plain "80".toList := ⟨by decide, by decide, by decide⟩

theorem an_edit_keeps_a_commented_file :
    UpsertExact "# level\n\nVOLUME=\"60\"\n".toList volumeKey "80".toList ∧ RemoveExact "# level\n\nVOLUME=\"60\"\n".toList volumeKey :=
  (one_key_edits_are_exact_iff "# level\n\nVOLUME=\"60\"\n".toList volumeKey_wellFormed loud_plain).1.mpr
    ⟨by decide +kernel, by decide +kernel⟩

/-- A comment that holds a vertical tab is broken up, and a lone blank line is lost. -/
theorem a_comment_is_broken_and_a_blank_line_lost :
    ¬UpsertExact "# was\x0bMUTE=1\n".toList volumeKey "80".toList ∧ ¬RemoveExact "\nVOLUME=60\n".toList volumeKey := by
  rw [upsert_exact_iff _ volumeKey_wellFormed loud_plain, remove_exact_iff]
  decide +kernel

end Jts.Env
