import Jts.Env.EnvFile

set_option autoImplicit false

namespace Jts.Env

open Jts.Shared.Lines Jts.Shared.PythonText

variable {key value raw text : Text} {line : ParsedLine}

/-- A key that a line can assign to. -/
structure WellFormed (key : Text) : Prop where
  edges : strip key = key
  plain : equals ∉ key
  uncommented : key.head? ≠ some hash
  clean : Clean isLineBreak key

/-- A value that stands for itself without quotes. -/
structure Plain (value : Text) : Prop where
  edges : strip value = value
  unpaired : isQuoted value = false
  clean : Clean isLineBreak value

theorem rdropWhile_append_cons {α : Type} {drops : α → Bool} {item : α} (stays : drops item = false) (before after : List α) :
    (before ++ item :: after).rdropWhile drops = before ++ item :: after.rdropWhile drops := by
  have ahead (front : List α) : (front ++ item :: before.reverse).dropWhile drops = front.dropWhile drops ++ item :: before.reverse := by
    induction front with
    | nil => rw [List.nil_append, List.dropWhile_cons_of_neg (by simp [stays])]; rfl
    | cons first front ih =>
        cases gone : drops first with
        | true => rw [List.cons_append, List.dropWhile_cons_of_pos gone, List.dropWhile_cons_of_pos gone, ih]
        | false =>
            rw [List.cons_append, List.dropWhile_cons_of_neg (by simp [gone]), List.dropWhile_cons_of_neg (by simp [gone])]
            rfl
  rw [List.rdropWhile, List.reverse_append, List.reverse_cons, List.append_assoc, List.singleton_append, ahead, List.reverse_append,
    List.reverse_cons, List.reverse_reverse, List.append_assoc, List.singleton_append]
  rfl

theorem strip_sublist (text : Text) : (strip text).Sublist text :=
  (List.rdropWhile_prefix isSpace _).sublist.trans (List.dropWhile_sublist _)

theorem dropWhile_strip (text : Text) : (strip text).dropWhile isSpace = strip text := by
  rw [strip]
  cases cut : (text.dropWhile isSpace).rdropWhile isSpace with
  | nil => rfl
  | cons first rest =>
      have head : (text.dropWhile isSpace).head? = some first := by
        obtain ⟨tail, whole⟩ := List.rdropWhile_prefix isSpace (text.dropWhile isSpace)
        rw [← whole, cut]
        rfl
      have stays : isSpace first = false := by
        have kept := List.head?_dropWhile_not isSpace text
        rw [head] at kept
        exact kept
      rw [List.dropWhile_cons_of_neg (by simp [stays])]

theorem strip_of_starts (starts : text.dropWhile isSpace = text) : strip text = text.rdropWhile isSpace := by
  rw [strip, starts]

theorem strip_strip (text : Text) : strip (strip text) = strip text := by
  rw [strip_of_starts (dropWhile_strip text), strip, List.rdropWhile_idempotent]

theorem isSpace_equals : isSpace equals = false := by decide

theorem starts_of_strip_eq (edges : strip text = text) : text.dropWhile isSpace = text := by
  rw [← edges, dropWhile_strip, edges]

theorem starts_append (edges : strip key = key) (value : Text) :
    (key ++ equals :: value).dropWhile isSpace = key ++ equals :: value := by
  cases key with
  | nil => rfl
  | cons first rest =>
      have starts := starts_of_strip_eq edges
      rw [List.dropWhile_eq_self_iff] at starts ⊢
      intro some
      exact starts (Nat.succ_pos _)

theorem strip_assignment (edges : strip key = key) (value : Text) :
    strip (key ++ equals :: value) = key ++ equals :: value.rdropWhile isSpace := by
  rw [strip_of_starts (starts_append edges value), rdropWhile_append_cons isSpace_equals]

theorem parseEnvLine_assignment (well : WellFormed key) (value : Text) :
    parseEnvLine (key ++ equals :: value) = (key, some (value.rdropWhile isSpace)) := by
  have stripped := strip_assignment well.edges value
  have before : ∀ char ∈ key, (char != equals) = true := by
    intro char mem
    have other : char ≠ equals := fun same => well.plain (same ▸ mem)
    simpa using other
  have cut : (key ++ equals :: value.rdropWhile isSpace).takeWhile (· != equals) = key := by
    rw [List.takeWhile_append_of_pos before, List.takeWhile_cons_of_neg (by simp), List.append_nil]
  have rest : (key ++ equals :: value.rdropWhile isSpace).dropWhile (· != equals) = equals :: value.rdropWhile isSpace := by
    rw [List.dropWhile_append_of_pos before, List.dropWhile_cons_of_neg (by simp)]
  have assignment : isAssignment (key ++ equals :: value) = true := by
    have uncommented : (key ++ equals :: value.rdropWhile isSpace).head? ≠ some hash := by
      cases key with
      | nil => exact fun same => absurd (Option.some.inj same) (by decide)
      | cons first rest => exact well.uncommented
    rw [isAssignment, stripped, bne_iff_ne.mpr uncommented]
    simp
  rw [parseEnvLine, if_neg (by simp [assignment]), stripped, cut, rest, well.edges]
  rfl

theorem unquoted_strip (value : Text) : unquoted (strip value) = unquoted value := by
  rw [unquoted, unquoted, strip_strip]

theorem strip_append_spaces {spaces : Text} (blank : ∀ char ∈ spaces, isSpace char = true) (value : Text) :
    strip (value ++ spaces) = strip value := by
  rw [strip, strip, List.dropWhile_append]
  split
  next empty =>
    rw [List.isEmpty_iff.mp empty, List.dropWhile_eq_nil_iff.mpr blank]
  next =>
    rw [List.rdropWhile, List.reverse_append, List.dropWhile_append_of_pos fun char mem => blank char (List.mem_reverse.mp mem)]
    rfl

theorem strip_rdropWhile (value : Text) : strip (value.rdropWhile isSpace) = strip value := by
  have blank : ∀ char ∈ value.rtakeWhile isSpace, isSpace char = true := fun char => List.mem_rtakeWhile_imp
  rw [← strip_append_spaces blank (value.rdropWhile isSpace), List.rdropWhile_append_rtakeWhile]

theorem unquoted_rdropWhile (value : Text) : unquoted (value.rdropWhile isSpace) = unquoted value := by
  rw [← unquoted_strip, strip_rdropWhile, unquoted_strip]

/-- A line that a rendered file gives back. -/
structure Parsed (line : ParsedLine) : Prop where
  same : parseEnvLine (renderLine line) = line
  clean : Clean isLineBreak (renderLine line)

theorem rdropWhile_of_strip_eq (edges : strip value = value) : value.rdropWhile isSpace = value := by
  rw [← strip_of_starts (starts_of_strip_eq edges), edges]

theorem Plain.resolved (plain : Plain value) : unquoted value = value := by
  rw [unquoted, plain.edges]
  simp [plain.unpaired]

theorem parsed_assignment (well : WellFormed key) (edges : value.rdropWhile isSpace = value) (clean : Clean isLineBreak value) :
    Parsed (key, some value) := by
  have same := parseEnvLine_assignment well value
  rw [edges] at same
  refine ⟨same, well.clean.append ?_⟩
  intro char mem
  rcases List.mem_cons.mp mem with rfl | mem
  · decide
  · exact clean char mem

-- An assignment line, cut at its first equals sign.
theorem strip_cut (assigns : isAssignment raw = true) :
    ∃ front back, strip raw = front ++ equals :: back ∧ equals ∉ front ∧ parseEnvLine raw = (strip front, some back) := by
  have mem : equals ∈ strip raw := by
    simp only [isAssignment, Bool.and_eq_true, List.contains_iff_mem] at assigns
    exact assigns.2
  have whole := List.takeWhile_append_dropWhile (p := (· != equals)) (l := strip raw)
  cases cut : (strip raw).dropWhile (· != equals) with
  | nil =>
      have free := List.dropWhile_eq_nil_iff.mp cut equals mem
      simp at free
  | cons first back =>
      have head : first = equals := by
        have kept := List.head?_dropWhile_not (· != equals) (strip raw)
        rw [cut] at kept
        simpa using kept
      rw [cut, head] at whole
      refine ⟨_, back, whole.symm, fun mem => ?_, ?_⟩
      · have other := List.mem_takeWhile_imp mem
        simp at other
      · rw [parseEnvLine, if_neg (by simp [assigns]), cut]
        rfl

theorem head?_of_start {α : Type} {short long : List α} (start : short <+: long) (some : short ≠ []) : short.head? = long.head? := by
  obtain ⟨rest, rfl⟩ := start
  rw [List.head?_append_of_ne_nil _ some]

theorem assignment_of_parse (clean : Clean isLineBreak raw) (parsed : parseEnvLine raw = (key, some value)) :
    WellFormed key ∧ value.rdropWhile isSpace = value ∧ Clean isLineBreak value := by
  have assigns : isAssignment raw = true := by
    by_contra other
    rw [parseEnvLine, if_pos (by simpa using other)] at parsed
    exact absurd (congrArg Prod.snd parsed) nofun
  obtain ⟨front, back, cut, plain, parses⟩ := strip_cut assigns
  obtain ⟨rfl, rest⟩ := Prod.mk.inj (parses.symm.trans parsed)
  obtain rfl := Option.some.inj rest
  have sub : (front ++ equals :: back).Sublist raw := cut ▸ strip_sublist raw
  have starts : (strip raw).dropWhile isSpace = strip raw := dropWhile_strip raw
  have ends : (strip raw).rdropWhile isSpace = strip raw := by
    rw [strip, List.rdropWhile_idempotent]
  rw [cut] at starts ends
  rw [rdropWhile_append_cons isSpace_equals] at ends
  have lead : front.dropWhile isSpace = front := by
    cases front with
    | nil => rfl
    | cons first rest =>
        rw [List.dropWhile_eq_self_iff] at starts ⊢
        intro some
        exact starts (Nat.succ_pos _)
  have short : strip front <+: front := by
    rw [strip_of_starts lead]
    exact List.rdropWhile_prefix isSpace front
  refine ⟨⟨strip_strip front, fun mem => plain (short.subset mem), ?_, ?_⟩, ?_, ?_⟩
  · by_cases empty : strip front = []
    next =>
      rw [empty]
      exact nofun
    next =>
      have uncommented : (strip raw).head? ≠ some hash := by
        simp only [isAssignment, Bool.and_eq_true, bne_iff_ne] at assigns
        exact assigns.1.2
      rw [cut] at uncommented
      rwa [head?_of_start (short.trans (List.prefix_append _ _)) empty]
  · exact clean.of_subset fun char mem => sub.subset (List.mem_append_left _ (short.subset mem))
  · exact List.cons.inj (List.append_cancel_left ends) |>.2
  · exact clean.of_subset fun char mem => sub.subset (List.mem_append_right _ (List.mem_cons_of_mem _ mem))

theorem parseEnvLine_none (kept : (parseEnvLine raw).2 = none) : parseEnvLine raw = (raw, none) := by
  rw [parseEnvLine] at kept ⊢
  split
  · rfl
  next assigns =>
    rw [if_neg assigns] at kept
    exact absurd kept nofun

theorem parsed_of_mem {text : Text} (mem : line ∈ parseEnvLines text) : Parsed line := by
  obtain ⟨raw, read, rfl⟩ := List.mem_map.mp mem
  have clean := clean_of_mem_splitlines read
  cases parsed : parseEnvLine raw with
  | mk key value =>
      cases value with
      | none =>
          have same := parseEnvLine_none (congrArg Prod.snd parsed)
          rw [parsed] at same
          obtain ⟨rfl, -⟩ := Prod.mk.inj same
          exact ⟨parsed, clean⟩
      | some value =>
          obtain ⟨well, edges, valueClean⟩ := assignment_of_parse clean parsed
          exact parsed_assignment well edges valueClean

/-- What a rendered file holds. -/
theorem render_ended {lines : List ParsedLine} (some : lines ≠ []) :
    render lines ++ [newline] = ended newline (lines.map renderLine) := by
  induction lines with
  | nil => exact absurd rfl some
  | cons line lines ih =>
      cases lines with
      | nil => simp [render, ended, List.intercalate]
      | cons next lines =>
          have rest := ih (List.cons_ne_nil _ _)
          rw [render, List.map_cons, List.map_cons, List.intercalate_cons_cons, ended, List.flatMap_cons, ← List.map_cons, ← ended, ← rest]
          simp [render]

theorem parseEnvLines_ended {lines : List ParsedLine} (parsed : ∀ line ∈ lines, Parsed line) :
    parseEnvLines (ended newline (lines.map renderLine)) = lines := by
  have clean : ∀ line ∈ lines.map renderLine, Clean isLineBreak line := by
    intro raw mem
    obtain ⟨line, held, rfl⟩ := List.mem_map.mp mem
    exact (parsed line held).clean
  rw [parseEnvLines, splitlines_ended clean, List.map_map]
  exact (List.map_congr_left fun line mem => (parsed line mem).same).trans (List.map_id _)

end Jts.Env
