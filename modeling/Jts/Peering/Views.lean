import Jts.Peering.Tiers
import Jts.Peering.Transport

set_option autoImplicit false

namespace Jts.Peering.Transport

open Shared Shared.PythonJson
open Shared.PythonJson.PyFloat (Double double)
open Shared.Floating (binary64)
open Shared.Rounding (roundTo le_roundTo roundTo_le)

/-- A report, and the envelope in which its peer sends it. -/
structure Sent where
  report : WakeReport
  epoch : String
  tsNs : ℤ

def Sent.message (sent : Sent) : Json := wakeMessage sent.epoch sent.report sent.tsNs

/-- A report as a peer has it: its own one as it is, another's as it comes off the wire. -/
def heardBy (python : Python) (peerId : String) (sent : Sent) : Option WakeReport :=
  if sent.report.peerId = peerId then some sent.report
  else
    match decode python (encodeWake python.dumps sent.epoch sent.report sent.tsNs) with
    | .ok (some (.wake _ report _)) => some report
    | _ => none

def view (python : Python) (peerId : String) (sent : List Sent) : List WakeReport := sent.filterMap (heardBy python peerId)

section spec

/-- A score with the digits that the wire keeps is one. -/
def wiredScore (score : Score) : Score where
  val := binary64.nearest (roundTo 4 score.val)
  property := by
    have nonneg : (0 : ℚ) ≤ roundTo 4 score.val := by exact_mod_cast @le_roundTo ℚ _ _ _ _ 4 score.val 0 (by exact_mod_cast score.property.2.1)
    have small : roundTo 4 score.val ≤ 1 := by exact_mod_cast @roundTo_le ℚ _ _ _ _ 4 score.val 1 (by exact_mod_cast score.property.2.2)
    refine ⟨binary64.nearest_nearest _, Floating.Format.nearest_nonneg nonneg, ?_⟩
    exact (Floating.Format.nearest_mono small).trans_eq Score.nearest_one

def wired (report : WakeReport) : WakeReport :=
  { report with
    score := wiredScore report.score
    snrDb := report.snrDb.map (roundFloat 2)
    rmsDbfs := report.rmsDbfs.map (roundFloat 2) }

def seen (peerId : String) (reports : List WakeReport) : List WakeReport :=
  reports.map fun report => if report.peerId = peerId then report else wired report

def peerIds (pool : List WakeReport) : List String := pool.map (·.peerId)

/-- The tiers that are applied leave the same peers. -/
structure Agrees (one other : List WakeReport) : Prop where
  preferred : peerIds (preferred one) = peerIds (preferred other)
  loud : 2 ≤ (Peering.preferred one).length → peerIds (loud one) = peerIds (loud other)
  loudest : 2 ≤ (Peering.preferred one).length → 2 ≤ (Peering.loud one).length → peerIds (loudest one) = peerIds (loudest other)

/-- Every signal that is compared is a number. -/
structure Numbered (reports : List WakeReport) : Prop where
  snr : 2 ≤ (preferred reports).length → ∀ report ∈ preferred reports, report.snrOrNegInf.val ≠ .nan
  rms : 2 ≤ (preferred reports).length → 2 ≤ (loud reports).length → ∀ report ∈ loud reports, report.rmsOrNegInf.val ≠ .nan

/-- The digits that each peer alone has are in the way of no tier. -/
structure Steady (reports : List WakeReport) : Prop where
  agrees : ∀ first ∈ reports, ∀ second ∈ reports, Agrees (seen first.peerId reports) (seen second.peerId reports)
  numbered : ∀ own ∈ reports, Numbered (seen own.peerId reports)

instance (one other : List WakeReport) : Decidable (Agrees one other) :=
  decidable_of_iff
    (peerIds (preferred one) = peerIds (preferred other) ∧
      (2 ≤ (preferred one).length → peerIds (loud one) = peerIds (loud other)) ∧
      (2 ≤ (preferred one).length → 2 ≤ (loud one).length → peerIds (loudest one) = peerIds (loudest other)))
    ⟨fun ⟨preferred, loud, loudest⟩ => ⟨preferred, loud, loudest⟩, fun agrees => ⟨agrees.preferred, agrees.loud, agrees.loudest⟩⟩

instance (reports : List WakeReport) : Decidable (Numbered reports) :=
  decidable_of_iff
    ((2 ≤ (preferred reports).length → ∀ report ∈ preferred reports, report.snrOrNegInf.val ≠ .nan) ∧
      (2 ≤ (preferred reports).length → 2 ≤ (loud reports).length → ∀ report ∈ loud reports, report.rmsOrNegInf.val ≠ .nan))
    ⟨fun ⟨snr, rms⟩ => ⟨snr, rms⟩, fun numbered => ⟨numbered.snr, numbered.rms⟩⟩

instance (reports : List WakeReport) : Decidable (Steady reports) :=
  decidable_of_iff
    ((∀ first ∈ reports, ∀ second ∈ reports, Agrees (seen first.peerId reports) (seen second.peerId reports)) ∧
      ∀ own ∈ reports, Numbered (seen own.peerId reports))
    ⟨fun ⟨agrees, numbered⟩ => ⟨agrees, numbered⟩, fun steady => ⟨steady.agrees, steady.numbered⟩⟩

end spec

section wire

variable {python : Python}

theorem clamp_float (score : Score) : Score.clamp score.float = score := by
  refine Subtype.ext ?_
  change max 0 (min 1 score.val) = score.val
  rw [min_eq_right score.property.2.2, max_eq_right score.property.2.1]

theorem roundFloat_score (score : Score) : roundFloat 4 score.float = (wiredScore score).float := by
  refine Subtype.ext ?_
  have below : |binary64.nearest (roundTo 4 score.val)| < 2 ^ 1024 := by
    rw [abs_of_nonneg (show 0 ≤ binary64.nearest (roundTo 4 score.val) from (wiredScore score).property.2.1)]
    exact (wiredScore score).property.2.2.trans_lt (one_lt_pow₀ (by norm_num) (by norm_num))
  exact PyFloat.ofRat_of_lt below

theorem decode_message {message : List (String × Json)} (reads : python.loads (python.dumps (.dict message)) = .ok (.dict message)) :
    decode python (encode python.dumps (.dict message)) = decodeObject python message := by
  rw [decode, encode, fromUTF8?_toUTF8]
  dsimp only
  rw [reads]

theorem double_val (value : Double) : double value.val = value := Subtype.ext value.property

theorem asFloat_measure (value : Option Double) : asFloat python (measure value) = value.map (roundFloat 2) := by
  cases value with
  | none => rfl
  | some value => exact congrArg some (double_val _)

theorem truthy_flag (value : Bool) : truthy (flag value) = value := by cases value <;> rfl

/-- The wire keeps a report up to its digits. -/
theorem decode_encodeWake (epoch : String) (report : WakeReport) (tsNs : ℤ)
    (reads : python.loads (python.dumps (wakeMessage epoch report tsNs)) = .ok (wakeMessage epoch report tsNs)) :
    decode python (encodeWake python.dumps epoch report tsNs) = .ok (some (.wake epoch (wired report) tsNs)) := by
  have score : Score.clamp (double (roundFloat 4 report.score.float).val) = wiredScore report.score := by
    rw [double_val, roundFloat_score, clamp_float]
  have read : decode python (encodeWake python.dumps epoch report tsNs) =
      .ok (some (.wake epoch
        { peerId := report.peerId
          score := .clamp (double (roundFloat 4 report.score.float).val)
          snrDb := asFloat python (measure report.snrDb)
          rmsDbfs := asFloat python (measure report.rmsDbfs)
          primary := truthy (flag report.primary)
          canServe := truthy (flag report.canServe) } tsNs)) := by
    rw [encodeWake, wakeMessage, envelope, decode_message reads]
    rfl
  rw [read, score, asFloat_measure, asFloat_measure, truthy_flag, truthy_flag]
  rfl

theorem heardBy_eq (peerId : String) (sent : Sent) (reads : python.loads (python.dumps sent.message) = .ok sent.message) :
    heardBy python peerId sent = some (if sent.report.peerId = peerId then sent.report else wired sent.report) := by
  unfold heardBy
  by_cases own : sent.report.peerId = peerId
  · rw [if_pos own, if_pos own]
  · rw [if_neg own, if_neg own, decode_encodeWake _ _ _ reads]

theorem view_eq (peerId : String) (sent : List Sent) (reads : ∀ report ∈ sent, python.loads (python.dumps report.message) = .ok report.message) :
    view python peerId sent = seen peerId (sent.map Sent.report) := by
  induction sent with
  | nil => rfl
  | cons first sent ih =>
      have rest : view python peerId sent = seen peerId (sent.map Sent.report) :=
        ih fun report mem => reads report (List.mem_cons_of_mem _ mem)
      rw [view, List.filterMap_cons, heardBy_eq peerId first (reads first List.mem_cons_self)]
      exact congrArg (_ :: ·) rest

end wire

section order

variable {one other : List WakeReport} {value : WakeReport → Double} {eps : ℚ}

theorem near_perm (same : one.Perm other) : (near value eps one).Perm (near value eps other) := by
  have kept : near value eps one = one.filter fun report => Near value eps other report := by
    refine List.filter_congr fun report _ => decide_eq_decide.mpr ?_
    simp only [Near, same.mem_iff]
  rw [kept]
  exact same.filter _

theorem prefer_perm (p : WakeReport → Bool) (same : one.Perm other) :
    (if one.any p then one.filter p else one).Perm (if other.any p then other.filter p else other) := by
  rw [same.any_eq]
  split
  · exact same.filter p
  · exact same

theorem preferred_perm (same : one.Perm other) : (preferred one).Perm (preferred other) :=
  prefer_perm (·.primary) (near_perm (prefer_perm (·.canServe) same))

theorem loud_perm (same : one.Perm other) : (loud one).Perm (loud other) := near_perm (preferred_perm same)

theorem loudest_perm (same : one.Perm other) : (loudest one).Perm (loudest other) := near_perm (loud_perm same)

theorem decided_perm (same : one.Perm other) : (decided one).Perm (decided other) := by
  rw [decided, decided, (preferred_perm same).length_eq, (loud_perm same).length_eq]
  split
  · exact preferred_perm same
  · split
    · exact loud_perm same
    · exact loudest_perm same

theorem Numbered.ordered (numbered : Numbered other) (same : one.Perm other) : Ordered one := by
  have first {pool : List WakeReport} {report : WakeReport} (head : report ∈ pool.head?) : report ∈ pool := List.mem_of_mem_head? head
  constructor
  · intro many report head
    rw [(preferred_perm same).length_eq] at many
    exact numbered.snr many report ((preferred_perm same).mem_iff.mp (first head))
  · intro many left report head
    rw [(preferred_perm same).length_eq] at many
    rw [(loud_perm same).length_eq] at left
    exact numbered.rms many left report ((loud_perm same).mem_iff.mp (first head))

-- What is kept of a list keeps its place in it.
theorem head?_filter {p : WakeReport → Bool} {pool : List WakeReport} {report : WakeReport} (head : pool.head? = some report)
    (kept : report ∈ pool.filter p) : (pool.filter p).head? = some report := by
  cases pool with
  | nil => cases head
  | cons first rest =>
      obtain rfl := Option.some.inj head
      rw [List.filter_cons_of_pos (List.mem_filter.mp kept).2]
      rfl

theorem head?_prefer {p : WakeReport → Bool} {pool : List WakeReport} {report : WakeReport} (head : pool.head? = some report)
    (kept : report ∈ if pool.any p then pool.filter p else pool) : (if pool.any p then pool.filter p else pool).head? = some report := by
  split at kept
  · rename_i any
    rw [if_pos any]
    exact head?_filter head kept
  · rename_i none
    rwa [if_neg none]

theorem mem_of_mem_prefer {p : WakeReport → Bool} {pool : List WakeReport} {report : WakeReport}
    (kept : report ∈ if pool.any p then pool.filter p else pool) : report ∈ pool := by
  split at kept
  · exact List.mem_of_mem_filter kept
  · exact kept

theorem head?_preferred {reports : List WakeReport} {report : WakeReport} (head : reports.head? = some report)
    (mem : report ∈ preferred reports) : (preferred reports).head? = some report := by
  have confided : report ∈ confident reports := mem_of_mem_prefer mem
  have served : report ∈ servable reports := near_subset confided
  exact head?_prefer (head?_filter (head?_prefer head served) confided) mem

-- Whatever report of a pool has no number, some order puts it first.
theorem numbered_of_ordered {reports : List WakeReport} (ordered : ∀ list : List WakeReport, list.Perm reports → Ordered list) :
    Numbered reports := by
  constructor
  · intro many report mem
    have there : report ∈ reports := preferred_subset mem
    have same : (report :: reports.erase report).Perm reports := (List.perm_cons_erase there).symm
    have first := @head?_preferred (report :: reports.erase report) _ rfl ((preferred_perm same).mem_iff.mpr mem)
    exact (ordered _ same).snr (by rwa [(preferred_perm same).length_eq]) report first
  · intro many left report mem
    have there : report ∈ reports := preferred_subset (near_subset mem)
    have same : (report :: reports.erase report).Perm reports := (List.perm_cons_erase there).symm
    have first := @head?_preferred (report :: reports.erase report) _ rfl ((preferred_perm same).mem_iff.mpr (near_subset mem))
    have last := head?_filter first ((loud_perm same).mem_iff.mpr mem)
    exact (ordered _ same).rms (by rwa [(preferred_perm same).length_eq]) (by rwa [(loud_perm same).length_eq]) report last

end order

section agree

variable {one other : List WakeReport}

theorem leastPeerId_isLeast {pool : List WakeReport} (some : pool ≠ []) :
    ∃ peerId, leastPeerId pool = .ok peerId ∧ IsLeast {id | id ∈ peerIds pool} peerId := by
  have found : pool.argmin (·.peerId) ≠ none := mt List.argmin_eq_none.mp some
  obtain ⟨report, least⟩ := Option.ne_none_iff_exists'.mp found
  refine ⟨report.peerId, by rw [leastPeerId, least], List.mem_map_of_mem (List.argmin_mem least), ?_⟩
  rintro id mem
  obtain ⟨other, there, rfl⟩ := List.mem_map.mp mem
  exact List.le_of_mem_argmin there least

-- Only the ids of a pool say which of them is the least.
theorem leastPeerId_congr (some : one ≠ []) (same : ∀ id, id ∈ peerIds one ↔ id ∈ peerIds other) :
    leastPeerId one = leastPeerId other := by
  obtain ⟨first, found, least⟩ := leastPeerId_isLeast some
  have left : other ≠ [] := by
    obtain ⟨report, mem, -⟩ := List.mem_map.mp ((same first).mp least.1)
    exact List.ne_nil_of_mem mem
  obtain ⟨second, again, lowest⟩ := leastPeerId_isLeast left
  have eq : first = second := least.unique ⟨(same second).mpr lowest.1, fun id mem => lowest.2 ((same id).mp mem)⟩
  rw [found, again, eq]

theorem Agrees.decided (agrees : Agrees one other) : peerIds (decided one) = peerIds (decided other) := by
  have counts {first second : List WakeReport} (same : peerIds first = peerIds second) : first.length = second.length := by
    simpa [peerIds] using congrArg List.length same
  have preferred := counts agrees.preferred
  unfold Peering.decided
  rw [← preferred]
  by_cases few : (Peering.preferred one).length < 2
  · rw [if_pos few, if_pos few]
    exact agrees.preferred
  have many := not_lt.mp few
  have loud := counts (agrees.loud many)
  rw [if_neg few, if_neg few, ← loud]
  by_cases left : (Peering.loud one).length < 2
  · rw [if_pos left, if_pos left]
    exact agrees.loud many
  · rw [if_neg left, if_neg left]
    exact agrees.loudest many (not_lt.mp left)

-- In any order, tiers that leave the same peers have the same winner.
theorem rank_agrees {list : List WakeReport} (some : one ≠ []) (numbered : Numbered one) (agrees : Agrees one other)
    (same : list.Perm one) : rank list = leastPeerId (decided other) ∧ ∃ winner, rank list = .ok winner := by
  have listed : list ≠ [] := fun none => some (List.nil_perm.mp (none ▸ same))
  obtain ⟨wins, left⟩ := rank_eq listed (numbered.ordered same)
  obtain ⟨report, -, least⟩ := leastPeerId_eq left
  refine ⟨wins.trans (leastPeerId_congr left fun id => ?_), report.peerId, wins.trans least⟩
  rw [← agrees.decided]
  exact ((decided_perm same).map _).mem_iff

theorem rank_numbered_iff (some : one ≠ []) : (∀ list : List WakeReport, list.Perm one → ∃ winner, rank list = .ok winner) ↔ Numbered one := by
  constructor
  · intro wins
    refine numbered_of_ordered fun list same => ?_
    have listed : list ≠ [] := fun none => some (List.nil_perm.mp (none ▸ same))
    by_contra unordered
    obtain ⟨winner, eq⟩ := wins list same
    exact absurd ((rank_unordered listed unordered).symm.trans eq) nofun
  · intro numbered list same
    exact (rank_agrees some numbered ⟨rfl, fun _ => rfl, fun _ _ => rfl⟩ same).2

end agree

section peers

variable {python : Python} {sent : List Sent}

theorem seen_ne_nil {reports : List WakeReport} (peerId : String) (some : reports ≠ []) : seen peerId reports ≠ [] := by
  simpa [seen] using some

/-- A list of reports has a surviving winner just when no pool that is compared starts with a nan; and peers whose own digits are in the
way of no tier have one winner, in any order of their lists. -/
theorem peers_agree (python : Python) (sent : List Sent)
    (reads : ∀ report ∈ sent, python.loads (python.dumps report.message) = .ok report.message) :
    (∀ reports : List WakeReport, reports ≠ [] →
      ((∃ report ∈ reports, rank reports = .ok report.peerId ∧ Survives reports report) ↔ Ordered reports)) ∧
      (∀ own ∈ sent,
        ((∀ list : List WakeReport, list.Perm (view python own.report.peerId sent) → ∃ winner, rank list = .ok winner) ↔
          Numbered (seen own.report.peerId (sent.map Sent.report)))) ∧
      (Steady (sent.map Sent.report) →
        ∀ first ∈ sent, ∀ second ∈ sent, ∀ one other : List WakeReport, one.Perm (view python first.report.peerId sent) →
          other.Perm (view python second.report.peerId sent) → ∃ winner, rank one = .ok winner ∧ rank other = .ok winner) := by
  have reports {own : Sent} (mem : own ∈ sent) : sent.map Sent.report ≠ [] := by
    simpa using List.ne_nil_of_mem mem
  refine ⟨fun reports some => rank_survivor_iff some, ?_, ?_⟩
  · intro own mem
    rw [view_eq _ sent reads]
    exact rank_numbered_iff (seen_ne_nil _ (reports mem))
  · intro steady first mem second there one other same others
    rw [view_eq _ sent reads] at same others
    have owns : first.report ∈ sent.map Sent.report := List.mem_map_of_mem mem
    have peers : second.report ∈ sent.map Sent.report := List.mem_map_of_mem there
    have left := seen_ne_nil first.report.peerId (reports mem)
    obtain ⟨eq, winner, wins⟩ := rank_agrees left (steady.numbered _ owns) (steady.agrees _ owns _ owns) same
    have again := (rank_agrees (seen_ne_nil _ (reports there)) (steady.numbered _ peers) (steady.agrees _ peers _ owns) others).1
    exact ⟨winner, wins, (again.trans eq.symm).trans wins⟩

end peers

section samples

def wakeLine (peerId score snr : String) : String :=
  "\x7b\"t\":\"WAKE\",\"proto\":1,\"peer\":\"" ++ peerId ++ "\",\"ts\":1,\"epoch\":\"e\",\"score\":" ++ score ++
    ",\"snr_db\":" ++ snr ++ ",\"rms_dbfs\":null,\"primary\":0,\"can_serve\":1\x7d"

def sample (peerId : String) (score : ℚ) (snrDb : PyFloat) : Sent where
  report := ⟨peerId, .clamp (double (.finite score)), some (double snrDb), none, false, true⟩
  epoch := "e"
  tsNs := 1

/-- Python, as far as two messages and their lines go. -/
def samplePython (first second : Sent) (firstLine secondLine : String) : Python where
  dumps := fun message =>
    match message with
    | .dict fields => if equalsStr first.report.peerId (PythonJson.get fields "peer") then firstLine else secondLine
    | _ => ""
  loads := fun text => if text = firstLine then .ok first.message else if text = secondLine then .ok second.message else .error .decode
  str := fun _ => .ok ""
  floatOfText := fun _ => none
  intOfText := fun _ => none

theorem samplePython_reads {first second : Sent} {firstLine secondLine : String} (peers : first.report.peerId ≠ second.report.peerId)
    (lines : firstLine ≠ secondLine) (sent : Sent) (mem : sent ∈ [first, second]) :
    (samplePython first second firstLine secondLine).loads ((samplePython first second firstLine secondLine).dumps sent.message) =
      .ok sent.message := by
  obtain rfl | rfl : sent = first ∨ sent = second := by simpa using mem
  · simp [samplePython, Sent.message, wakeMessage, envelope, PythonJson.get, field, equalsStr]
  · simp [samplePython, Sent.message, wakeMessage, envelope, PythonJson.get, field, equalsStr, peers.symm, lines.symm]

def sharp : Sent := sample "a" (90004 / 100000) (.finite 10)

def dull : Sent := sample "b" (85002 / 100000) (.finite 20)

def sharpAndDull : Python := samplePython sharp dull (wakeLine "a" "0.9" "10.0") (wakeLine "b" "0.85" "20.0")

def edge : Sent := sample "a" (5005999999999999 / 10000000000000000) (.finite 10)

def inside : Sent := sample "b" (4506 / 10000) (.finite 20)

def edgeAndInside : Python := samplePython edge inside (wakeLine "a" "0.5006" "10.0") (wakeLine "b" "0.4506" "20.0")

/-- Each of two peers takes itself for the winner, or each the other; and a nan that comes first makes the ranking raise. -/
theorem each_wins :
    (rank (view sharpAndDull "a" [sharp, dull]) = .ok "a" ∧ rank (view sharpAndDull "b" [sharp, dull]) = .ok "b") ∧
      (rank (view edgeAndInside "a" [edge, inside]) = .ok "b" ∧ rank (view edgeAndInside "b" [edge, inside]) = .ok "a") ∧
      rank [(sample "a" (9 / 10) .nan).report, (sample "b" (9 / 10) (.finite 20)).report] = .error .value := by
  have reads : ∀ report ∈ [sharp, dull], sharpAndDull.loads (sharpAndDull.dumps report.message) = .ok report.message :=
    samplePython_reads (by decide) (by decide +kernel)
  have edges : ∀ report ∈ [edge, inside], edgeAndInside.loads (edgeAndInside.dumps report.message) = .ok report.message :=
    samplePython_reads (by decide) (by decide +kernel)
  rw [view_eq "a" _ reads, view_eq "b" _ reads, view_eq "a" _ edges, view_eq "b" _ edges]
  decide +kernel

def soft : Sent := sample "a" (9 / 10) (.finite 10)

def loudPeer : Sent := sample "b" (9 / 10) (.finite 20)

def softAndLoud : Python := samplePython soft loudPeer (wakeLine "a" "0.9" "10.0") (wakeLine "b" "0.9" "20.0")

theorem soft_and_loud_agree :
    (∀ report ∈ [soft, loudPeer], softAndLoud.loads (softAndLoud.dumps report.message) = .ok report.message) ∧
      (∃ report ∈ [soft.report, loudPeer.report],
        rank [soft.report, loudPeer.report] = .ok report.peerId ∧ Survives [soft.report, loudPeer.report] report) ∧
      ∃ winner, rank [soft.report, wired loudPeer.report] = .ok winner ∧ rank [loudPeer.report, wired soft.report] = .ok winner := by
  have reads : ∀ report ∈ [soft, loudPeer], softAndLoud.loads (softAndLoud.dumps report.message) = .ok report.message :=
    samplePython_reads (by decide) (by decide +kernel)
  obtain ⟨survives, -, agree⟩ := peers_agree softAndLoud [soft, loudPeer] reads
  have ordered : Ordered [soft.report, loudPeer.report] :=
    ⟨fun _ => by decide +kernel, fun _ many => absurd many (by decide +kernel)⟩
  refine ⟨reads, (survives _ (List.cons_ne_nil _ _)).mpr ordered, ?_⟩
  refine agree (by decide +kernel) soft (by simp) loudPeer (by simp) _ _ ?_ ?_
  · rw [view_eq _ _ reads]
    exact List.Perm.refl _
  · rw [view_eq _ _ reads]
    exact List.Perm.swap _ _ _

end samples

end Jts.Peering.Transport
