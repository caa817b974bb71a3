import Jts.Peering.Rank

set_option autoImplicit false

namespace Jts.Peering

open Shared.PythonJson
open Shared.PythonJson.PyFloat (Double)

section spec

/-- No number of the pool is further above a report than the distance. -/
def Near (value : WakeReport → Double) (eps : ℚ) (pool : List WakeReport) (report : WakeReport) : Prop :=
  (value report).val ≠ .nan ∧ ∀ other ∈ pool, (value other).val ≠ .nan → ((value other).val.minus eps).le (value report).val = true

instance (value : WakeReport → Double) (eps : ℚ) (pool : List WakeReport) : DecidablePred (Near value eps pool) :=
  fun report => inferInstanceAs (Decidable ((value report).val ≠ .nan ∧ ∀ other ∈ pool, (value other).val ≠ .nan → _))

def near (value : WakeReport → Double) (eps : ℚ) (pool : List WakeReport) : List WakeReport :=
  pool.filter fun report => Near value eps pool report

def confident (reports : List WakeReport) : List WakeReport := near WakeReport.confidence confidenceTieEps (servable reports)

def primaries (pool : List WakeReport) : List WakeReport := if pool.any (·.primary) then pool.filter (·.primary) else pool

/-- Who is left when the signals are compared. -/
def preferred (reports : List WakeReport) : List WakeReport := primaries (confident reports)

def loud (reports : List WakeReport) : List WakeReport := near WakeReport.snrOrNegInf snrTieEpsDb (preferred reports)

def loudest (reports : List WakeReport) : List WakeReport := near WakeReport.rmsOrNegInf 0 (loud reports)

/-- Who is left after the last tier that is applied. -/
def decided (reports : List WakeReport) : List WakeReport :=
  if (preferred reports).length < 2 then preferred reports
  else if (loud reports).length < 2 then loud reports
  else loudest reports

/-- A report that is left after each tier that is applied. -/
structure Survives (reports : List WakeReport) (report : WakeReport) : Prop where
  preferred : report ∈ preferred reports
  loud : 2 ≤ (Peering.preferred reports).length → report ∈ loud reports
  loudest : 2 ≤ (Peering.preferred reports).length → 2 ≤ (Peering.loud reports).length → report ∈ loudest reports

/-- The first report of each pool whose signals are compared has a number for it. -/
structure Ordered (reports : List WakeReport) : Prop where
  snr : 2 ≤ (preferred reports).length → ∀ first ∈ (preferred reports).head?, first.snrOrNegInf.val ≠ .nan
  rms : 2 ≤ (preferred reports).length → 2 ≤ (loud reports).length → ∀ first ∈ (loud reports).head?, first.rmsOrNegInf.val ≠ .nan

instance (reports : List WakeReport) : Decidable (Ordered reports) :=
  decidable_of_iff
    ((2 ≤ (preferred reports).length → ∀ first ∈ (preferred reports).head?, first.snrOrNegInf.val ≠ .nan) ∧
      (2 ≤ (preferred reports).length → 2 ≤ (loud reports).length → ∀ first ∈ (loud reports).head?, first.rmsOrNegInf.val ≠ .nan))
    ⟨fun ⟨snr, rms⟩ => ⟨snr, rms⟩, fun ordered => ⟨ordered.snr, ordered.rms⟩⟩

end spec

section tiers

variable {value : WakeReport → Double} {eps : ℚ} {pool : List WakeReport}

theorem mem_near {report : WakeReport} : report ∈ near value eps pool ↔ report ∈ pool ∧ Near value eps pool report := by
  simp [near]

theorem exists_top (number : ∀ first ∈ pool.head?, (value first).val ≠ .nan) (some : pool ≠ []) :
    ∃ report ∈ pool, top value pool = .ok (value report).val ∧ PyFloat.IsTop (pool.map fun report => (value report).val) (value report).val := by
  obtain ⟨first, rest, rfl⟩ := List.exists_cons_of_ne_nil some
  obtain ⟨highest, found, is⟩ := PyFloat.maxOf_isTop (rest.map fun report => (value report).val) (number first rfl)
  rw [← List.map_cons (f := fun report => (value report).val)] at found is
  obtain ⟨report, mem, rfl⟩ := List.mem_map.mp is.mem
  exact ⟨report, mem, found, is⟩

theorem within_eq (number : ∀ first ∈ pool.head?, (value first).val ≠ .nan) (some : pool ≠ []) :
    within value eps pool = .ok (near value eps pool) := by
  obtain ⟨highest, -, found, is⟩ := exists_top number some
  have kept : ∀ report ∈ pool, ((value highest).val.minus eps).le (value report).val = decide (Near value eps pool report) := by
    intro report _
    rw [Bool.eq_iff_iff, decide_eq_true_eq, PyFloat.minus_top_le_iff is eps, Near]
    simp only [List.forall_mem_map]
  rw [within, found]
  exact congrArg Except.ok (List.filter_congr kept)

theorem highest_eq (number : ∀ first ∈ pool.head?, (value first).val ≠ .nan) (some : pool ≠ []) :
    highest value pool = .ok (near value 0 pool) := by
  obtain ⟨highest, -, found, is⟩ := exists_top number some
  have kept : ∀ report ∈ pool, (value report).val.eq (value highest).val = decide (Near value 0 pool report) := by
    intro report mem
    have listed : (value report).val ∈ pool.map fun report => (value report).val := List.mem_map_of_mem mem
    rw [Bool.eq_iff_iff, decide_eq_true_eq, PyFloat.eq_top_iff is (value highest).property listed, PyFloat.minus_top_le_iff is 0, Near]
    simp only [List.forall_mem_map]
  rw [Peering.highest, found]
  exact congrArg Except.ok (List.filter_congr kept)

-- A nan in the first place empties the pool.
theorem top_nan {first : WakeReport} (rest : List WakeReport) (isNan : (value first).val = .nan) : top value (first :: rest) = .ok .nan := by
  rw [top, List.map_cons, isNan, PyFloat.maxOf_nan]

theorem within_nan {first : WakeReport} (rest : List WakeReport) (isNan : (value first).val = .nan) :
    within value eps (first :: rest) = .ok [] := by
  rw [within, top_nan rest isNan]
  simp [PyFloat.minus, PyFloat.le_iff, bind, Except.bind, pure, Except.pure]

theorem highest_nan {first : WakeReport} (rest : List WakeReport) (isNan : (value first).val = .nan) :
    highest value (first :: rest) = .ok [] := by
  rw [highest, top_nan rest isNan]
  simp [PyFloat.eq_iff, PyFloat.le_iff, bind, Except.bind, pure, Except.pure]

theorem near_ne_nil (nonneg : 0 ≤ eps) (number : ∀ first ∈ pool.head?, (value first).val ≠ .nan) (some : pool ≠ []) :
    near value eps pool ≠ [] := by
  obtain ⟨highest, mem, -, is⟩ := exists_top number some
  refine List.ne_nil_of_mem (mem_near.mpr ⟨mem, is.number, fun other there otherNumber => ?_⟩)
  have lowered := PyFloat.minus_le (value other).property otherNumber nonneg
  exact PyFloat.le_trans lowered (is.above _ (List.mem_map_of_mem there) otherNumber)

theorem tier_eq (next : List WakeReport → Except PyError String) (some : pool ≠ []) :
    tier pool next = if pool.length < 2 then leastPeerId pool else next pool := by
  obtain ⟨first, rest, rfl⟩ := List.exists_cons_of_ne_nil some
  cases rest with
  | nil => rfl
  | cons second rest => rw [if_neg (by simp)]; rfl

theorem primaries_ne_nil (some : pool ≠ []) : primaries pool ≠ [] := by
  unfold primaries
  by_cases any : pool.any (·.primary) = true
  · rw [if_pos any]
    obtain ⟨report, mem, primary⟩ := List.any_eq_true.mp any
    exact List.ne_nil_of_mem (List.mem_filter.mpr ⟨mem, primary⟩)
  · rwa [if_neg any]

-- A pool of one is left whole by the tier of the primaries.
theorem tier_primary_eq (next : List WakeReport → Except PyError String) (some : pool ≠ []) :
    tier pool (fun pool => preferPrimary pool next) =
      if (primaries pool).length < 2 then leastPeerId (primaries pool) else next (primaries pool) := by
  have left := primaries_ne_nil some
  obtain ⟨first, rest, rfl⟩ := List.exists_cons_of_ne_nil some
  cases rest with
  | nil =>
      have same : primaries [first] = [first] := by
        cases primary : first.primary <;> simp [primaries, primary]
      rw [same]
      rfl
  | cons second rest =>
      have falls : tier (first :: second :: rest) (fun pool => preferPrimary pool next) = preferPrimary (first :: second :: rest) next := rfl
      rw [falls, preferPrimary]
      by_cases any : (first :: second :: rest).any (·.primary) = true
      · have chosen : primaries (first :: second :: rest) = (first :: second :: rest).filter (·.primary) := if_pos any
        rw [if_pos any, ← chosen, tier_eq next left]
      · have whole : primaries (first :: second :: rest) = first :: second :: rest := if_neg any
        rw [if_neg any, whole, if_neg (by simp)]

theorem servable_ne_nil (some : pool ≠ []) : servable pool ≠ [] := by
  unfold servable
  by_cases any : pool.any (·.canServe) = true
  · rw [if_pos any]
    obtain ⟨report, mem, serves⟩ := List.any_eq_true.mp any
    exact List.ne_nil_of_mem (List.mem_filter.mpr ⟨mem, serves⟩)
  · rwa [if_neg any]

end tiers

section rank

variable {reports : List WakeReport}

theorem confidence_number {pool : List WakeReport} : ∀ first ∈ pool.head?, first.confidence.val ≠ .nan := fun _ _ => nofun

theorem confidenceTieEps_nonneg : 0 ≤ confidenceTieEps := Shared.Floating.Format.nearest_nonneg (by norm_num)

theorem preferred_ne_nil (some : reports ≠ []) : preferred reports ≠ [] := by
  have left : confident reports ≠ [] := near_ne_nil confidenceTieEps_nonneg confidence_number (servable_ne_nil some)
  exact primaries_ne_nil left

theorem rank_compares (some : reports ≠ []) :
    rank reports =
      if (preferred reports).length < 2 then leastPeerId (preferred reports) else rankSignals (preferred reports) := by
  have left : confident reports ≠ [] := near_ne_nil confidenceTieEps_nonneg confidence_number (servable_ne_nil some)
  rw [rank, if_neg some, within_eq confidence_number (servable_ne_nil some)]
  exact tier_primary_eq _ left

theorem loud_ne_nil (some : reports ≠ []) (number : ∀ first ∈ (preferred reports).head?, first.snrOrNegInf.val ≠ .nan) :
    loud reports ≠ [] := near_ne_nil (by norm_num [snrTieEpsDb]) number (preferred_ne_nil some)

theorem rank_eq (some : reports ≠ []) (ordered : Ordered reports) :
    rank reports = leastPeerId (decided reports) ∧ decided reports ≠ [] := by
  rw [rank_compares some, decided]
  by_cases one : (preferred reports).length < 2
  · rw [if_pos one, if_pos one]
    exact ⟨rfl, preferred_ne_nil some⟩
  have snr := ordered.snr (not_lt.mp one)
  have left : loud reports ≠ [] := loud_ne_nil some snr
  rw [if_neg one, if_neg one, rankSignals, within_eq snr (preferred_ne_nil some)]
  change tier (loud reports) _ = _ ∧ _
  rw [tier_eq _ left]
  by_cases two : (loud reports).length < 2
  · rw [if_pos two, if_pos two]
    exact ⟨rfl, left⟩
  have rms := ordered.rms (not_lt.mp one) (not_lt.mp two)
  have last : loudest reports ≠ [] := near_ne_nil (le_refl 0) rms left
  rw [if_neg two, if_neg two, highest_eq rms left]
  change tier (loudest reports) _ = _ ∧ _
  rw [tier_eq _ last, ite_self]
  exact ⟨rfl, last⟩

theorem rank_unordered (some : reports ≠ []) (unordered : ¬ Ordered reports) : rank reports = .error .value := by
  rw [rank_compares some]
  by_cases one : (preferred reports).length < 2
  · exact absurd ⟨fun many => absurd many (not_le.mpr one), fun many => absurd many (not_le.mpr one)⟩ unordered
  rw [if_neg one, rankSignals]
  obtain ⟨first, rest, eq⟩ := List.exists_cons_of_ne_nil (preferred_ne_nil some)
  by_cases snr : first.snrOrNegInf.val = .nan
  · rw [eq, within_nan rest snr]
    rfl
  have numbered : ∀ first ∈ (preferred reports).head?, first.snrOrNegInf.val ≠ .nan := by simpa [eq] using snr
  rw [within_eq numbered (preferred_ne_nil some)]
  change tier (loud reports) _ = _
  have left : loud reports ≠ [] := loud_ne_nil some numbered
  rw [tier_eq _ left]
  by_cases two : (loud reports).length < 2
  · exact absurd ⟨fun _ => numbered, fun _ many => absurd many (not_le.mpr two)⟩ unordered
  rw [if_neg two]
  obtain ⟨first, rest, eq⟩ := List.exists_cons_of_ne_nil left
  by_cases rms : first.rmsOrNegInf.val = .nan
  · rw [eq, highest_nan rest rms]
    rfl
  · exact absurd ⟨fun _ => numbered, fun _ _ => by simpa [eq] using rms⟩ unordered

theorem leastPeerId_eq {pool : List WakeReport} (some : pool ≠ []) : ∃ report ∈ pool, leastPeerId pool = .ok report.peerId := by
  have found : pool.argmin (·.peerId) ≠ none := mt List.argmin_eq_none.mp some
  obtain ⟨report, least⟩ := Option.ne_none_iff_exists'.mp found
  exact ⟨report, List.argmin_mem least, by rw [leastPeerId, least]⟩

theorem near_subset {value : WakeReport → Double} {eps : ℚ} {pool : List WakeReport} : near value eps pool ⊆ pool :=
  fun _ mem => (mem_near.mp mem).1

theorem preferred_subset : preferred reports ⊆ reports := by
  have primaries_subset {pool : List WakeReport} : primaries pool ⊆ pool := by
    unfold primaries
    split
    · exact fun _ mem => List.mem_of_mem_filter mem
    · exact List.Subset.refl _
  have servable_subset : servable reports ⊆ reports := by
    unfold servable
    split
    · exact fun _ mem => List.mem_of_mem_filter mem
    · exact List.Subset.refl _
  exact fun _ mem => servable_subset (near_subset (primaries_subset mem))

theorem mem_decided {report : WakeReport} (mem : report ∈ decided reports) : Survives reports report := by
  unfold decided at mem
  by_cases one : (preferred reports).length < 2
  · rw [if_pos one] at mem
    exact ⟨mem, fun many => absurd many (not_le.mpr one), fun many => absurd many (not_le.mpr one)⟩
  rw [if_neg one] at mem
  by_cases two : (loud reports).length < 2
  · rw [if_pos two] at mem
    exact ⟨near_subset mem, fun _ => mem, fun _ many => absurd many (not_le.mpr two)⟩
  · rw [if_neg two] at mem
    exact ⟨near_subset (near_subset mem), fun _ => near_subset mem, fun _ _ => mem⟩

/-- A survivor wins just when no pool whose signals are compared starts with a nan. -/
theorem rank_survivor_iff (some : reports ≠ []) :
    (∃ report ∈ reports, rank reports = .ok report.peerId ∧ Survives reports report) ↔ Ordered reports := by
  constructor
  · rintro ⟨report, -, wins, -⟩
    by_contra unordered
    exact absurd ((rank_unordered some unordered).symm.trans wins) nofun
  · intro ordered
    obtain ⟨wins, left⟩ := rank_eq some ordered
    obtain ⟨report, mem, least⟩ := leastPeerId_eq left
    exact ⟨report, preferred_subset (mem_decided mem).preferred, wins.trans least, mem_decided mem⟩

/-- A member wins, or the ranking raises. -/
theorem rank_cases (some : reports ≠ []) : (∃ report ∈ reports, rank reports = .ok report.peerId) ∨ rank reports = .error .value := by
  by_cases ordered : Ordered reports
  · obtain ⟨report, mem, wins, -⟩ := (rank_survivor_iff some).mpr ordered
    exact .inl ⟨report, mem, wins⟩
  · exact .inr (rank_unordered some ordered)

theorem preferred_length_le : (preferred reports).length ≤ reports.length := by
  have prefer_le (p : WakeReport → Bool) (pool : List WakeReport) : (if pool.any p then pool.filter p else pool).length ≤ pool.length := by
    split
    · exact List.length_filter_le _ _
    · exact le_rfl
  exact ((prefer_le _ _).trans (List.length_filter_le _ _)).trans (prefer_le _ _)

theorem rank_singleton (report : WakeReport) : rank [report] = .ok report.peerId := by
  have few (many : 2 ≤ (preferred [report]).length) : False := absurd (many.trans preferred_length_le) (by simp)
  have ordered : Ordered [report] := ⟨fun many => (few many).elim, fun many => (few many).elim⟩
  obtain ⟨winner, mem, wins, -⟩ := (rank_survivor_iff (List.cons_ne_nil report [])).mpr ordered
  rw [wins, List.mem_singleton.mp mem]

end rank

end Jts.Peering
