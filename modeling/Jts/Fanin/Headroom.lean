import Jts.Fanin.LaneFade
import Jts.Shared.RaisedCosine

set_option autoImplicit false

namespace Jts.Fanin

open Jts.Shared.RaisedCosine

namespace Frame

-- The louder of the two channels.
noncomputable def level (frame : Frame ℝ) : ℝ := max |frame.left| |frame.right|

theorem level_nonneg (frame : Frame ℝ) : 0 ≤ frame.level := le_max_of_le_left (abs_nonneg _)

theorem level_scaled (frame : Frame ℝ) {gain : ℝ} (nonneg : 0 ≤ gain) : (frame.scaled gain).level = frame.level * gain := by
  simp only [level, scaled, abs_mul, abs_of_nonneg nonneg]
  exact (max_mul_of_nonneg _ _ nonneg).symm

theorem scaled_one (frame : Frame ℝ) : frame.scaled 1 = frame := by simp [scaled]

theorem level_silent {frame : Frame ℝ} (silent : frame.isSilent = true) : frame.level = 0 := by
  simp only [isSilent, Bool.and_eq_true, decide_eq_true_eq] at silent
  simp [level, silent]

@[simp] theorem level_silentFrame : (silentFrame : Frame ℝ).level = 0 := by simp [silentFrame, level]

end Frame

namespace LaneFade

variable {fade : LaneFade} {period : List (Frame ℝ)} {periodFrames : ℕ} {contributes : Bool}

theorem observe_keeps (fade : LaneFade) (period : List (Frame ℝ)) (periodFrames : ℕ) :
    (fade.observe period periodFrames).1.selectPos = fade.selectPos ∧
      (fade.observe period periodFrames).1.rampFrames = fade.rampFrames ∧
      (fade.observe period periodFrames).1.enabled = fade.enabled := by
  rw [observe]
  split
  · exact ⟨rfl, rfl, rfl⟩
  split
  · exact ⟨rfl, rfl, rfl⟩
  · split <;> exact ⟨rfl, rfl, rfl⟩

-- A period without content is silent throughout.
theorem observe_silent (period : List (Frame ℝ)) (periodFrames : ℕ) (on : fade.enabled = true)
    (empty : (fade.observe period periodFrames).1.periodHadContent = false) :
    ∀ frame ∈ period, frame.isSilent = true := by
  rw [observe, if_neg (by simp [on])] at empty
  split at empty
  next none =>
    intro frame among
    simpa using List.findIdx?_eq_none_iff.mp none frame among
  next => split at empty <;> exact absurd empty nofun

theorem shapeFrames_level (n pos : ℕ) (frames : List (Frame ℝ)) (index : ℕ) :
    ((shapeFrames windowGain n pos frames).1.getD index silentFrame).level ≤ (frames.getD index silentFrame).level := by
  induction frames generalizing pos index with
  | nil => exact le_rfl
  | cons frame frames ih =>
    rw [shapeFrames]
    split
    next => exact le_rfl
    next =>
      cases index with
      | zero =>
        simp only [List.getD_cons_zero]
        rw [Frame.level_scaled _ (windowGain_nonneg _ _)]
        exact mul_le_of_le_one_right frame.level_nonneg (windowGain_le_one _ _)
      | succ index => simpa only [List.getD_cons_succ] using ih (pos + 1) index

theorem append_level (start : List (Frame ℝ)) {shaped frames : List (Frame ℝ)}
    (softer : ∀ index, (shaped.getD index silentFrame).level ≤ (frames.getD index silentFrame).level) (index : ℕ) :
    ((start ++ shaped).getD index silentFrame).level ≤ ((start ++ frames).getD index silentFrame).level := by
  induction start generalizing index with
  | nil => exact softer index
  | cons frame start ih =>
    cases index with
    | zero => exact le_rfl
    | succ index => exact ih index

theorem shape_level (fade : LaneFade) (period : List (Frame ℝ)) (startFrame done index : ℕ) :
    ((fade.shape windowGain period startFrame done).1.getD index silentFrame).level ≤ (period.getD index silentFrame).level := by
  have shaped := append_level (period.take startFrame) (shapeFrames_level fade.rampFrames done (period.drop startFrame)) index
  rwa [List.take_append_drop] at shaped

/-- The wake window leaves the selection as it is, and makes no frame louder. -/
theorem applyWake_keeps (fade : LaneFade) (period : List (Frame ℝ)) :
    (fade.applyWake windowGain period).2.selectPos = fade.selectPos ∧
      (fade.applyWake windowGain period).2.rampFrames = fade.rampFrames ∧
      (fade.applyWake windowGain period).2.enabled = fade.enabled ∧
      (fade.applyWake windowGain period).2.periodHadContent = fade.periodHadContent ∧
      ∀ index, ((fade.applyWake windowGain period).1.getD index silentFrame).level ≤ (period.getD index silentFrame).level := by
  rw [applyWake]
  split
  · exact ⟨rfl, rfl, rfl, rfl, fun _ => le_rfl⟩
  cases fade.state with
  | idle => exact ⟨rfl, rfl, rfl, rfl, fun _ => le_rfl⟩
  | pending onset => exact ⟨rfl, rfl, rfl, rfl, fun _ => shape_level _ _ _ _ _⟩
  | running done => exact ⟨rfl, rfl, rfl, rfl, fun _ => shape_level _ _ _ _ _⟩

theorem advanced_zero {pos : ℕ} (placed : pos ≤ fade.rampFrames) (contributes : Bool) : fade.advanced pos 0 contributes = pos := by
  cases contributes <;> simp [advanced, placed]

theorem advanced_add {pos : ℕ} (first second : ℕ) (contributes : Bool) :
    fade.advanced (fade.advanced pos first contributes) second contributes = fade.advanced pos (first + second) contributes := by
  cases contributes <;> simp only [advanced, if_true, Bool.false_eq_true, if_false] <;> omega

theorem selectFrames_getD {pos : ℕ} (placed : pos ≤ fade.rampFrames) (contributes : Bool) (frames : List (Frame ℝ)) (index : ℕ) :
    (fade.selectFrames windowGain contributes pos frames).getD index silentFrame =
      (frames.getD index silentFrame).scaled (windowGain (fade.advanced pos index contributes) fade.rampFrames) := by
  induction frames generalizing pos index with
  | nil => simp [selectFrames, silentFrame, Frame.scaled]
  | cons frame frames ih =>
    rw [selectFrames]
    split
    next full =>
      simp only [Bool.and_eq_true, decide_eq_true_eq] at full
      have stays : fade.advanced pos index contributes = fade.rampFrames := by
        simp only [advanced, full, if_true]
        omega
      rw [stays, windowGain_full fade.total, Frame.scaled_one]
    next =>
      cases index with
      | zero =>
        rw [advanced_zero placed]
        simp only [List.getD_cons_zero]
        split
        next out => rw [out, windowGain_zero]
        next => rfl
      | succ index =>
        simp only [List.getD_cons_succ]
        rw [ih (fade.advanced_le placed 1 contributes) index, advanced_add, Nat.add_comm 1 index]

/-- Where the selection window stands after a period: a lane that rises holds it through one without content. -/
theorem shapePeriod_selectPos (on : fade.enabled = true) (period : List (Frame ℝ)) (periodFrames : ℕ) (contributes : Bool) :
    (fade.shapePeriod windowGain period periodFrames contributes).2.2.selectPos =
      if contributes = true ∧ fade.periodHadContent = false then fade.selectPos
      else fade.advanced fade.selectPos periodFrames contributes := by
  obtain ⟨position, length, -, content, -⟩ := fade.applyWake_keeps period
  have placed := fade.placed
  rw [shapePeriod, if_neg (by simp [on])]
  split
  next out =>
    simp only [Bool.and_eq_true, Bool.not_eq_true', decide_eq_true_eq] at out
    simp [advanced, out]
  next =>
    simp only [applySelect, position, length, content]
    split
    next holds =>
      simp only [Bool.and_eq_true, Bool.or_eq_true, decide_eq_true_eq, Bool.not_eq_true'] at holds
      rw [position]
      split
      next => rfl
      next full =>
        have full : fade.selectPos = fade.rampFrames := holds.2.resolve_right fun empty => full ⟨holds.1, empty⟩
        simp only [advanced, holds.1, if_true]
        omega
    next moves =>
      rw [if_neg fun empty => moves (by simp [empty])]
      simp only [advanced, length]

theorem shapePeriod_keeps (fade : LaneFade) (period : List (Frame ℝ)) (periodFrames : ℕ) (contributes : Bool) :
    (fade.shapePeriod windowGain period periodFrames contributes).2.2.rampFrames = fade.rampFrames ∧
      (fade.shapePeriod windowGain period periodFrames contributes).2.2.enabled = fade.enabled := by
  obtain ⟨-, length, on, -, -⟩ := fade.applyWake_keeps period
  rw [shapePeriod]
  split
  · exact ⟨rfl, rfl⟩
  split
  · exact ⟨rfl, rfl⟩
  · dsimp only
    rw [applySelect]
    split
    · exact ⟨length, on⟩
    · exact ⟨length, on⟩

end LaneFade

section Lanes

variable {ι : Type} {fades : ι → LaneFade} {round : Round ι ℝ} {periodFrames : ℕ} {lane : ι}

theorem selectionGain_nonneg (fades : ι → LaneFade) (round : Round ι ℝ) (periodFrames : ℕ) (lane : ι) (frame : ℕ) :
    0 ≤ selectionGain windowGain periodFrames fades round lane frame := by
  rw [selectionGain]
  split
  · exact windowGain_nonneg _ _
  · exact le_rfl

theorem selectionGain_le (fades : ι → LaneFade) (round : Round ι ℝ) (periodFrames : ℕ) (lane : ι) (frame : ℕ) :
    selectionGain windowGain periodFrames fades round lane frame ≤
      windowGain ((fades lane).advanced (fades lane).selectPos frame (round.contributes lane)) (fades lane).rampFrames := by
  obtain ⟨position, length, -⟩ := (fades lane).observe_keeps (round.periods lane) periodFrames
  rw [selectionGain]
  split
  · rw [position, length]
    simp only [LaneFade.advanced, length]
    exact le_rfl
  · exact windowGain_nonneg _ _

theorem mixLanes_selectPos (on : (fades lane).enabled = true) :
    (mixLanes windowGain periodFrames fades round lane).selectPos =
      if round.contributes lane = true ∧ ((fades lane).observe (round.periods lane) periodFrames).1.periodHadContent = false
      then (fades lane).selectPos
      else (fades lane).advanced (fades lane).selectPos periodFrames (round.contributes lane) := by
  obtain ⟨position, length, same⟩ := (fades lane).observe_keeps (round.periods lane) periodFrames
  rw [mixLanes, mixLane, LaneFade.shapePeriod_selectPos (same.trans on), position]
  simp only [LaneFade.advanced, length]

/-- What a lane adds to the sum is its own frame, made softer by the gain of the selection. -/
theorem added_level (on : (fades lane).enabled = true) (frame : ℕ) :
    (added windowGain periodFrames fades round lane frame).level ≤
      ((round.periods lane).getD frame silentFrame).level * selectionGain windowGain periodFrames fades round lane frame := by
  obtain ⟨-, -, same⟩ := (fades lane).observe_keeps (round.periods lane) periodFrames
  have covers := mul_nonneg (Frame.level_nonneg ((round.periods lane).getD frame silentFrame))
    (selectionGain_nonneg fades round periodFrames lane frame)
  have silent := LaneFade.observe_silent (round.periods lane) periodFrames on
  rw [added, mixLane]
  rw [selectionGain] at covers ⊢
  generalize (LaneFade.observe (fades lane) (round.periods lane) periodFrames).1 = observed at *
  simp only [LaneFade.shapePeriod, same, on, Bool.not_true, Bool.false_eq_true, if_false]
  by_cases out : (!round.contributes lane && decide (observed.selectPos = 0)) = true
  · simpa only [out, if_true, Bool.false_eq_true, if_false, Frame.level_silentFrame] using covers
  · obtain ⟨position, length, -, content, softer⟩ := observed.applyWake_keeps (round.periods lane)
    simp only [out, Bool.false_eq_true, if_false, if_true]
    by_cases carried : observed.periodHadContent = true ∧ frame < (round.periods lane).length
    · rw [if_pos (by simp [carried])]
      refine le_trans (le_of_eq ?_) (mul_le_mul_of_nonneg_right (softer frame) (windowGain_nonneg _ _))
      rw [← Frame.level_scaled _ (windowGain_nonneg _ _)]
      congr 1
      rw [LaneFade.applySelect]
      split
      next full =>
        rw [content, carried.1] at full
        simp only [Bool.not_true, Bool.or_false, Bool.and_eq_true, decide_eq_true_eq] at full
        have stays : observed.advanced observed.selectPos frame (round.contributes lane) = observed.rampFrames := by
          simp only [LaneFade.advanced, full.1, if_true]
          omega
        rw [stays, windowGain_full observed.total, Frame.scaled_one]
      next =>
        rw [LaneFade.selectFrames_getD (LaneFade.placed _)]
        simp only [LaneFade.advanced, position, length]
    · rw [if_neg (by simpa using carried), mul_zero]
      have nothing : ((round.periods lane).getD frame silentFrame).level = 0 := by
        rcases Nat.lt_or_ge frame (round.periods lane).length with within | past
        · have empty : observed.periodHadContent = false := by simpa [within] using carried
          rw [List.getD_eq_getElem?_getD, List.getElem?_eq_getElem within, Option.getD_some]
          exact Frame.level_silent (silent empty _ (List.getElem_mem within))
        · rw [List.getD_eq_getElem?_getD, List.getElem?_eq_none past, Option.getD_none, Frame.level_silentFrame]
      have woken : ((observed.applyWake windowGain (round.periods lane)).1.getD frame silentFrame).level ≤ 0 :=
        nothing ▸ softer frame
      rw [LaneFade.applySelect]
      split
      next => exact woken
      next =>
        rw [LaneFade.selectFrames_getD (LaneFade.placed _), Frame.level_scaled _ (windowGain_nonneg _ _)]
        exact mul_nonpos_of_nonpos_of_nonneg woken (windowGain_nonneg _ _)

/-- Positions that fit the window together still do after each has moved, if at most one rises. -/
theorem sum_advanced_le [DecidableEq ι] {n : ℕ} {lanes : Finset ι} {pos : ι → ℕ} {contributes : ι → Bool} (frames : ℕ)
    (single : ∀ first ∈ lanes, ∀ second ∈ lanes, contributes first = true → contributes second = true → first = second)
    (within : ∑ lane ∈ lanes, pos lane ≤ n) :
    ∑ lane ∈ lanes, (if contributes lane then min (pos lane + frames) n else pos lane - frames) ≤ n := by
  by_cases rising : ∃ riser ∈ lanes, contributes riser = true
  · obtain ⟨riser, among, rises⟩ := rising
    have falls : ∀ lane ∈ lanes.erase riser, (if contributes lane then min (pos lane + frames) n else pos lane - frames) =
        pos lane - frames := by
      intro lane other
      obtain ⟨different, other⟩ := Finset.mem_erase.mp other
      rw [if_neg fun also => different (single lane other riser among also rises)]
    rw [← Finset.add_sum_erase lanes _ among] at within ⊢
    rw [if_pos rises, Finset.sum_congr rfl falls]
    by_cases all : ∀ lane ∈ lanes.erase riser, pos lane - frames = 0
    · rw [Finset.sum_eq_zero all, Nat.add_zero]
      exact Nat.min_le_right _ _
    · obtain ⟨faller, other, left⟩ := not_forall₂.mp all
      rw [← Finset.add_sum_erase (lanes.erase riser) _ other] at within ⊢
      have rest : ∑ lane ∈ (lanes.erase riser).erase faller, (pos lane - frames) ≤
          ∑ lane ∈ (lanes.erase riser).erase faller, pos lane := Finset.sum_le_sum fun lane _ => Nat.sub_le _ _
      omega
  · have falls : ∀ lane ∈ lanes, (if contributes lane then min (pos lane + frames) n else pos lane - frames) ≤ pos lane := by
      intro lane among
      rw [if_neg fun rises => rising ⟨lane, among, rises⟩]
      exact Nat.sub_le _ _
    exact (Finset.sum_le_sum falls).trans within

/-- At most one lane of the music is let in, and no lane delivers more than a period. -/
structure Round.Selected (labels : ι → String) (periodFrames : ℕ) (round : Round ι ℝ) : Prop where
  single : ∀ first second, labels first ≠ measurementLane → labels second ≠ measurementLane →
    round.contributes first = true → round.contributes second = true → first = second
  delivered : ∀ lane, (round.periods lane).length ≤ periodFrames

variable [Fintype ι] [DecidableEq ι] (labels : ι → String)

def musicLanes : Finset ι := Finset.univ.filter fun lane => labels lane ≠ measurementLane

/-- The windows of the music lanes are of one length, and their positions fit it together. -/
structure Fits (n : ℕ) (fades : ι → LaneFade) : Prop where
  on : ∀ lane, (fades lane).enabled = decide (labels lane ≠ measurementLane)
  length : ∀ lane, (fades lane).rampFrames = n
  within : ∑ lane ∈ musicLanes labels, (fades lane).selectPos ≤ n

variable {labels} {n : ℕ}

theorem Fits.mix (fits : Fits labels n fades) (selected : round.Selected labels periodFrames) :
    Fits labels n (mixLanes windowGain periodFrames fades round) := by
  have moved : ∀ lane ∈ musicLanes labels, (mixLanes windowGain periodFrames fades round lane).selectPos ≤
      if round.contributes lane then min ((fades lane).selectPos + periodFrames) n else (fades lane).selectPos - periodFrames := by
    intro lane among
    have music : labels lane ≠ measurementLane := (Finset.mem_filter.mp among).2
    have on : (fades lane).enabled = true := by simp [fits.on, music]
    have placed := (fades lane).placed
    rw [fits.length] at placed
    rw [mixLanes_selectPos on]
    simp only [LaneFade.advanced, fits.length]
    split
    next holds =>
      rw [if_pos holds.1]
      omega
    next => exact le_rfl
  refine ⟨fun lane => ?_, fun lane => ?_, (Finset.sum_le_sum moved).trans (sum_advanced_le periodFrames ?_ fits.within)⟩
  · obtain ⟨-, -, same⟩ := (fades lane).observe_keeps (round.periods lane) periodFrames
    exact (LaneFade.shapePeriod_keeps _ _ _ _).2.trans (same.trans (fits.on lane))
  · obtain ⟨-, length, -⟩ := (fades lane).observe_keeps (round.periods lane) periodFrames
    exact (LaneFade.shapePeriod_keeps _ _ _ _).1.trans (length.trans (fits.length lane))
  · intro first music second other
    exact selected.single first second (Finset.mem_filter.mp music).2 (Finset.mem_filter.mp other).2

omit [DecidableEq ι] in
theorem Fits.moved (fits : Fits labels n fades) (music : labels lane ≠ measurementLane)
    (content : ∃ frame ∈ round.periods lane, frame.isSilent = false) :
    (mixLanes windowGain periodFrames fades round lane).selectPos =
      if round.contributes lane then min ((fades lane).selectPos + periodFrames) n else (fades lane).selectPos - periodFrames := by
  have on : (fades lane).enabled = true := by simp [fits.on, music]
  rw [mixLanes_selectPos on, if_neg, LaneFade.advanced, fits.length]
  rintro ⟨-, empty⟩
  obtain ⟨frame, among, sounds⟩ := content
  simp [LaneFade.observe_silent (round.periods lane) periodFrames on empty frame among] at sounds

theorem Fits.mixes (fits : Fits labels n fades) {rounds : List (Round ι ℝ)}
    (selected : ∀ round ∈ rounds, round.Selected labels periodFrames) :
    Fits labels n (rounds.foldl (mixLanes windowGain periodFrames) fades) := by
  induction rounds generalizing fades with
  | nil => exact fits
  | cons round rounds ih =>
    exact ih (fits.mix (selected round List.mem_cons_self)) fun other among => selected other (List.mem_cons_of_mem _ among)

theorem Fits.gains (fits : Fits labels n fades) (selected : round.Selected labels periodFrames) (frame : ℕ) :
    ∑ lane ∈ musicLanes labels, selectionGain windowGain periodFrames fades round lane frame ≤ 1 := by
  have gains : ∀ lane ∈ musicLanes labels, selectionGain windowGain periodFrames fades round lane frame ≤
      windowGain (if round.contributes lane then min ((fades lane).selectPos + frame) n else (fades lane).selectPos - frame) n := by
    intro lane _
    have gain := selectionGain_le fades round periodFrames lane frame
    rwa [LaneFade.advanced, fits.length] at gain
  have single : ∀ first ∈ musicLanes labels, ∀ second ∈ musicLanes labels, round.contributes first = true →
      round.contributes second = true → first = second := fun first music second other =>
    selected.single first second (Finset.mem_filter.mp music).2 (Finset.mem_filter.mp other).2
  by_cases empty : (musicLanes labels).Nonempty
  · obtain ⟨lane, -⟩ := empty
    have positive : 0 < n := fits.length lane ▸ (fades lane).total
    exact (Finset.sum_le_sum gains).trans (sum_windowGain_le_one positive _ _ (sum_advanced_le frame single fits.within))
  · rw [Finset.not_nonempty_iff_eq_empty.mp empty, Finset.sum_empty]
    exact zero_le_one

-- Lanes that stay below a level each do so together.
theorem Fits.levels (fits : Fits labels n fades) (selected : round.Selected labels periodFrames) {level : ℝ}
    (nonneg : 0 ≤ level) (frame : ℕ)
    (below : ∀ lane, ((round.periods lane).getD frame silentFrame).level ≤ level) :
    ∑ lane ∈ musicLanes labels, (added windowGain periodFrames fades round lane frame).level ≤ level := by
  have each : ∀ lane ∈ musicLanes labels, (added windowGain periodFrames fades round lane frame).level ≤
      level * selectionGain windowGain periodFrames fades round lane frame := by
    intro lane among
    have on : (fades lane).enabled = true := by simp [fits.on, (Finset.mem_filter.mp among).2]
    exact (added_level on frame).trans (mul_le_mul_of_nonneg_right (below lane) (selectionGain_nonneg fades round periodFrames lane frame))
  calc ∑ lane ∈ musicLanes labels, (added windowGain periodFrames fades round lane frame).level
      ≤ ∑ lane ∈ musicLanes labels, level * selectionGain windowGain periodFrames fades round lane frame := Finset.sum_le_sum each
    _ = level * ∑ lane ∈ musicLanes labels, selectionGain windowGain periodFrames fades round lane frame := by rw [Finset.mul_sum]
    _ ≤ level * 1 := mul_le_mul_of_nonneg_left (fits.gains selected frame) nonneg
    _ = level := mul_one level

theorem Fits.falls (fits : Fits labels n fades) {rounds : List (Round ι ℝ)} (music : labels lane ≠ measurementLane)
    (selected : ∀ round ∈ rounds, round.Selected labels periodFrames) (out : ∀ round ∈ rounds, round.contributes lane = false) :
    (rounds.foldl (mixLanes windowGain periodFrames) fades lane).selectPos = (fades lane).selectPos - rounds.length * periodFrames := by
  induction rounds generalizing fades with
  | nil => simp
  | cons round rounds ih =>
    have on : (fades lane).enabled = true := by simp [fits.on, music]
    have step : (mixLanes windowGain periodFrames fades round lane).selectPos = (fades lane).selectPos - periodFrames := by
      rw [mixLanes_selectPos on, out round List.mem_cons_self]
      simp [LaneFade.advanced]
    rw [List.foldl_cons, ih (fits.mix (selected round List.mem_cons_self))
      (fun other among => selected other (List.mem_cons_of_mem _ among))
      (fun other among => out other (List.mem_cons_of_mem _ among)), step, List.length_cons]
    rw [Nat.sub_sub, Nat.add_one_mul, Nat.add_comm]

omit [DecidableEq ι] in
theorem Fits.start (labels : ι → String) (sampleRate : ℕ) :
    Fits labels (max (max sampleRate 1 * rampMs / 1000) 1) fun lane => LaneFade.forLane (labels lane) sampleRate :=
  ⟨fun _ => rfl, fun _ => rfl, by simp [LaneFade.forLane]⟩

omit [Fintype ι] [DecidableEq ι] in
-- A period without content holds both windows, or lasts long enough to arm the wake window anew.
theorem mix_silent (on : (fades lane).enabled = true) (rises : round.contributes lane = true)
    (silent : ∀ frame ∈ round.periods lane, frame.isSilent = true) :
    (mixLanes windowGain periodFrames fades round lane).selectPos = (fades lane).selectPos ∧
      ((mixLanes windowGain periodFrames fades round lane).state = (fades lane).state ∨
        (mixLanes windowGain periodFrames fades round lane).state = .idle ∧
          (fades lane).armFrames ≤ (mixLanes windowGain periodFrames fades round lane).zeroFrames) := by
  have none : ((round.periods lane).findIdx? fun frame => !frame.isSilent) = none :=
    List.findIdx?_eq_none_iff.mpr fun frame among => by simp [silent frame among]
  simp only [mixLanes, mixLane, LaneFade.observe, on, Bool.not_true, Bool.false_eq_true, if_false, none, LaneFade.shapePeriod,
    rises, Bool.false_and, LaneFade.applyWake, Bool.not_false, if_true, LaneFade.applySelect, Bool.true_and, Bool.or_true]
  refine ⟨trivial, ?_⟩
  split
  next armed => exact .inr ⟨rfl, armed⟩
  next => exact .inl rfl

theorem lane_fades_keep_headroom (labels : ι → String) (sampleRate periodFrames : ℕ) (positive : 0 < periodFrames)
    (rounds : List (Round ι ℝ)) (selected : ∀ round ∈ rounds, round.Selected labels periodFrames) :
    let fades := rounds.foldl (mixLanes windowGain periodFrames) fun lane => .forLane (labels lane) sampleRate
    (∀ round : Round ι ℝ, round.Selected labels periodFrames → ∀ frame,
      ∑ lane ∈ musicLanes labels, selectionGain windowGain periodFrames fades round lane frame ≤ 1 ∧
        ∀ level : ℝ, 0 ≤ level → (∀ lane, ((round.periods lane).getD frame silentFrame).level ≤ level) →
          ∑ lane ∈ musicLanes labels, (added windowGain periodFrames fades round lane frame).level ≤ level) ∧
    (∀ lane, labels lane ≠ measurementLane → ∀ more : List (Round ι ℝ),
      (∀ round ∈ more, round.Selected labels periodFrames ∧ round.contributes lane = false) →
      ((fades lane).rampFrames + periodFrames - 1) / periodFrames ≤ more.length →
      (more.foldl (mixLanes windowGain periodFrames) fades lane).selectPos = 0) ∧
    ∀ lane, labels lane ≠ measurementLane → ∀ round : Round ι ℝ, round.contributes lane = true →
      (∀ frame ∈ round.periods lane, frame.isSilent = true) →
      (mixLanes windowGain periodFrames fades round lane).selectPos = (fades lane).selectPos ∧
        ((mixLanes windowGain periodFrames fades round lane).state = (fades lane).state ∨
          (mixLanes windowGain periodFrames fades round lane).state = .idle ∧
            (fades lane).armFrames ≤ (mixLanes windowGain periodFrames fades round lane).zeroFrames) := by
  intro fades
  have fits : Fits labels _ fades := (Fits.start labels sampleRate).mixes selected
  refine ⟨fun round selected frame => ⟨fits.gains selected frame, fun level nonneg below => fits.levels selected nonneg frame below⟩,
    fun lane music more out long => ?_, fun lane music round rises silent => ?_⟩
  · rw [fits.falls music (fun round among => (out round among).1) fun round among => (out round among).2]
    have placed := (fades lane).placed
    have size := (Nat.div_lt_iff_lt_mul positive).mp (Nat.lt_succ_of_le long)
    rw [Nat.succ_mul] at size
    omega
  · exact mix_silent (by simp [fits.on, music]) rises silent

end Lanes

def switchLabels (lane : Fin 2) : String := if lane = 0 then "airplay" else "spotify"

-- One lane plays, and then the other is let in. The first brings less than a period.
def plays : Round (Fin 2) ℝ where
  periods := fun _ => [⟨1, 1⟩, ⟨1, 1⟩]
  contributes := fun lane => lane = 0

def crosses : Round (Fin 2) ℝ where
  periods := fun lane => if lane = 0 then [⟨1, 1⟩] else [⟨1, 1⟩, ⟨1, 1⟩]
  contributes := fun lane => lane = 1

def aSwitch : List (Round (Fin 2) ℝ) := [plays, plays, crosses]

theorem crosses_selected : crosses.Selected switchLabels 256 := by
  refine ⟨by simp [crosses], fun lane => ?_⟩
  simp only [crosses]
  split <;> simp

theorem aSwitch_selected : ∀ round ∈ aSwitch, round.Selected switchLabels 256 := by
  intro round among
  simp only [aSwitch, List.mem_cons, List.not_mem_nil, or_false] at among
  rcases among with rfl | rfl | rfl
  · exact ⟨by simp [plays], by simp [plays]⟩
  · exact ⟨by simp [plays], by simp [plays]⟩
  · exact crosses_selected

theorem aSwitch_content {round : Round (Fin 2) ℝ} (among : round ∈ aSwitch) (lane : Fin 2) :
    ∃ frame ∈ round.periods lane, frame.isSilent = false := by
  refine ⟨⟨1, 1⟩, ?_, by simp [Frame.isSilent]⟩
  simp only [aSwitch, List.mem_cons, List.not_mem_nil, or_false] at among
  rcases among with rfl | rfl | rfl
  · simp [plays]
  · simp [plays]
  · simp only [crosses]
    split <;> simp

-- The first lane has 224 frames of its window left, and the second has come 256 frames along its own.
theorem a_switch_keeps_headroom :
    let fades := aSwitch.foldl (mixLanes windowGain 256) fun lane => .forLane (switchLabels lane) 48000
    (fades 0).selectPos = 224 ∧ (fades 1).selectPos = 256 ∧
      ∑ lane ∈ musicLanes switchLabels, selectionGain windowGain 256 fades crosses lane 0 ≤ 1 := by
  intro fades
  have start : Fits switchLabels 480 fun lane => LaneFade.forLane (switchLabels lane) 48000 := Fits.start switchLabels 48000
  have music : ∀ lane, switchLabels lane ≠ measurementLane := by decide
  have first := start.mix (aSwitch_selected plays (by simp [aSwitch]))
  have second := first.mix (aSwitch_selected plays (by simp [aSwitch]))
  have moves : ∀ lane, (fades lane).selectPos = if lane = 0 then 224 else 256 := by
    intro lane
    simp only [fades, aSwitch, List.foldl_cons, List.foldl_nil]
    rw [second.moved (music lane) (aSwitch_content (by simp [aSwitch]) lane),
      first.moved (music lane) (aSwitch_content (by simp [aSwitch]) lane),
      start.moved (music lane) (aSwitch_content (by simp [aSwitch]) lane)]
    fin_cases lane <;> simp [plays, crosses, LaneFade.forLane]
  have kept := (lane_fades_keep_headroom switchLabels 48000 256 (by decide) aSwitch aSwitch_selected).1 crosses
    crosses_selected 0
  exact ⟨moves 0, moves 1, kept.1⟩

end Jts.Fanin
