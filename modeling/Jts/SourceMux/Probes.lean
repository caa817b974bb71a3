import Jts.Shared.Transition
import Jts.SourceMux.State
import Mathlib.Data.Rat.Defs
import Mathlib.Algebra.Order.Ring.Rat
import Mathlib.Tactic.Linarith

set_option autoImplicit false

namespace Jts.SourceMux

open Jts.Shared.Transition

def unknownActiveHoldSec : ℚ := 5

def eventBackedProbeSec : ℚ := unknownActiveHoldSec

-- The sources with a signal adapter, whose patrol probe only repairs a signal that was lost.
def eventBacked : Source → Bool
  | .airplay | .bluetooth => true
  | .spotify | .usbsink => false

inductive Observation
  | unknown
  | unknownExpired
  | active
  | inactive
deriving DecidableEq

/-- The mux, and what it remembers of its probes. -/
structure Probes where
  mux : Mux
  knownAt : Source → ℚ
  probeDueAt : Source → ℚ
  observations : Source → Observation

def Probes.initial (manual : Option Source) (now : ℕ) : Probes where
  mux := .initial manual now
  knownAt _ := 0
  probeDueAt _ := 0
  observations _ := .unknown

/-- One observation: what an alert named, when the deferrals were judged and when the probes were in, and what each probe
says. A control command defers nothing. -/
structure Look where
  deferring : Bool
  dirty : Source → Bool
  askedAt : ℚ
  answeredAt : ℚ
  outcome : Source → Option Bool

namespace Probes

variable (probes : Probes) (look : Look)

def deferrable (source : Source) : Bool :=
  eventBacked source && !look.dirty source && look.askedAt < probes.probeDueAt source

def probed (source : Source) : Bool := !(look.deferring && probes.deferrable look source)

def expired (source : Source) : Bool :=
  probes.mux.playing source && unknownActiveHoldSec ≤ look.answeredAt - probes.knownAt source

def resolved (source : Source) : Bool :=
  if probes.probed look source then
    match look.outcome source with
    | none => probes.mux.playing source && !probes.expired look source
    | some value => value
  else probes.mux.playing source

def probeSources : Probes × Playing :=
  ({ probes with
      probeDueAt := fun source =>
        if eventBacked source && probes.probed look source then
          -- A probe that could not observe anything buys no window.
          if (look.outcome source).isSome then look.answeredAt + eventBackedProbeSec else 0
        else probes.probeDueAt source
      knownAt := fun source =>
        if probes.probed look source && (look.outcome source).isSome then look.answeredAt else probes.knownAt source
      observations := fun source =>
        if probes.probed look source then
          match look.outcome source with
          | none => if probes.expired look source then .unknownExpired else .unknown
          | some value => if value then .active else .inactive
        else probes.observations source }, probes.resolved look)

/-- Probes, then records the snapshot; the sources that it shows to have started. -/
def observeSources : Probes × List Source :=
  let seen := probes.probeSources look
  let recorded := seen.1.mux.recordSourceObservation seen.2
  ({ seen.1 with mux := recorded.1 }, recorded.2)

end Probes

section Edges

variable (current : Playing)

theorem recordStart_other (seen : Mux × List Source) {source other : Source} (different : source ≠ other) :
    (recordStart current seen source).1.startedSeq other = seen.1.startedSeq other ∧
      (recordStart current seen source).1.playing = seen.1.playing ∧
      (other ∈ (recordStart current seen source).2 → other ∈ seen.2) := by
  rw [recordStart]
  split
  · exact ⟨Function.update_of_ne different.symm _ _, rfl, fun among => by simpa [different.symm] using among⟩
  · exact ⟨rfl, rfl, id⟩

theorem recordStart_still {seen : Mux × List Source} {source : Source} (still : current source = true → seen.1.playing source = true) :
    recordStart current seen source = seen := by
  rw [recordStart, if_neg]
  intro starts
  simp only [Bool.and_eq_true, Bool.not_eq_true'] at starts
  exact absurd ((still starts.1).symm.trans starts.2) nofun

/-- A source that does not go from inactive to active has no start: no edge, and no new activation number. -/
theorem recordSourceObservation_still (mux : Mux) (source : Source) (still : current source = true → mux.playing source = true) :
    (mux.recordSourceObservation current).1.startedSeq source = mux.startedSeq source ∧
      source ∉ (mux.recordSourceObservation current).2 := by
  have all : ∀ (sources : List Source) (seen : Mux × List Source), seen.1.playing = mux.playing →
      (sources.foldl (recordStart current) seen).1.startedSeq source = seen.1.startedSeq source ∧
        (source ∈ (sources.foldl (recordStart current) seen).2 → source ∈ seen.2) := by
    intro sources
    induction sources with
    | nil => exact fun _ _ => ⟨rfl, id⟩
    | cons next sources ih =>
      intro seen same
      by_cases mine : next = source
      · subst mine
        rw [List.foldl_cons, recordStart_still current (same ▸ still)]
        exact ih seen same
      · obtain ⟨number, playing, among⟩ := recordStart_other current seen mine
        obtain ⟨later, started⟩ := ih (recordStart current seen next) (playing.trans same)
        exact ⟨later.trans number, fun last => among (started last)⟩
  obtain ⟨number, started⟩ := all musicSources (mux, []) rfl
  exact ⟨number, fun among => absurd (started among) List.not_mem_nil⟩

end Edges

/-- The mux with its probes, and since when the probes of each source are unreadable. -/
structure Watch where
  probes : Probes
  unreadableSince : Source → Option ℚ

namespace Watch

def initial (manual : Option Source) (now : ℕ) : Watch where
  probes := .initial manual now
  unreadableSince _ := none

variable (watch : Watch) (look : Look)

-- The first unreadable probe of the source since its last readable one, this look's among them.
def firstUnreadable (source : Source) : ℚ := (watch.unreadableSince source).getD look.answeredAt

def observe : Watch where
  probes := (watch.probes.observeSources look).1
  unreadableSince source :=
    if watch.probes.probed look source then
      match look.outcome source with
      | none => some (watch.firstUnreadable look source)
      | some _ => none
    else watch.unreadableSince source

/-- A source that is turned inactive was read to be so, or has been unreadable for the whole hold. -/
def Held : Prop :=
  ∀ source, watch.probes.mux.playing source = true → (watch.observe look).probes.mux.playing source = false →
    look.outcome source = some false ∨ watch.firstUnreadable look source + unknownActiveHoldSec ≤ look.answeredAt

/-- No probe of an active source is unreadable when the last readable one is as old as the hold and the first unreadable one
is not. -/
def Covered : Prop :=
  ∀ source, watch.probes.mux.playing source = true → watch.probes.probed look source = true → look.outcome source = none →
    watch.probes.knownAt source + unknownActiveHoldSec ≤ look.answeredAt →
    watch.firstUnreadable look source + unknownActiveHoldSec ≤ look.answeredAt

variable {watch look} {source : Source}

theorem observe_playing (watch : Watch) (look : Look) (source : Source) :
    (watch.observe look).probes.mux.playing source = watch.probes.resolved look source := rfl

theorem observe_unknown (probed : watch.probes.probed look source = true) (unreadable : look.outcome source = none) :
    (watch.observe look).probes.mux.playing source = true ↔
      watch.probes.mux.playing source = true ∧ look.answeredAt < watch.probes.knownAt source + unknownActiveHoldSec := by
  rw [observe_playing, Probes.resolved, if_pos probed, unreadable]
  simp only [Probes.expired, Bool.and_eq_true, Bool.not_eq_true', Bool.and_eq_false_iff, decide_eq_false_iff_not, not_le]
  constructor
  · rintro ⟨on, off | young⟩
    · exact absurd (on.symm.trans off) nofun
    · exact ⟨on, by linarith⟩
  · exact fun ⟨on, young⟩ => ⟨on, .inr (by linarith)⟩

theorem held_iff : watch.Held look ↔ watch.Covered look := by
  constructor
  · intro held source on probed unreadable old
    have off : (watch.observe look).probes.mux.playing source = false := by
      rw [← Bool.not_eq_true, observe_unknown probed unreadable]
      exact fun young => absurd young.2 (not_lt.mpr old)
    exact (held source on off).resolve_left (by simp [unreadable])
  · intro covered source on off
    rw [observe_playing, Probes.resolved] at off
    split at off
    next probed =>
      cases outcome : look.outcome source with
      | none =>
        refine .inr (covered source on probed outcome ?_)
        rw [← not_lt]
        intro young
        have still : (watch.observe look).probes.mux.playing source = true := (observe_unknown probed outcome).mpr ⟨on, young⟩
        rw [observe_playing, Probes.resolved, if_pos probed] at still
        exact absurd (off.symm.trans still) nofun
      | some value =>
        rw [outcome] at off
        exact .inl (congrArg some off)
    next => exact absurd (on.symm.trans off) nofun

variable (source) in
/-- The source is not read inactive, and its unreadable probes are younger than the hold. -/
def Wavers (watch : Watch) (look : Look) : Prop :=
  watch.probes.probed look source = true → look.outcome source ≠ some false ∧
    (look.outcome source = none → look.answeredAt < watch.firstUnreadable look source + unknownActiveHoldSec)

variable (source) in
/-- Nothing moves: no stop edge, no start edge, no new activation number. -/
def Steady (watch : Watch) (look : Look) : Prop :=
  (watch.observe look).probes.mux.playing source = true ∧ source ∉ (watch.probes.observeSources look).2 ∧
    (watch.observe look).probes.mux.startedSeq source = watch.probes.mux.startedSeq source

theorem steady (on : watch.probes.mux.playing source = true) (covered : watch.Covered look) (wavers : Wavers source watch look) :
    Steady source watch look := by
  have still := recordSourceObservation_still (watch.probes.resolved look) (watch.probes.probeSources look).1.mux
    source fun _ => on
  refine ⟨?_, still.2, still.1⟩
  rw [← Bool.not_eq_false]
  intro off
  rcases held_iff.mpr covered source on off with inactive | long
  · rw [observe_playing, Probes.resolved] at off
    split at off
    next probed => exact (wavers probed).1 inactive
    next => exact absurd (on.symm.trans off) nofun
  · rw [observe_playing, Probes.resolved] at off
    split at off
    next probed =>
      cases outcome : look.outcome source with
      | none => exact absurd ((wavers probed).2 outcome) (not_lt.mpr long)
      | some value =>
        rw [outcome] at off
        exact (wavers probed).1 (outcome.trans (congrArg some off))
    next => exact absurd (on.symm.trans off) nofun

theorem steady_run {looks : List Look} (on : watch.probes.mux.playing source = true)
    (along : Along (fun watch look => watch.Covered look ∧ Wavers source watch look) observe watch looks) :
    Along (Steady source) observe watch looks := by
  induction looks generalizing watch with
  | nil => trivial
  | cons look looks ih =>
    have kept := steady on along.1.1 along.1.2
    exact ⟨kept, ih kept.1 along.2⟩

theorem read_active (off : watch.probes.mux.playing source = false) (on : (watch.observe look).probes.mux.playing source = true) :
    watch.probes.probed look source = true ∧ look.outcome source = some true := by
  rw [observe_playing, Probes.resolved] at on
  split at on
  next probed =>
    cases outcome : look.outcome source with
    | none => simp [outcome, off] at on
    | some value =>
      rw [outcome] at on
      exact ⟨probed, congrArg some on⟩
  next => exact absurd (off.symm.trans on) nofun

end Watch

open Watch

/-- In a run of observations the hold is kept throughout if and only if the two clocks agree at each unreadable probe; then
an unreadable stretch between two active readings makes no edge. No unreadable probe makes an inactive source active. -/
theorem hold_is_kept_iff_covered (manual : Option Source) (now : ℕ) (looks : List Look) :
    (Along Held observe (.initial manual now) looks ↔ Along Covered observe (.initial manual now) looks) ∧
    (∀ more source, (looks.foldl observe (.initial manual now)).probes.mux.playing source = true →
      Along (fun watch look => watch.Covered look ∧ Wavers source watch look) observe (looks.foldl observe (.initial manual now)) more →
      Along (Steady source) observe (looks.foldl observe (.initial manual now)) more) ∧
    Along (fun watch look => ∀ source, watch.probes.mux.playing source = false →
      (watch.observe look).probes.mux.playing source = true → look.outcome source = some true)
      observe (.initial manual now) looks :=
  ⟨Along.congr (fun _ _ => held_iff) _ _, fun _ _ on along => steady_run on along,
    Along.of_forall (fun _ _ _ off on => (read_active off on).2) _ _⟩

def patrol (seconds : ℚ) (airplay : Option Bool) : Look where
  deferring := true
  dirty _ := false
  askedAt := seconds
  answeredAt := seconds
  outcome source := if source = .airplay then airplay else some false

-- AirPlay is read active, deferred for five seconds, and then unreadable once.
def oneBlink : List Look := [patrol 1 (some true), patrol 3 none, patrol 6 none, patrol 7 (some true)]

theorem one_unreadable_probe_stops_airplay :
    ¬(Along Held observe (.initial none 0) oneBlink) ∧
      (oneBlink.foldl observe (.initial none 0)).probes.mux.startedSeq .airplay = 2 := by
  constructor
  · intro held
    exact absurd (held.2.2.1 .airplay (by decide +kernel) (by decide +kernel)) (by decide +kernel)
  · decide +kernel

end Jts.SourceMux
