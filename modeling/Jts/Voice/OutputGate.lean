import Mathlib.Data.Nat.Notation
import Mathlib.Tactic.Common

set_option autoImplicit false

namespace Jts.Voice

inductive OutputKind
  | turn
  | proactive
  | admin
  | feedback
deriving DecidableEq

/-- Token for one audible assistant episode. -/
structure OutputEpisode where
  id : ℕ
  kind : OutputKind
  epoch : ℕ
deriving DecidableEq

/-- An episode as it was granted, and whether admission was open then. -/
structure Grant where
  episode : OutputEpisode
  admitted : Bool
deriving DecidableEq

/-- An episode that was returned to a turn, and whether it was current then. -/
structure Returned where
  episode : OutputEpisode
  current : Bool
deriving DecidableEq

/-- The gate. The last three fields only record what it has granted, ended and returned. -/
structure OutputGate where
  idle : Bool
  admissionResumed : Bool
  admissionPaused : Bool
  active : Option OutputEpisode
  epoch : ℕ
  nextId : ℕ
  granted : List Grant
  ended : List ℕ
  turns : List Returned
deriving DecidableEq

namespace OutputGate

def new : OutputGate where
  idle := true
  admissionResumed := true
  admissionPaused := false
  active := none
  epoch := 0
  nextId := 0
  granted := []
  ended := []
  turns := []

variable (gate : OutputGate)

def isActive : Bool := gate.active.isSome

def isCurrent (episode : OutputEpisode) : Bool :=
  match gate.active with
  | some active => decide (active.id = episode.id) && decide (episode.epoch = gate.epoch)
  | none => false

-- No verb awaits while it holds the lock of the gate, so that each of them is one step.

def beginLocked (kind : OutputKind) : OutputGate × OutputEpisode :=
  let episode : OutputEpisode := ⟨gate.nextId + 1, kind, gate.epoch + 1⟩
  ({ gate with
     epoch := gate.epoch + 1
     nextId := gate.nextId + 1
     active := some episode
     idle := false
     granted := ⟨episode, !gate.admissionPaused⟩ :: gate.granted }, episode)

def beginIfIdleLocked (kind : OutputKind) : OutputGate × Option OutputEpisode :=
  if gate.admissionPaused || gate.active.isSome then (gate, none)
  else ((gate.beginLocked kind).1, some (gate.beginLocked kind).2)

def beginIfIdle (kind : OutputKind) : OutputGate × Option OutputEpisode := gate.beginIfIdleLocked kind

inductive TurnRound
  | begun (episode : OutputEpisode)
  | waitsForAdmission
  | waitsForIdle
deriving DecidableEq

/-- One round of the loop of begin_turn; a turn that waits makes another one when it is woken. -/
def beginTurn : OutputGate × TurnRound :=
  if gate.admissionPaused then (gate, .waitsForAdmission)
  else
    match gate.active with
    | none => ((gate.beginLocked .turn).1, .begun (gate.beginLocked .turn).2)
    | some active =>
        if active.kind = .turn then (gate, .begun active)
        else ({ gate with epoch := gate.epoch + 1 }, .waitsForIdle)

def pauseAdmission : OutputGate × Bool :=
  if gate.admissionPaused then (gate, false)
  else ({ gate with admissionPaused := true, admissionResumed := false }, true)

def resumeAdmission : OutputGate × Bool :=
  if !gate.admissionPaused then (gate, false)
  else ({ gate with admissionPaused := false, admissionResumed := true }, true)

def endLocked (episode : Option OutputEpisode) (kind : Option OutputKind) : OutputGate :=
  match gate.active with
  | none => gate
  | some active =>
      let ends := match episode with
        | some episode => decide (active.id = episode.id)
        | none => decide (some active.kind = kind)
      if ends then { gate with active := none, idle := true, ended := active.id :: gate.ended } else gate

def endEpisode (episode : Option OutputEpisode) (kind : Option OutputKind) : OutputGate := gate.endLocked episode kind

def endTurn (episode : Option OutputEpisode) : OutputGate := gate.endEpisode episode (some .turn)

end OutputGate

/-- What turns, cues and proactive speech ask of the gate. -/
inductive GateCall
  | beginTurn
  | beginIfIdle (kind : OutputKind)
  | endEpisode (episode : Option OutputEpisode) (kind : Option OutputKind)
deriving DecidableEq

def OutputGate.call (gate : OutputGate) : GateCall → OutputGate
  | .beginTurn =>
      match gate.beginTurn with
      | (after, .begun episode) => { after with turns := ⟨episode, after.isCurrent episode⟩ :: after.turns }
      | (after, _) => after
  | .beginIfIdle kind => (gate.beginIfIdle kind).1
  | .endEpisode episode kind => gate.endEpisode episode kind

namespace OutputGate

structure Sound (gate : OutputGate) : Prop where
  idle : gate.idle = gate.active.isNone
  resumed : gate.admissionResumed = !gate.admissionPaused
  admitted : ∀ grant ∈ gate.granted, grant.admitted = true
  -- A granted episode that has not ended is the active one.
  owns : ∀ grant ∈ gate.granted, grant.episode.id ∈ gate.ended ∨ gate.active = some grant.episode
  active : ∀ episode, gate.active = some episode → ⟨episode, true⟩ ∈ gate.granted ∧
    (episode.kind = .turn → episode.epoch = gate.epoch)
  turns : ∀ turn ∈ gate.turns, turn.current = true ∧ ⟨turn.episode, true⟩ ∈ gate.granted

theorem sound_new : new.Sound where
  idle := rfl
  resumed := rfl
  admitted := nofun
  owns := nofun
  active := nofun
  turns := nofun

variable {gate : OutputGate}

/-- At most one of the episodes that were granted has not ended. -/
theorem Sound.one (sound : gate.Sound) {first second : Grant} (granted : first ∈ gate.granted)
    (other : second ∈ gate.granted) (lives : first.episode.id ∉ gate.ended) (also : second.episode.id ∉ gate.ended) :
    first = second := by
  have owner := (sound.owns first granted).resolve_left lives
  have owner' := (sound.owns second other).resolve_left also
  have episode : first.episode = second.episode := Option.some.inj (owner.symm.trans owner')
  have admitted : first.admitted = second.admitted := (sound.admitted _ granted).trans (sound.admitted _ other).symm
  cases first
  cases second
  simp_all

theorem Sound.beginLocked (sound : gate.Sound) (open_ : gate.admissionPaused = false) (free : gate.active = none)
    (kind : OutputKind) : (gate.beginLocked kind).1.Sound := by
  have ended : ∀ grant ∈ gate.granted, grant.episode.id ∈ gate.ended := fun grant among =>
    (sound.owns grant among).resolve_right (by simp [free])
  refine ⟨rfl, sound.resumed, ?_, ?_, ?_, ?_⟩
  · intro grant among
    rcases List.mem_cons.mp among with rfl | before
    · simp [open_]
    · exact sound.admitted grant before
  · intro grant among
    rcases List.mem_cons.mp among with rfl | before
    · exact .inr rfl
    · exact .inl (ended grant before)
  · intro episode active
    obtain rfl := Option.some.inj active
    simp [OutputGate.beginLocked, open_]
  · intro turn among
    obtain ⟨current, granted⟩ := sound.turns turn among
    exact ⟨current, .tail _ granted⟩

theorem Sound.returns (sound : gate.Sound) {episode : OutputEpisode} (active : gate.active = some episode)
    (turn : episode.kind = .turn) : ({ gate with turns := ⟨episode, gate.isCurrent episode⟩ :: gate.turns } : OutputGate).Sound := by
  obtain ⟨granted, epoch⟩ := sound.active episode active
  refine { sound with turns := ?_ }
  intro returned among
  rcases List.mem_cons.mp among with rfl | before
  · exact ⟨by simp [isCurrent, active, epoch turn], granted⟩
  · exact sound.turns returned before

theorem Sound.call (sound : gate.Sound) (call : GateCall) : (gate.call call).Sound := by
  cases call with
  | beginTurn =>
    simp only [OutputGate.call, beginTurn]
    by_cases paused : gate.admissionPaused = true
    · simpa [paused] using sound
    · have open_ : gate.admissionPaused = false := by simpa using paused
      rw [if_neg paused]
      cases active : gate.active with
      | none =>
        exact (sound.beginLocked open_ active .turn).returns rfl rfl
      | some episode =>
        by_cases turn : episode.kind = .turn
        · simpa [turn, active] using sound.returns active turn
        · simp only [if_neg turn]
          have idle := sound.idle
          have owns := sound.owns
          rw [active] at idle owns
          refine { sound with idle := idle, owns := owns, active := ?_ }
          rintro _ ⟨⟩
          exact ⟨(sound.active _ active).1, fun is => absurd is turn⟩
  | beginIfIdle kind =>
    simp only [OutputGate.call, beginIfIdle, beginIfIdleLocked]
    split_ifs with refused
    · exact sound
    · simp only [Bool.or_eq_true, not_or, Bool.not_eq_true, Option.isSome_eq_false_iff, Option.isNone_iff_eq_none] at refused
      exact sound.beginLocked refused.1 refused.2 kind
  | endEpisode episode kind =>
    simp only [OutputGate.call, endEpisode, endLocked]
    cases active : gate.active with
    | none => exact sound
    | some owner =>
      simp only
      generalize (match episode with
        | some episode => decide (owner.id = episode.id)
        | none => decide (some owner.kind = kind)) = ends
      cases ends with
      | false => exact sound
      | true =>
        refine { sound with idle := rfl, owns := ?_, active := nofun }
        intro grant among
        rcases sound.owns grant among with before | owns
        · exact .inl (.tail _ before)
        · obtain rfl := Option.some.inj (active.symm.trans owns)
          exact .inl (.head _)

theorem call_paused (gate : OutputGate) (call : GateCall) : (gate.call call).admissionPaused = gate.admissionPaused := by
  cases call with
  | beginTurn =>
    simp only [OutputGate.call, beginTurn]
    split_ifs
    · rfl
    · cases gate.active with
      | none => rfl
      | some episode =>
        simp only
        split_ifs <;> rfl
  | beginIfIdle kind =>
    simp only [OutputGate.call, beginIfIdle, beginIfIdleLocked]
    split_ifs <;> rfl
  | endEpisode episode kind =>
    simp only [OutputGate.call, endEpisode, endLocked]
    split
    · rfl
    · split_ifs <;> rfl

/-- Nothing begins at a closed gate. -/
theorem call_silent (paused : gate.admissionPaused = true) (silent : gate.active = none) (call : GateCall) :
    (gate.call call).active = none := by
  cases call with
  | beginTurn => simp [OutputGate.call, beginTurn, paused, silent]
  | beginIfIdle kind => simp [OutputGate.call, beginIfIdle, beginIfIdleLocked, paused, silent]
  | endEpisode episode kind => simp [OutputGate.call, endEpisode, endLocked, silent]

theorem pauseAdmission_paused (gate : OutputGate) : gate.pauseAdmission.1.admissionPaused = true ∧
    gate.pauseAdmission.1.active = gate.active := by
  unfold pauseAdmission
  split_ifs with paused
  · exact ⟨paused, rfl⟩
  · exact ⟨rfl, rfl⟩

theorem resumeAdmission_open (gate : OutputGate) : gate.resumeAdmission.1.admissionPaused = false ∧
    gate.resumeAdmission.1.active = gate.active := by
  unfold resumeAdmission
  split_ifs with paused
  · exact ⟨by simpa using paused, rfl⟩
  · exact ⟨rfl, rfl⟩

theorem Sound.pauseAdmission (sound : gate.Sound) : gate.pauseAdmission.1.Sound := by
  unfold OutputGate.pauseAdmission
  split_ifs
  · exact sound
  · exact { sound with resumed := rfl }

theorem Sound.resumeAdmission (sound : gate.Sound) : gate.resumeAdmission.1.Sound := by
  unfold OutputGate.resumeAdmission
  split_ifs
  · exact sound
  · exact { sound with resumed := rfl }

end OutputGate

end Jts.Voice
