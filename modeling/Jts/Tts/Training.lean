import Jts.Tts.MixerQueue

set_option autoImplicit false

namespace Jts.Tts

/-- A frame of the segment has been rendered while no context was held, or a muted one. -/
def Spoiled (segment : Nat) (history : List TtsEvent) : Prop :=
  ∃ stamp context, .mixed segment stamp context ∈ history ∧ context.all (·.muted) = true

/-- The past in which the reference of a segment may complete. -/
structure Justified (segment : Nat) (past : List TtsEvent) : Prop where
  ended : .ended segment ∈ past
  once : .completed segment ∉ past
  drained : framesQueued segment past = framesMixed segment past
  clean : ¬ Spoiled segment past

/-- Every completion was justified when it happened, and nothing is queued for a segment past its end. -/
def Sound : List TtsEvent → Prop
  | [] => True
  | .completed segment :: past => Justified segment past ∧ Sound past
  | .queued segment _ _ :: past => .ended segment ∉ past ∧ Sound past
  | _ :: past => Sound past

-- The events that are about no segment.
def TtsEvent.quiet : TtsEvent → Bool
  | .flushed _ | .accepted _ | .discarded _ => true
  | _ => false

section Quiet

variable {events history : List TtsEvent}

theorem mem_quiet {event : TtsEvent} (quiet : ∀ other ∈ events, other.quiet = true) (loud : event.quiet = false) :
    event ∈ events ++ history ↔ event ∈ history := by
  constructor
  · intro among
    rcases List.mem_append.mp among with new | old
    · rw [quiet event new] at loud
      cases loud
    · exact old
  · exact List.mem_append_right _

theorem spoiled_quiet (quiet : ∀ other ∈ events, other.quiet = true) {segment : Nat} :
    Spoiled segment (events ++ history) ↔ Spoiled segment history := by
  constructor
  · rintro ⟨stamp, context, among, muted⟩
    exact ⟨stamp, context, (mem_quiet quiet rfl).mp among, muted⟩
  · rintro ⟨stamp, context, among, muted⟩
    exact ⟨stamp, context, (mem_quiet quiet rfl).mpr among, muted⟩

theorem sound_quiet (quiet : ∀ other ∈ events, other.quiet = true) :
    Sound (events ++ history) ↔ Sound history := by
  induction events with
  | nil => exact Iff.rfl
  | cons event rest ih =>
    have tail := ih fun other among => quiet other (.tail _ among)
    have head := quiet event (.head _)
    cases event <;> first | exact tail | cases head

theorem frames_quiet (quiet : ∀ other ∈ events, other.quiet = true) (segment : Nat) :
    framesQueued segment (events ++ history) = framesQueued segment history ∧
      framesMixed segment (events ++ history) = framesMixed segment history := by
  induction events with
  | nil => exact ⟨rfl, rfl⟩
  | cons event rest ih =>
    have tail := ih fun other among => quiet other (.tail _ among)
    have head := quiet event (.head _)
    cases event <;> first | exact tail | cases head

end Quiet

theorem not_spoiled_of_framesMixed {segment : Nat} {history : List TtsEvent} (zero : framesMixed segment history = 0) :
    ¬ Spoiled segment history := by
  rintro ⟨stamp, context, among, _⟩
  exact not_mixed_of_framesMixed zero stamp context among

theorem spoiled_cons {segment : Nat} {event : TtsEvent} {past : List TtsEvent} :
    Spoiled segment (event :: past) ↔
      (∃ stamp context, event = .mixed segment stamp context ∧ context.all (·.muted) = true) ∨ Spoiled segment past := by
  constructor
  · rintro ⟨stamp, context, among, muted⟩
    rcases List.mem_cons.mp among with same | old
    · exact .inl ⟨stamp, context, same.symm, muted⟩
    · exact .inr ⟨stamp, context, old, muted⟩
  · rintro (⟨stamp, context, rfl, muted⟩ | ⟨stamp, context, old, muted⟩)
    · exact ⟨stamp, context, .head _, muted⟩
    · exact ⟨stamp, context, .tail _ old, muted⟩

theorem Sound.ended_of_completed {segment : Nat} {history : List TtsEvent} (sound : Sound history)
    (completed : .completed segment ∈ history) : .ended segment ∈ history := by
  induction history with
  | nil => cases completed
  | cons event past ih =>
    cases event with
    | completed other =>
      rcases List.mem_cons.mp completed with same | old
      · cases same
        exact .tail _ sound.1.ended
      · exact .tail _ (ih sound.2 old)
    | queued other frames stamp => exact .tail _ (ih sound.2 (by simpa using completed))
    | _ => exact .tail _ (ih sound (by simpa using completed))

/-- A completed segment has ended: nothing more is queued for it, and it does not complete again. -/
theorem Sound.completed_once {segment : Nat} {later past : List TtsEvent}
    (sound : Sound (later ++ .completed segment :: past)) :
    Justified segment past ∧ .completed segment ∉ later ∧ ∀ frames stamp, .queued segment frames stamp ∉ later := by
  induction later with
  | nil => exact ⟨sound.1, List.not_mem_nil, fun _ _ => List.not_mem_nil⟩
  | cons event later ih =>
    cases event with
    | completed other =>
      obtain ⟨justified, once, none_⟩ := ih sound.2
      refine ⟨justified, fun among => ?_, by simpa using none_⟩
      rcases List.mem_cons.mp among with same | old
      · cases same
        exact sound.1.once (by simp)
      · exact once old
    | queued other frames stamp =>
      obtain ⟨justified, once, none_⟩ := ih sound.2
      refine ⟨justified, by simpa using once, fun frames' stamp' among => ?_⟩
      rcases List.mem_cons.mp among with same | old
      · cases same
        exact sound.1 (List.mem_append_right _ (.tail _ justified.ended))
      · exact none_ frames' stamp' old
    | _ =>
      obtain ⟨justified, once, none_⟩ := ih sound
      exact ⟨justified, by simpa using once, by simpa using none_⟩

end Jts.Tts
