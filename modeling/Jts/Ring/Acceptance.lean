import Jts.Ring.Attach

set_option autoImplicit false

namespace Jts.Ring

theorem waitForMappableSize_ok {deadlineNs size : UInt64} {polls rest : List Poll}
    (ready : waitForMappableSize deadlineNs polls = some (.ok size, rest)) :
    headerBytes ≤ size ∧ (∃ poll ∈ polls, poll.size = some size) ∧ ∀ poll ∈ rest, poll ∈ polls := by
  induction polls with
  | nil => simp [waitForMappableSize] at ready
  | cons poll polls ih =>
    cases shown : poll.size with
    | none => simp [waitForMappableSize, shown] at ready
    | some found =>
      simp only [waitForMappableSize, shown] at ready
      split_ifs at ready with mappable
      next =>
        simp only [Option.some.injEq, Prod.mk.injEq, Except.ok.injEq] at ready
        obtain ⟨rfl, rfl⟩ := ready
        exact ⟨mappable, ⟨poll, by simp, shown⟩, fun later inside => by simp [inside]⟩
      next =>
        simp at ready
      next =>
        obtain ⟨bound, ⟨origin, inside, same⟩, subset⟩ := ih ready
        exact ⟨bound, ⟨origin, by simp [inside], same⟩, fun later inside => by simp [subset later inside]⟩

theorem waitForMagic_seen {deadlineNs : UInt64} {header : Header} {polls : List Poll}
    (seen : waitForMagic deadlineNs polls = some (some header)) :
    header.magic = magic ∧ ∃ poll ∈ polls, poll.header = header := by
  induction polls with
  | nil => simp [waitForMagic] at seen
  | cons poll polls ih =>
    simp only [waitForMagic] at seen
    split_ifs at seen with published
    next =>
      simp only [Option.some.injEq] at seen
      subst seen
      exact ⟨published, poll, by simp, rfl⟩
    next =>
      simp at seen
    next =>
      obtain ⟨same, origin, inside, shown⟩ := ih seen
      exact ⟨same, origin, by simp [inside], shown⟩

-- A successful attach saw a mappable size at one poll and a published, matching header at a later one.
theorem attachExisting_ok {expected : Geometry} {startNs : UInt64} {mapped : Bool} {polls : List Poll}
    (ok : attachExisting expected startNs mapped polls = some (.ok ())) :
    ∃ size header, headerBytes ≤ size ∧ (∃ poll ∈ polls, poll.size = some size) ∧ header.magic = magic ∧
      (∃ poll ∈ polls, poll.header = header) ∧ validateAttachedMap header size expected = .ok () := by
  simp only [attachExisting, bind, Option.bind_eq_some_iff] at ok
  obtain ⟨⟨outcome, rest⟩, sized, ok⟩ := ok
  cases outcome with
  | error error => simp at ok
  | ok size =>
    obtain ⟨bound, shown, subset⟩ := waitForMappableSize_ok sized
    cases mapped with
    | false => simp at ok
    | true =>
      simp only [if_true, Option.bind_eq_some_iff] at ok
      obtain ⟨magicSeen, waited, ok⟩ := ok
      cases magicSeen with
      | none => simp at ok
      | some header =>
        obtain ⟨published, poll, inside, same⟩ := waitForMagic_seen waited
        simp only [Option.some.injEq] at ok
        exact ⟨size, header, bound, shown, published, ⟨poll, subset poll inside, same⟩, ok⟩

theorem waitForMappableSize_returns {deadlineNs : UInt64} (before after : List Poll) {last : Poll}
    (past : deadlineNs ≤ last.nowNs) :
    ∃ outcome unread, waitForMappableSize deadlineNs (before ++ last :: after) = some (outcome, unread ++ after) := by
  induction before with
  | nil =>
    cases shown : last.size with
    | none => exact ⟨.error (.fatal (lastOsError "fstat")), [], by simp [waitForMappableSize, shown]⟩
    | some size =>
      by_cases mappable : headerBytes ≤ size
      next => exact ⟨.ok size, [], by simp [waitForMappableSize, shown, mappable]⟩
      next => exact ⟨.error .magicInvalid, [], by simp [waitForMappableSize, shown, mappable, past]⟩
  | cons poll before ih =>
    obtain ⟨outcome, unread, returned⟩ := ih
    cases shown : poll.size with
    | none => exact ⟨.error (.fatal (lastOsError "fstat")), before ++ [last], by simp [waitForMappableSize, shown]⟩
    | some size =>
      by_cases mappable : headerBytes ≤ size
      next => exact ⟨.ok size, before ++ [last], by simp [waitForMappableSize, shown, mappable]⟩
      next =>
        by_cases expired : deadlineNs ≤ poll.nowNs
        next =>
          exact ⟨.error .magicInvalid, before ++ [last],
            by simp [waitForMappableSize, shown, mappable, expired]⟩
        next => exact ⟨outcome, unread, by simpa [waitForMappableSize, shown, mappable, expired] using returned⟩

theorem waitForMagic_returns {deadlineNs : UInt64} (before : List Poll) {last : Poll}
    (past : deadlineNs ≤ last.nowNs) : ∃ outcome, waitForMagic deadlineNs (before ++ [last]) = some outcome := by
  induction before with
  | nil =>
    by_cases seen : last.header.magic = magic
    next => exact ⟨some last.header, by simp [waitForMagic, seen]⟩
    next => exact ⟨none, by simp [waitForMagic, seen, past]⟩
  | cons poll before ih =>
    simp only [List.cons_append, waitForMagic]
    split_ifs
    next => exact ⟨_, rfl⟩
    next => exact ⟨_, rfl⟩
    next => exact ih

-- The wait loops end: two passes past the deadline are enough for any file.
theorem attachExisting_returns (expected : Geometry) {startNs : UInt64} (mapped : Bool) (before : List Poll)
    {first second : Poll} (past : startNs + magicWaitTimeoutMs * 1000000 ≤ first.nowNs)
    (pastAgain : startNs + magicWaitTimeoutMs * 1000000 ≤ second.nowNs) :
    ∃ outcome, attachExisting expected startNs mapped (before ++ [first, second]) = some outcome := by
  obtain ⟨sized, unread, returned⟩ := waitForMappableSize_returns before [second] past
  obtain ⟨seen, waited⟩ := waitForMagic_returns unread pastAgain
  simp only [attachExisting, returned, bind, Option.bind_some]
  cases sized with
  | error error => exact ⟨_, rfl⟩
  | ok size =>
    cases mapped with
    | false => exact ⟨_, rfl⟩
    | true =>
      simp only [if_true, waited, Option.bind_some]
      cases seen <;> exact ⟨_, rfl⟩

-- A file nobody changes while an attach polls it, under the clock values its two waits compare.
def staticPolls (size : UInt64) (header : Header) (clock : List UInt64) : List Poll :=
  clock.map fun nowNs => ⟨some size, header, nowNs⟩

section Static

variable {expected : Geometry} {size : UInt64} {header : Header}

theorem attachExisting_static (accepted : expected.Accepted) (startNs first second : UInt64) (clock : List UInt64) :
    attachExisting expected startNs true (staticPolls size header (first :: second :: clock)) = some (.ok ()) ↔
      header.magic = magic ∧ validateAttachedMap header size expected = .ok () := by
  constructor
  next =>
    intro ok
    obtain ⟨seenSize, seenHeader, _, ⟨sizePoll, sizeInside, sized⟩, published, ⟨poll, inside, same⟩, valid⟩ :=
      attachExisting_ok ok
    simp only [staticPolls, List.mem_map] at sizeInside inside
    obtain ⟨_, _, rfl⟩ := sizeInside
    obtain ⟨_, _, rfl⟩ := inside
    simp only [Option.some.injEq] at sized
    subst sized same
    exact ⟨published, valid⟩
  next =>
    rintro ⟨published, valid⟩
    have sized := ((validateAttachedMap_ok accepted).mp valid).2.2
    have mappable : headerBytes ≤ size := sized ▸ Geometry.headerBytes_le_fileSize accepted
    simp [attachExisting, staticPolls, waitForMappableSize, waitForMagic, mappable, published, valid]

theorem attachExistingMapping_valid {startNs : UInt64} {mapped : Bool} {polls : List Poll}
    (accepted : expected.Accepted) :
    attachExistingMapping expected startNs mapped polls = some .valid ↔
      attachExisting expected startNs mapped polls = some (.ok ()) := by
  have agree := attachExistingMapping_agrees accepted startNs mapped polls
  constructor
  next =>
    intro valid
    rw [valid] at agree
    rcases outcome : attachExisting expected startNs mapped polls with _ | (error | ok)
    next => simp [outcome] at agree
    next => cases error <;> simp [outcome, attachClass, AttachError.class, RingAttachResult.class] at agree
    next => rfl
  next =>
    intro ok
    rw [ok] at agree
    rcases outcome : attachExistingMapping expected startNs mapped polls with _ | result
    next => simp [outcome] at agree
    next => cases result <;> simp [outcome, attachClass, RingAttachResult.class] at agree ⊢

end Static

-- What either creator leaves behind is the same file.
theorem initCreated_agrees {g : Geometry} (accepted : g.Accepted) : initCreated g = .ok (initCreatedMapping g) := by
  simp only [initCreated, Geometry.fileSize_accepted accepted]
  rfl

theorem validateAttachedMap_created {g : Geometry} (accepted : g.Accepted) :
    validateAttachedMap (initCreatedMapping g).2 (initCreatedMapping g).1 g = .ok () :=
  (validateAttachedMap_ok accepted).mpr ⟨rfl, rfl, rfl⟩

theorem validators_agree (g : Geometry) : jtsRingGeometryValidate g = none ↔ g.validateSelf = .ok () :=
  Geometry.jtsRingGeometryValidate_none.trans Geometry.validateSelf_ok.symm

theorem c_and_rust_accept_the_same_files :
    (∀ g : Geometry, jtsRingGeometryValidate g = none ↔ g.validateSelf = .ok ()) ∧
      (∀ expected : Geometry, expected.validateSelf = .ok () →
        (∀ header size startNs first second clock,
          attachExistingMapping expected startNs true (staticPolls size header (first :: second :: clock)) =
              some .valid ↔
            header.magic = magic ∧ validateAttachedMap header size expected = .ok ()) ∧
        (∀ startNs mapped polls,
          attachExistingMapping expected startNs mapped polls = some .valid ↔
            attachExisting expected startNs mapped polls = some (.ok ())) ∧
        (∃ size header, initCreated expected = .ok (size, header) ∧ initCreatedMapping expected = (size, header) ∧
          ∀ startNs first second clock,
            attachExistingMapping expected startNs true (staticPolls size header (first :: second :: clock)) =
                some .valid ∧
              attachExisting expected startNs true (staticPolls size header (first :: second :: clock)) =
                some (.ok ()))) := by
  refine ⟨validators_agree, fun expected valid => ?_⟩
  have accepted := Geometry.validateSelf_ok.mp valid
  refine ⟨?_, fun startNs mapped polls => attachExistingMapping_valid accepted, ?_⟩
  next =>
    intro header size startNs first second clock
    rw [attachExistingMapping_valid accepted]
    exact attachExisting_static accepted startNs first second clock
  next =>
    refine ⟨(initCreatedMapping expected).1, (initCreatedMapping expected).2, initCreated_agrees accepted, rfl, ?_⟩
    intro startNs first second clock
    have ok := (attachExisting_static accepted startNs first second clock).mpr
      ⟨rfl, validateAttachedMap_created accepted⟩
    exact ⟨(attachExistingMapping_valid accepted).mpr ok, ok⟩

-- A file that matches in every field but whose magic was never published.
def magicless : Header := { writeConfig .zero protoGeometry with magic := 0 }

theorem magicless_file_splits_the_validators :
    protoGeometry.validateSelf = .ok () ∧ validateAttachedMap magicless 1152 protoGeometry = .ok () ∧
      attachExistingMapping protoGeometry 0 true (staticPolls 1152 magicless [5, 50, 100000000]) = some .torn := by
  decide


end Jts.Ring
