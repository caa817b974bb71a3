import Mathlib.Algebra.Order.Field.Rat
import Mathlib.Tactic.Linarith

set_option autoImplicit false

namespace Jts.ActiveSpeaker

-- A level in dBFS.
abbrev Level := ℚ

inductive Role
  | woofer
  | mid
  | tweeter
  | other (name : String)
deriving DecidableEq

/-- A driver of the cabinet. Its group is the one that the topology has active. -/
structure Driver where
  group : String
  role : Role
deriving DecidableEq

def startupMuteGainDb : Level := -120

def minTestLevelDbfs : Level := -80

def audibleRampStepDb : Level := 10

def commissionRampMaxLevelDbfs : Level := 0

def epsilon : Level := 1 / 1000000

/-- What a load was asked for, the group as the caller spelled it. -/
structure LoadTarget where
  group : String
  role : Role
  audibleGainDb : Level
deriving DecidableEq

structure Unmuted where
  driver : Driver
  gainDb : Level
deriving DecidableEq

inductive LoadStatus
  | notLoaded
  | loaded
  | blocked
  | failed
  | rolledBack
  | rollbackFailed
deriving DecidableEq

/-- What the last commissioning load or rollback recorded. -/
structure CommissionState where
  status : LoadStatus
  target : Option LoadTarget
deriving DecidableEq

/-- The running CamillaDSP graph: the all-muted anchor, or one driver unmuted at a gain. -/
abbrev Graph := Option Unmuted

/-- The running graph. The list only records every graph that has run. -/
structure Running where
  graph : Graph
  seen : List Graph
deriving DecidableEq

inductive Reply
  | done
  | lost
  | refused
deriving DecidableEq

/-- Where a cancellation stops a load: on the way to the lock, at the load, at the live confirmation, or at the rollback
inside the lock. -/
inductive Point
  | admission
  | load
  | confirm
  | rollback
deriving DecidableEq

/-- What an apply meets: the writer lock, the candidate under it, CamillaDSP's replies, the live confirmation. -/
structure ApplyOutside where
  admitted : Bool
  prepares : Bool
  validates : Bool
  load : Reply
  confirms : Bool
  rollback : Reply
  stop : Option Point
deriving DecidableEq

inductive ApplyEnd
  | success
  | failed
  | notAdmitted
  | cancelled
deriving DecidableEq

def Running.sent (running : Running) (candidate : Graph) (reply : Reply) : Running :=
  if reply = .refused then running else { graph := candidate, seen := running.seen ++ [candidate] }

/-- Put the prior graph back. Only a commissioning load has one: the anchor. -/
def rollBack (running : Running) (toAnchor : Bool) (outside : ApplyOutside) : Running × ApplyEnd :=
  let back := if toAnchor then running.sent none outside.rollback else running
  (back, if outside.stop = some .rollback then .cancelled else .failed)

def applyDspConfig (running : Running) (candidate : Graph) (toAnchor : Bool) (outside : ApplyOutside) :
    Running × ApplyEnd :=
  if outside.stop = some .admission then (running, .cancelled)
  else if !outside.admitted then (running, .notAdmitted)
  else if !outside.prepares || !outside.validates then (running, .failed)
  else
    let loaded := running.sent candidate outside.load
    if outside.stop = some .load then (loaded, .cancelled)
    else if outside.load ≠ .done then rollBack loaded toAnchor outside
    else if outside.stop = some .confirm then (loaded, .cancelled)
    else if !outside.confirms then rollBack loaded toAnchor outside
    else (loaded, .success)

/-- What a commissioning load meets before its apply, and after it. -/
structure LoadOutside where
  active : String
  pathRead : Bool
  loadAllowed : Bool
  anchorExists : Bool
  anchorPersisted : Bool
  apply : ApplyOutside
  reconciles : Bool
deriving DecidableEq

/-- The graph and its record. The count only records how often a rollback asked for the anchor. -/
structure Commission where
  running : Running
  state : CommissionState
  anchorLoads : Nat
deriving DecidableEq

def Commission.record (commission : Commission) (status : LoadStatus) (target : Option LoadTarget) : Commission :=
  { commission with state := { status, target } }

-- A blank group goes through.
def LoadTarget.known (target : LoadTarget) (active : String) : Bool := target.group == "" || target.group == active

def LoadTarget.unmuted (target : LoadTarget) (active : String) : Unmuted :=
  ⟨⟨active, target.role⟩, target.audibleGainDb⟩

inductive Ended
  | returned
  | raised
  | cancelled
deriving DecidableEq

def Commission.applied (commission : Commission) (running : Running) : Commission :=
  { commission with running := running }

/-- How the apply of a load is recorded. A cancellation and a lock that is not granted record nothing. -/
def recordLoad (commission : Commission) (target : LoadTarget) (reconcileOutputHardware reconciles : Bool) :
    Running × ApplyEnd → Commission × Ended
  | (running, .cancelled) => (commission.applied running, .cancelled)
  | (running, .notAdmitted) => (commission.applied running, .raised)
  | (running, .failed) => ((commission.applied running).record .failed (some target), .returned)
  | (running, .success) =>
      if reconcileOutputHardware && !reconciles then
        ((commission.applied running).record .failed (some target), .returned)
      else ((commission.applied running).record .loaded (some target), .returned)

/-- A load that is refused before its apply is recorded, whatever was loaded before. -/
def loadDriverCommissioningConfig (commission : Commission) (target : LoadTarget) (reconcileOutputHardware : Bool)
    (outside : LoadOutside) : Commission × Ended :=
  if !outside.pathRead then (commission.record .failed none, .returned)
  else if !outside.loadAllowed || !target.known outside.active then (commission.record .blocked (some target), .returned)
  else if !outside.anchorExists then (commission.record .blocked (some target), .returned)
  else if !outside.anchorPersisted then (commission.record .blocked (some target), .returned)
  else
    recordLoad commission target reconcileOutputHardware outside.reconciles
      (applyDspConfig commission.running (some (target.unmuted outside.active)) true outside.apply)

structure RollbackOutside where
  anchorExists : Bool
  apply : ApplyOutside
deriving DecidableEq

/-- How the apply of a rollback is recorded: any failure but a cancellation. -/
def recordRollback (commission : Commission) : Running × ApplyEnd → Commission × Ended
  | (running, .cancelled) => (commission.applied running, .cancelled)
  | (running, .notAdmitted) | (running, .failed) =>
      ((commission.applied running).record .rollbackFailed commission.state.target, .returned)
  | (running, .success) => ((commission.applied running).record .rolledBack commission.state.target, .returned)

def Commission.asked (commission : Commission) (asks : Bool) : Commission :=
  { commission with anchorLoads := commission.anchorLoads + if asks then 1 else 0 }

/-- The apply gets as far as its load. -/
def ApplyOutside.tried (outside : ApplyOutside) : Bool :=
  outside.stop ≠ some .admission && outside.admitted && outside.prepares && outside.validates

/-- The anchor is loaded again, whatever the record says. -/
def rollbackDriverCommissioningConfig (commission : Commission) (outside : RollbackOutside) : Commission × Ended :=
  if !outside.anchorExists then (commission.record .rollbackFailed commission.state.target, .returned)
  else
    recordRollback (commission.asked outside.apply.tried)
      (applyDspConfig commission.running none false outside.apply)

def ApplyOutside.barred (outside : ApplyOutside) : Bool :=
  outside.stop ≠ some .admission && outside.admitted && (!outside.prepares || !outside.validates)

/-- A cancellation leaves before the load has answered, or before its answer is confirmed. -/
def ApplyOutside.left (outside : ApplyOutside) : Bool :=
  outside.stop = some .load || outside.load = .done && outside.stop = some .confirm

def ApplyOutside.unconfirmed (outside : ApplyOutside) : Bool := outside.load ≠ .done || !outside.confirms

/-- The preflight refuses the load. -/
def LoadOutside.blocks (outside : LoadOutside) (target : LoadTarget) : Bool :=
  !outside.pathRead || !outside.loadAllowed || !target.known outside.active || !outside.anchorExists ||
    !outside.anchorPersisted

def LoadOutside.lands (outside : LoadOutside) (target : LoadTarget) : Bool :=
  !outside.blocks target && outside.apply.tried && !outside.apply.left && !outside.apply.unconfirmed

/-- The rollback takes the graph back to the anchor, or is cancelled before it can record that it did not. -/
def RollbackOutside.kept (outside : RollbackOutside) : Bool :=
  outside.anchorExists && (outside.apply.stop = some .admission ||
    outside.apply.tried && (outside.apply.load ≠ .refused || outside.apply.stop = some .load ||
      outside.apply.stop = some .rollback))

/-- A rollback asks for the anchor. -/
def RollbackOutside.asks (outside : RollbackOutside) : Bool := outside.anchorExists && outside.apply.tried

theorem sent_graph (running : Running) (candidate : Graph) (reply : Reply) :
    (running.sent candidate reply).graph = if reply = .refused then running.graph else candidate := by
  unfold Running.sent
  split <;> rfl

section Apply

variable {running : Running} {candidate : Graph} {toAnchor : Bool} {outside : ApplyOutside}

theorem apply_untried (untried : outside.tried = false) : ∃ ended, applyDspConfig running candidate toAnchor outside =
    (running, ended) ∧ ended ≠ .success ∧ (ended = .failed → outside.barred = true) := by
  unfold applyDspConfig
  split
  · exact ⟨_, rfl, by simp, by simp⟩
  · rename_i going
    split
    · exact ⟨_, rfl, by simp, by simp⟩
    · rename_i admitted
      have admitted : outside.admitted = true := by simpa using admitted
      have barred : (!outside.prepares || !outside.validates) = true := by
        simp only [ApplyOutside.tried, admitted, Bool.and_true, Bool.and_eq_false_iff, decide_eq_false_iff_not] at untried
        grind
      rw [if_pos barred]
      exact ⟨_, rfl, by simp, fun _ => by simp_all [ApplyOutside.barred]⟩

theorem apply_left (tried : outside.tried = true) (left : outside.left = true) :
    applyDspConfig running candidate toAnchor outside = (running.sent candidate outside.load, .cancelled) := by
  simp only [ApplyOutside.tried, Bool.and_eq_true, decide_eq_true_eq] at tried
  simp only [ApplyOutside.left, Bool.or_eq_true, Bool.and_eq_true, decide_eq_true_eq] at left
  rcases left with atLoad | ⟨answered, atConfirm⟩
  · simp [applyDspConfig, tried, atLoad]
  · simp [applyDspConfig, tried, answered, atConfirm]

theorem apply_unconfirmed (tried : outside.tried = true) (stays : outside.left = false)
    (unconfirmed : outside.unconfirmed = true) :
    applyDspConfig running candidate toAnchor outside =
      rollBack (running.sent candidate outside.load) toAnchor outside := by
  simp only [ApplyOutside.tried, Bool.and_eq_true, decide_eq_true_eq] at tried
  simp only [ApplyOutside.left, Bool.or_eq_false_iff, decide_eq_false_iff_not] at stays
  by_cases answered : outside.load = .done
  · simp_all [applyDspConfig, ApplyOutside.unconfirmed]
  · simp [applyDspConfig, tried, stays, answered]

theorem apply_lands (tried : outside.tried = true) (stays : outside.left = false)
    (confirmed : outside.unconfirmed = false) :
    applyDspConfig running candidate toAnchor outside = (running.sent candidate .done, .success) := by
  simp only [ApplyOutside.tried, Bool.and_eq_true, decide_eq_true_eq] at tried
  simp only [ApplyOutside.unconfirmed, Bool.or_eq_false_iff, decide_eq_false_iff_not, not_not, Bool.not_eq_false'] at confirmed
  simp_all [applyDspConfig, ApplyOutside.left]

end Apply

theorem load_blocked {commission : Commission} {target : LoadTarget} {reconcile : Bool} {outside : LoadOutside}
    (blocks : outside.blocks target = true) : ∃ status recorded,
      loadDriverCommissioningConfig commission target reconcile outside = (commission.record status recorded, .returned) ∧
        status ≠ .loaded := by
  unfold loadDriverCommissioningConfig
  simp only [LoadOutside.blocks, Bool.or_eq_true] at blocks
  split
  · exact ⟨_, _, rfl, by simp⟩
  · split
    · exact ⟨_, _, rfl, by simp⟩
    · split
      · exact ⟨_, _, rfl, by simp⟩
      · rw [if_pos (by simp_all)]
        exact ⟨_, _, rfl, by simp⟩

theorem load_unblocked {commission : Commission} {target : LoadTarget} {reconcile : Bool} {outside : LoadOutside}
    (open_ : outside.blocks target = false) : loadDriverCommissioningConfig commission target reconcile outside =
      recordLoad commission target reconcile outside.reconciles
        (applyDspConfig commission.running (some (target.unmuted outside.active)) true outside.apply) := by
  simp only [LoadOutside.blocks, Bool.or_eq_false_iff, Bool.not_eq_false'] at open_
  simp [loadDriverCommissioningConfig, open_]

/-- A load is recorded as loaded only where it lands. -/
theorem load_loaded {commission : Commission} {target : LoadTarget} {reconcile : Bool} {outside : LoadOutside}
    (returned : (loadDriverCommissioningConfig commission target reconcile outside).2 = .returned)
    (loaded : (loadDriverCommissioningConfig commission target reconcile outside).1.state.status = .loaded) :
    outside.lands target = true ∧ (loadDriverCommissioningConfig commission target reconcile outside).1 =
      (commission.applied (commission.running.sent (some (target.unmuted outside.active)) .done)).record .loaded
        (some target) := by
  by_cases blocks : outside.blocks target = true
  · obtain ⟨status, told, loads, unloaded⟩ := @load_blocked commission target reconcile outside blocks
    rw [loads] at loaded
    exact absurd loaded unloaded
  rw [Bool.not_eq_true] at blocks
  rw [load_unblocked blocks] at returned loaded ⊢
  by_cases tried : outside.apply.tried = true
  · by_cases left : outside.apply.left = true
    · rw [apply_left tried left] at returned
      cases returned
    rw [Bool.not_eq_true] at left
    by_cases unconfirmed : outside.apply.unconfirmed = true
    · rw [apply_unconfirmed tried left unconfirmed] at returned loaded
      by_cases stop : outside.apply.stop = some .rollback <;> simp [rollBack, stop, recordLoad, Commission.record] at returned loaded
    · rw [Bool.not_eq_true] at unconfirmed
      rw [apply_lands tried left unconfirmed] at loaded ⊢
      simp only [recordLoad] at loaded ⊢
      split at loaded
      · cases loaded
      · rename_i reconciled
        exact ⟨by simp [LoadOutside.lands, blocks, tried, left, unconfirmed], by rw [if_neg reconciled]⟩
  · rw [Bool.not_eq_true] at tried
    obtain ⟨ended, applies, unfinished, -⟩ :=
      @apply_untried commission.running (some (target.unmuted outside.active)) true outside.apply tried
    rw [applies] at returned loaded
    cases ended with
    | success => exact absurd rfl unfinished
    | failed => cases loaded
    | notAdmitted => cases returned
    | cancelled => cases returned

/-- How a rollback ends: with the anchor and its record, with a failure that is recorded, or cancelled. -/
theorem rollback_ends (commission : Commission) (outside : RollbackOutside) :
    ∃ running ended, rollbackDriverCommissioningConfig commission outside =
        recordRollback (commission.asked outside.asks) (running, ended) ∧
      (ended = .success → running.graph = none) ∧
      (outside.kept = true → running.graph = none ∨ ended = .cancelled ∧ running = commission.running) ∧
      (running.graph = none ∨ running = commission.running) := by
  by_cases anchor : outside.anchorExists = true
  · have asks : outside.asks = outside.apply.tried := by simp [RollbackOutside.asks, anchor]
    have rolls : rollbackDriverCommissioningConfig commission outside = recordRollback (commission.asked outside.asks)
        (applyDspConfig commission.running none false outside.apply) := by
      simp [rollbackDriverCommissioningConfig, anchor, asks]
    rw [rolls]
    by_cases tried : outside.apply.tried = true
    · by_cases left : outside.apply.left = true
      · rw [apply_left tried left]
        refine ⟨_, _, rfl, by simp, fun _ => ?_, ?_⟩ <;> simp only [Running.sent] <;> split <;> simp
      rw [Bool.not_eq_true] at left
      by_cases unconfirmed : outside.apply.unconfirmed = true
      · rw [apply_unconfirmed tried left unconfirmed]
        have ends : ∀ running, rollBack running false outside.apply =
            (running, if outside.apply.stop = some .rollback then .cancelled else .failed) := fun _ => rfl
        rw [ends]
        have unfinished : (if outside.apply.stop = some .rollback then ApplyEnd.cancelled else .failed) ≠ .success := by
          split <;> simp
        by_cases refused : outside.apply.load = .refused
        · rw [show commission.running.sent none outside.apply.load = commission.running by simp [Running.sent, refused]]
          refine ⟨_, _, rfl, fun success => absurd success unfinished, fun kept => .inr ⟨?_, rfl⟩, .inr rfl⟩
          simp only [RollbackOutside.kept, anchor, tried, refused] at kept
          simp only [ApplyOutside.tried] at tried
          simp only [ApplyOutside.left] at left
          grind
        · rw [show commission.running.sent none outside.apply.load = ⟨none, commission.running.seen ++ [none]⟩ by
            simp [Running.sent, refused]]
          exact ⟨_, _, rfl, fun success => absurd success unfinished, fun _ => .inl rfl, .inl rfl⟩
      · rw [Bool.not_eq_true] at unconfirmed
        rw [apply_lands tried left unconfirmed]
        exact ⟨_, _, rfl, by simp [Running.sent], by simp [Running.sent], by simp [Running.sent]⟩
    · rw [Bool.not_eq_true] at tried
      obtain ⟨ended, applies, unfinished, barred⟩ := @apply_untried commission.running none false outside.apply tried
      rw [applies]
      refine ⟨_, _, rfl, fun success => absurd success unfinished, fun kept => ?_, .inr rfl⟩
      simp only [RollbackOutside.kept, tried, Bool.false_and, Bool.or_false, Bool.and_eq_true, decide_eq_true_eq] at kept
      exact .inr ⟨by simpa [applyDspConfig, kept.2] using congrArg Prod.snd applies.symm, rfl⟩
  · rw [Bool.not_eq_true] at anchor
    refine ⟨commission.running, .failed, ?_, by simp, fun kept => ?_, .inr rfl⟩
    · simp [rollbackDriverCommissioningConfig, anchor, recordRollback, RollbackOutside.asks, Commission.asked,
        Commission.applied, Commission.record]
    · simp [RollbackOutside.kept, anchor] at kept

end Jts.ActiveSpeaker
