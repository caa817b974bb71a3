import Jts.Peering.Machine

set_option autoImplicit false

namespace Jts.Peering

structure Wake where
  epoch : String
  report : WakeReport
deriving DecidableEq

def Action.wake : Action → Option Wake
  | .broadcastWake epoch report => some ⟨epoch, report⟩
  | _ => none

def Event.wake : Event → Option Wake
  | .peerWake epoch report _ => some ⟨epoch, report⟩
  | _ => none

def Event.wakesLocally : Event → Bool
  | .localWake .. => true
  | _ => false

def Event.closesWindow : Event → Bool
  | .timerFired .arbWindow _ => true
  | _ => false

/-- A peer's machine, and all that it has told its caller to do. -/
structure Node where
  machine : PeeringStateMachine
  emitted : List Action

namespace Node

def start : Node := ⟨.start, []⟩

def take (params : StateMachineParams) (node : Node) (event : Event) : Node :=
  ⟨(node.machine.handle params event).1, node.emitted ++ (node.machine.handle params event).2⟩

def run (params : StateMachineParams) (node : Node) (events : List Event) : Node := events.foldl (take params) node

def broadcasts (node : Node) : List Wake := node.emitted.filterMap Action.wake

def Starts (node : Node) : Prop := ∃ epoch, .startSession epoch ∈ node.emitted

def StandsDown (node : Node) : Prop := .standDown ∈ node.emitted

end Node

/-- The newest record is the one with the smallest epoch. A WAKE with a larger one leaves no record. -/
def hear (records : List Wake) (wake : Wake) : List Wake :=
  match records with
  | [] => [wake]
  | last :: _ => if wake.epoch < last.epoch then wake :: records else records

def record (params : StateMachineParams) (records : List Wake) : Event → List Wake
  | .localWake score snrDb rmsDbfs canServe _ fresh =>
      if records = [] then [⟨fresh, ⟨params.peerId, .clamp score, snrDb, rmsDbfs, params.primary, canServe⟩⟩] else records
  | .peerWake epoch report _ => hear records ⟨epoch, report⟩
  | _ => records

/-- What a peer has recorded of its own wake and of those that reached it. -/
def records (params : StateMachineParams) (events : List Event) : List Wake := events.foldl (record params) []

/-- A set of WAKEs, one an epoch and one a peer. -/
def Apart (wakes : List Wake) : Prop :=
  ∀ one ∈ wakes, ∀ other ∈ wakes, one.epoch = other.epoch ∨ one.report.peerId = other.report.peerId → one = other

structure Sorted (wakes records : List Wake) : Prop where
  known : records ⊆ wakes
  smaller : records.Pairwise fun newer older => newer.epoch < older.epoch

section Records

variable {wakes heard : List Wake} {wake last : Wake}

theorem Sorted.singleton (mem : wake ∈ wakes) : Sorted wakes [wake] :=
  ⟨List.cons_subset.mpr ⟨mem, List.nil_subset _⟩, List.pairwise_singleton _ _⟩

theorem Sorted.hear (sorted : Sorted wakes heard) (mem : wake ∈ wakes) : Sorted wakes (hear heard wake) := by
  unfold Peering.hear
  split
  · exact .singleton mem
  · rename_i last older
    split
    · rename_i smaller
      refine ⟨List.cons_subset.mpr ⟨mem, sorted.known⟩, List.pairwise_cons.mpr ⟨fun other there => ?_, sorted.smaller⟩⟩
      rcases List.mem_cons.mp there with rfl | there
      · exact smaller
      · exact smaller.trans ((List.pairwise_cons.mp sorted.smaller).1 other there)
    · exact sorted

-- The newest record is below every WAKE that was heard.
theorem hear_head (heard : List Wake) (wake : Wake) :
    ∃ last older, hear heard wake = last :: older ∧ last.epoch ≤ wake.epoch ∧
      ∀ first rest, heard = first :: rest → last.epoch ≤ first.epoch := by
  unfold hear
  split
  · exact ⟨wake, [], rfl, le_refl _, fun _ _ same => by cases same⟩
  · rename_i last older
    split
    · rename_i smaller
      refine ⟨wake, last :: older, rfl, le_refl _, fun first rest same => ?_⟩
      cases same
      exact le_of_lt smaller
    · rename_i larger
      refine ⟨last, older, rfl, not_lt.mp larger, fun first rest same => ?_⟩
      cases same
      exact le_refl _

theorem record_eq {params : StateMachineParams} {older : List Wake} {event : Event}
    (larger : ∀ wake, event.wake = some wake → last.epoch ≤ wake.epoch) : record params (last :: older) event = last :: older := by
  cases event with
  | peerWake epoch report now => exact if_neg (larger ⟨epoch, report⟩ rfl).not_gt
  | _ => rfl

theorem foldl_record_eq {params : StateMachineParams} {older : List Wake} {events : List Event}
    (larger : ∀ event ∈ events, ∀ wake, event.wake = some wake → last.epoch ≤ wake.epoch) :
    events.foldl (record params) (last :: older) = last :: older := by
  induction events with
  | nil => rfl
  | cons event events ih =>
    obtain ⟨here, later⟩ := List.forall_mem_cons.mp larger
    rw [List.foldl_cons, record_eq here, ih later]

theorem foldl_record_le {params : StateMachineParams} {older : List Wake} {events : List Event}
    (ends : events.foldl (record params) heard = last :: older) :
    (∀ first rest, heard = first :: rest → last.epoch ≤ first.epoch) ∧
      ∀ event ∈ events, ∀ wake, event.wake = some wake → last.epoch ≤ wake.epoch := by
  induction events generalizing heard with
  | nil =>
    rw [List.foldl_nil] at ends
    exact ⟨fun first rest same => by cases ends.symm.trans same; exact le_refl _, fun _ mem => by cases mem⟩
  | cons event events ih =>
    obtain ⟨least, later⟩ := ih ends
    cases event with
    | peerWake epoch report now =>
      obtain ⟨newest, rest, heard', below, under⟩ := hear_head heard ⟨epoch, report⟩
      have first := least newest rest heard'
      refine ⟨fun head tail same => first.trans (under head tail same), List.forall_mem_cons.mpr ⟨?_, later⟩⟩
      intro wake same
      cases same
      exact first.trans below
    | localWake score snrDb rmsDbfs canServe now fresh =>
      refine ⟨fun head tail same => least head tail ?_, List.forall_mem_cons.mpr ⟨fun _ same => (nomatch same), later⟩⟩
      rw [same]
      rfl
    | _ => exact ⟨least, List.forall_mem_cons.mpr ⟨fun _ same => (nomatch same), later⟩⟩

theorem knows_eq_false {reports : List WakeReport} {peerId : String}
    (fresh : ∀ report ∈ reports, report.peerId ≠ peerId) : knows reports peerId = false := by
  simpa [knows] using fresh

theorem setReport_self {reports : List WakeReport} {report : WakeReport} (mem : report ∈ reports)
    (alone : ∀ other ∈ reports, other.peerId = report.peerId → other = report) : setReport reports report = reports := by
  have known : knows reports report.peerId = true := by
    simp only [knows, List.any_eq_true, decide_eq_true_eq]
    exact ⟨report, mem, rfl⟩
  rw [setReport, if_pos known]
  conv_rhs => rw [← List.map_id reports]
  refine List.map_congr_left fun other there => ?_
  split
  · rename_i same
    exact (alone other there same).symm
  · rfl

theorem foldl_setDefault {reports base : List WakeReport} (distinct : (base ++ reports).Pairwise (·.peerId ≠ ·.peerId)) :
    reports.foldl setDefault base = base ++ reports := by
  induction reports generalizing base with
  | nil => exact (List.append_nil base).symm
  | cons report reports ih =>
    have unknown : knows base report.peerId = false :=
      knows_eq_false fun other there => (List.pairwise_append.mp distinct).2.2 other there report List.mem_cons_self
    rw [List.foldl_cons, setDefault, if_neg (by simp [unknown]), ih (by simpa using distinct)]
    simp

/-- The epoch that the machine keeps for its records. -/
def epochOf (last : Wake) (older : List Wake) : Epoch := ⟨last.epoch, (last :: older).map Wake.report⟩

theorem Sorted.distinct (sorted : Sorted wakes heard) (apart : Apart wakes) :
    (heard.map Wake.report).Pairwise (·.peerId ≠ ·.peerId) := by
  refine List.pairwise_map.mpr (sorted.smaller.imp_of_mem fun {newer older} here there smaller same => ?_)
  rw [apart newer (sorted.known here) older (sorted.known there) (.inr same)] at smaller
  exact lt_irrefl _ smaller

-- The machine hears a WAKE as the records do.
theorem hear_epochOf (apart : Apart wakes) {older : List Wake} (sorted : Sorted wakes (last :: older)) (mem : wake ∈ wakes) :
    ∃ last' older', hear (last :: older) wake = last' :: older' ∧
      PeeringStateMachine.Epoch.hear (epochOf last older) wake.epoch wake.report = epochOf last' older' := by
  rcases lt_trichotomy wake.epoch last.epoch with smaller | same | larger
  · refine ⟨wake, last :: older, by simp [hear, smaller], ?_⟩
    have both : Sorted wakes (wake :: last :: older) := by simpa [hear, smaller] using sorted.hear mem
    rw [PeeringStateMachine.Epoch.hear, if_neg (by exact smaller.ne), if_pos (by exact smaller)]
    exact congrArg (Epoch.mk wake.epoch) (foldl_setDefault (both.distinct apart))
  · obtain rfl : wake = last := apart wake mem last (sorted.known List.mem_cons_self) (.inl same)
    refine ⟨wake, older, by simp [hear], ?_⟩
    rw [PeeringStateMachine.Epoch.hear, if_pos (by rfl)]
    refine congrArg (Epoch.mk wake.epoch) (setReport_self (List.mem_cons_self) fun other there alike => ?_)
    obtain ⟨source, here, rfl⟩ := List.mem_map.mp there
    rw [apart source (sorted.known here) wake mem (.inr alike)]
  · refine ⟨last, older, if_neg larger.le.not_gt, ?_⟩
    rw [PeeringStateMachine.Epoch.hear, if_neg (by exact larger.ne'), if_neg (by exact larger.le.not_gt)]

end Records

end Jts.Peering
