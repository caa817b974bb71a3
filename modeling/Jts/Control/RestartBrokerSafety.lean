import Jts.Control.RestartBroker

set_option autoImplicit false

namespace Jts.Control.RestartBroker

open Shared.PythonJson

section spec

variable (host : Host)

/-- Root, or one of the broker's clients. -/
def Permitted (uid : Uid) : Prop := uid = 0 ∨ ∃ user ∈ brokerClientUsers, host.uidOf user = some uid

/-- Root, or the service that owns the power verbs. -/
def MayPower (uid : Uid) : Prop := uid = 0 ∨ host.uidOf "jasper-control" = some uid

/-- The text of a line of one of the broker's peers. -/
structure Heard (connection : Connection) (uid : Uid) (text : String) : Prop where
  peer : connection.peer = .ok uid
  permitted : Permitted host uid
  line : ∃ raw, connection.line = .ok raw ∧ raw.size ≤ maxRequestBytes ∧ String.fromUTF8? raw = some text

/-- A request of the closed vocabulary, and the units it is for. -/
structure Granted (uid : Uid) (req : List (String × Json)) (verb : String) (units : List String) : Prop where
  asked : get req "verb" = .str verb
  known : verb ∈ allowedVerbs
  power : verb ∈ powerVerbs → MayPower host uid ∧ truthy (get req "units") = false ∧ units = []
  named : verb ∉ powerVerbs → ∃ names, names ≠ [] ∧ get req "units" = .list (names.map .str) ∧ units = names.map normalizeUnit
  allowed : ∀ unit ∈ units, unit ∈ managedUnits ∨ verb = "start" ∧ unit ∈ startOnlyUnits

end spec

/-- The argv of a verb before its units. -/
def fixedArgv (verb : String) (noBlock : Bool) : Argv :=
  if noBlock && decide (verb ∈ ["restart", "try-restart", "start", "stop"]) then ["systemctl", verb, "--no-block"] else ["systemctl", verb]

/-- The commands of a request, in order, as far as each one that is waited for succeeds. -/
def attempts (verb : String) (units : List String) (noBlock : Bool) (timeout : PyFloat) : List Command :=
  if verb ∈ powerVerbs then [.spawn (fixedArgv verb false ++ units)]
  else if verb = "restart" ∧ selfUnit ∈ units then
    let others := units.filter (· ≠ selfUnit)
    (if others = [] then [] else [.run (fixedArgv verb noBlock ++ others) timeout]) ++ [.spawn (fixedArgv verb true ++ [selfUnit])]
  else [.run (fixedArgv verb noBlock ++ units) timeout]

/-- Some command of the request is waited for. -/
def Waits (verb : String) (units : List String) : Prop :=
  verb ∉ powerVerbs ∧ (verb = "restart" → ∃ unit ∈ units, unit ≠ selfUnit)

/-- The verb's own argv with the request's units, split only to restart the broker last. -/
def OwnArgv (verb : String) (units : List String) (noBlock : Bool) (argvs : List Argv) : Prop :=
  argvs = [fixedArgv verb noBlock ++ units] ∨
    verb = "restart" ∧ selfUnit ∈ units ∧
      ∃ others, others = units.filter (· ≠ selfUnit) ∧
        (argvs = [fixedArgv verb noBlock ++ others] ∧ others ≠ [] ∨
          argvs = (if others = [] then [] else [fixedArgv verb noBlock ++ others]) ++ [fixedArgv verb true ++ [selfUnit]])

def Timely (verb : String) (units : List String) (noBlock : Bool) (timeout : PyFloat) : Prop :=
  ∃ seconds, timeout = .finite seconds ∧ 1 ≤ seconds ∧ seconds ≤ timeoutCeiling verb units noBlock

section spec

variable (host : Host)

def Host.call : Command → Except RunError ℤ
  | .run argv timeout => (host.run argv timeout).map Prod.fst
  | .spawn argv => (host.spawn argv).map fun _ => 0

/-- No command that is reached fails in a way the handler does not expect. -/
def Undisturbed : List Command → Prop
  | [] => True
  | command :: rest => host.call command ≠ .error .other ∧ (host.call command = .ok 0 → Undisturbed rest)

/-- Every command a handler started belongs to a granted request. -/
def Closed (connection : Connection) (handled : Handled) : Prop :=
  handled.commands ≠ [] →
    ∃ uid text req verb units, Heard host connection uid text ∧ host.loads text = .ok (.dict req) ∧
      Granted host uid req verb units ∧ OwnArgv verb units (noBlockOf req) (handled.commands.map Command.argv)

def Bounded (connection : Connection) (handled : Handled) : Prop :=
  ∀ uid text req verb units, Heard host connection uid text → host.loads text = .ok (.dict req) →
    Granted host uid req verb units → ∀ argv timeout, .run argv timeout ∈ handled.commands → Timely verb units (noBlockOf req) timeout

/-- One reply, whatever was asked. -/
def Answered (handled : Handled) : Prop := handled.replies.length = 1

/-- The claimed surface: nothing but what is granted is run, each wait is bounded, and each request is answered once. -/
structure Lawful (connection : Connection) (handled : Handled) : Prop where
  closed : Closed host connection handled
  bounded : Bounded host connection handled
  answered : Answered handled

/-- A request whose conversions succeed and whose commands fail only as expected. -/
structure Runs (req : List (String × Json)) (verb : String) (units : List String) : Prop where
  reason : ∃ text, reasonText host req = .ok text
  ranged : ∀ value, get req "exec_timeout" = .int value → value.natAbs < floatLimit
  ordered : Waits verb units → floatOf host.floatOfText (get req "exec_timeout") ≠ .ok .nan
  undisturbed : ∀ timeout, clampExecTimeout host.floatOfText (get req "exec_timeout") verb units (noBlockOf req) = .ok timeout →
    Undisturbed host (attempts verb units (noBlockOf req) timeout)

def hashable : Json → Bool
  | .list _ | .dict _ => false
  | _ => true

/-- A text that can be parsed, with a verb that can be looked up. -/
structure Serviceable (uid : Uid) (text : String) : Prop where
  parsed : host.loads text ≠ .error .digits ∧ host.loads text ≠ .error .depth
  hashed : ∀ req, host.loads text = .ok (.dict req) → hashable (get req "verb") = true
  runs : ∀ req verb units, host.loads text = .ok (.dict req) → Granted host uid req verb units → Runs host req verb units

end spec

theorem buildArgv_eq {verb : String} (known : verb ∈ allowedVerbs) (units : List String) (noBlock : Bool) :
    buildArgv verb units noBlock = fixedArgv verb noBlock ++ units := by
  simp only [allowedVerbs, verbArgv, List.map_cons, List.map_nil, List.mem_cons, List.not_mem_nil, or_false] at known
  obtain rfl | rfl | rfl | rfl | rfl | rfl | rfl := known <;> cases noBlock <;> rfl

theorem timeoutCeiling_ge (verb : String) (units : List String) (noBlock : Bool) : 30 ≤ timeoutCeiling verb units noBlock := by
  have ordinary : (30 : ℚ) ≤ execTimeoutCeilingSec := by decide +kernel
  have extended : ∀ entry ∈ extendedExecTimeoutCeilingSec, 30 ≤ entry.2 := by decide +kernel
  unfold timeoutCeiling
  split
  · cases found : extendedExecTimeoutCeilingSec.lookup (_, verb) with
    | none => exact ordinary
    | some ceiling =>
        obtain ⟨before, after, split, -⟩ := List.lookup_eq_some_iff.mp found
        exact extended ((_, verb), ceiling) (by rw [split]; exact List.mem_append_right _ List.mem_cons_self)
  · exact ordinary


theorem mem_allowedUids {host : Host} {uid : Uid} : uid ∈ allowedUids host ↔ Permitted host uid := by
  simp [allowedUids, Permitted]

theorem mem_powerVerbUids {host : Host} {uid : Uid} : uid ∈ powerVerbUids host ↔ MayPower host uid := by
  cases owner : host.uidOf "jasper-control" <;> simp [powerVerbUids, MayPower, owner, eq_comm]

theorem unitAllowedForVerb_iff {unit verb : String} :
    unitAllowedForVerb unit verb = true ↔ unit ∈ managedUnits ∨ verb = "start" ∧ unit ∈ startOnlyUnits := by
  simp [unitAllowedForVerb]

section clamp

theorem clamp_timely {value : PyFloat} {ceiling : ℚ} (ordered : value ≠ .nan) (wide : 1 ≤ ceiling) :
    ∃ seconds, (value.pyMax (.finite 1)).pyMin (.finite ceiling) = .finite seconds ∧ 1 ≤ seconds ∧ seconds ≤ ceiling := by
  cases value with
  | nan => exact absurd rfl ordered
  | infinity negative =>
      cases negative with
      | false => exact ⟨ceiling, rfl, wide, le_refl _⟩
      | true =>
          by_cases past : ceiling < 1
          · exact absurd wide (not_le.mpr past)
          · exact ⟨1, by simp [PyFloat.pyMin, PyFloat.pyMax, PyFloat.lt, past], le_refl _, wide⟩
  | finite value =>
      by_cases low : value < 1
      · exact ⟨1, by simp [PyFloat.pyMin, PyFloat.pyMax, PyFloat.lt, low, not_lt.mpr wide], le_refl _, wide⟩
      · by_cases high : ceiling < value
        · exact ⟨ceiling, by simp [PyFloat.pyMin, PyFloat.pyMax, PyFloat.lt, low, high], wide, le_refl _⟩
        · exact ⟨value, by simp [PyFloat.pyMin, PyFloat.pyMax, PyFloat.lt, low, high], not_lt.mp low, not_lt.mp high⟩

-- No comparison moves a nan.
theorem clamp_nan (ceiling : ℚ) : (PyFloat.nan.pyMax (.finite 1)).pyMin (.finite ceiling) = .nan := rfl

variable {floatOfText : String → Option PyFloat} {raw : Json} {verb : String} {units : List String} {noBlock : Bool}

theorem clampExecTimeout_timely {timeout : PyFloat} (clamped : clampExecTimeout floatOfText raw verb units noBlock = .ok timeout)
    (ordered : floatOf floatOfText raw ≠ .ok .nan) : Timely verb units noBlock timeout := by
  have wide := timeoutCeiling_ge verb units noBlock
  cases float : floatOf floatOfText raw with
  | ok value =>
      have number : value ≠ .nan := fun isNan => ordered (by rw [float, isNan])
      obtain ⟨seconds, eq, low, high⟩ := clamp_timely number (le_trans (by norm_num) wide)
      have timeout_eq : timeout = .finite seconds := by simpa [clampExecTimeout, float, eq, eq_comm] using clamped
      exact ⟨seconds, timeout_eq, low, high⟩
  | error error =>
      by_cases caught : (error.isA .type || error.isA .value) = true
      · have timeout_eq : timeout = .finite defaultExecTimeoutSec := by
          simpa only [clampExecTimeout, float, caught, if_true, Except.ok.injEq, eq_comm] using clamped
        exact ⟨defaultExecTimeoutSec, timeout_eq, by decide +kernel, wide⟩
      · simp [clampExecTimeout, float, caught] at clamped

theorem clampExecTimeout_nan (float : floatOf floatOfText raw = .ok .nan) :
    clampExecTimeout floatOfText raw verb units noBlock = .ok .nan := by
  rw [clampExecTimeout, float]
  exact congrArg Except.ok (clamp_nan _)

-- Only an integer past every float is not converted.
theorem clampExecTimeout_ok_iff :
    (∃ timeout, clampExecTimeout floatOfText raw verb units noBlock = .ok timeout) ↔
      ∀ value, raw = .int value → value.natAbs < floatLimit := by
  cases raw with
  | int value =>
      by_cases fits : value.natAbs < floatLimit
      · simp [clampExecTimeout, floatOf, floatOfInt, fits]
      · simp [clampExecTimeout, floatOf, floatOfInt, fits, PyError.isA]
  | str text => cases read : floatOfText text <;> simp [clampExecTimeout, floatOf, read, PyError.isA]
  | null => simp [clampExecTimeout, floatOf, PyError.isA]
  | bool value => simp [clampExecTimeout, floatOf]
  | float value => simp [clampExecTimeout, floatOf]
  | list items => simp [clampExecTimeout, floatOf, PyError.isA]
  | dict fields => simp [clampExecTimeout, floatOf, PyError.isA]

end clamp

section run

variable (host : Host) {verb : String} (units : List String) (noBlock : Bool) (timeout : PyFloat)

theorem spawnDetached_other (argv : Argv) : (spawnDetached host argv).2 = .error .other ↔ ¬ Undisturbed host [.spawn argv] := by
  cases spawned : host.spawn argv <;> simp [spawnDetached, spawned, Undisturbed, Host.call, Except.map]


/-- How far the attempts went, and whether they ended in an unexpected failure. -/
structure Followed (attempts : List Command) (result : RunResult) : Prop where
  commands : ∃ rest, attempts = result.1 ++ rest
  some : result.1 ≠ []
  other : result.2 = .error .other ↔ ¬ Undisturbed host attempts

theorem spawnDetached_followed (argv : Argv) : Followed host [.spawn argv] (spawnDetached host argv) where
  commands := ⟨[], rfl⟩
  some := List.cons_ne_nil _ _
  other := spawnDetached_other host argv

theorem run_followed (argv : Argv) :
    Followed host [.run argv timeout]
      ([.run argv timeout], (host.run argv timeout).map fun (rc, stderr) => (some rc, stripped stderr, false)) where
  commands := ⟨[], rfl⟩
  some := List.cons_ne_nil _ _
  other := by cases ran : host.run argv timeout <;> simp [ran, Undisturbed, Host.call, Except.map]

-- The commands for the other units come first, and what they end in decides whether the broker restarts itself.
theorem split_followed (argv self : Argv) :
    Followed host ([.run argv timeout] ++ [.spawn self])
      (match host.run argv timeout with
        | .error error => ([.run argv timeout], .error error)
        | .ok (rc, stderr) =>
            if rc ≠ 0 then ([.run argv timeout], .ok (some rc, stripped stderr, false))
            else (.run argv timeout :: (spawnDetached host self).1, (spawnDetached host self).2)) := by
  cases ran : host.run argv timeout with
  | error error =>
      refine ⟨⟨[.spawn self], rfl⟩, List.cons_ne_nil _ _, ?_⟩
      simp [Undisturbed, Host.call, ran, Except.map]
  | ok ended =>
      obtain ⟨rc, stderr⟩ := ended
      by_cases zero : rc = 0
      · simp only [zero, ne_eq, not_true_eq_false, if_false]
        refine ⟨⟨[], rfl⟩, List.cons_ne_nil _ _, ?_⟩
        rw [spawnDetached_other]
        simp [Undisturbed, Host.call, ran, Except.map, zero]
      · simp only [ne_eq, zero, not_false_eq_true, if_true]
        refine ⟨⟨[.spawn self], rfl⟩, List.cons_ne_nil _ _, ?_⟩
        simp [Undisturbed, Host.call, ran, Except.map, zero]

theorem runSystemctlRequest_followed (known : verb ∈ allowedVerbs) :
    Followed host (attempts verb units noBlock timeout) (runSystemctlRequest host verb units noBlock timeout) := by
  unfold runSystemctlRequest attempts
  simp only [buildArgv_eq known]
  by_cases power : verb ∈ powerVerbs
  · rw [if_pos power, if_pos power]
    exact spawnDetached_followed host _
  rw [if_neg power, if_neg power]
  by_cases own : verb = "restart" ∧ selfUnit ∈ units
  · rw [if_pos own, if_pos own]
    by_cases alone : units.filter (· ≠ selfUnit) = []
    · rw [if_pos alone, if_pos alone]
      exact spawnDetached_followed host _
    · rw [if_neg alone, if_neg alone]
      exact split_followed host timeout _ _
  · rw [if_neg own, if_neg own]
    exact run_followed host timeout _

theorem execute_commands : (execute host verb units noBlock timeout).commands = (runSystemctlRequest host verb units noBlock timeout).1 := by
  unfold execute
  split <;> rename_i eq <;> rw [eq] <;> rfl

theorem execute_answered_iff :
    Answered (execute host verb units noBlock timeout) ↔ (runSystemctlRequest host verb units noBlock timeout).2 ≠ .error .other := by
  unfold execute
  split <;> rename_i eq <;> rw [eq] <;> simp [Answered, Handled.reply, Handled.crash]


variable {noBlock timeout units}

theorem filter_others {units : List String} : units.filter (· ≠ selfUnit) ≠ [] ↔ ∃ unit ∈ units, unit ≠ selfUnit := by
  simp [List.filter_eq_nil_iff]

theorem attempts_waits {command : Command} {rest : List Command} (named : verb ∉ powerVerbs → units ≠ [])
    (first : attempts verb units noBlock timeout = command :: rest) : Waits verb units ↔ ∃ argv, command = .run argv timeout := by
  unfold attempts at first
  by_cases power : verb ∈ powerVerbs
  · rw [if_pos power] at first
    simp [Waits, power, ← (List.cons.inj first).1]
  rw [if_neg power] at first
  by_cases own : verb = "restart" ∧ selfUnit ∈ units
  · rw [if_pos own] at first
    dsimp only at first
    by_cases alone : units.filter (· ≠ selfUnit) = []
    · rw [if_pos alone, List.nil_append] at first
      have never : ¬ Waits verb units := fun waits => filter_others.mpr (waits.2 own.1) alone
      simp [never, ← (List.cons.inj first).1]
    · rw [if_neg alone, List.singleton_append] at first
      have waits : Waits verb units := ⟨power, fun _ => filter_others.mp alone⟩
      simp [waits, ← (List.cons.inj first).1]
  · rw [if_neg own] at first
    obtain ⟨unit, mem⟩ := List.exists_mem_of_ne_nil _ (named power)
    have waits : Waits verb units := ⟨power, fun restart => ⟨unit, mem, fun same => own ⟨restart, same ▸ mem⟩⟩⟩
    simp [waits, ← (List.cons.inj first).1]

-- Only the first command is waited for.
theorem attempts_run {argv : Argv} {seconds : PyFloat} (mem : .run argv seconds ∈ attempts verb units noBlock timeout) :
    seconds = timeout ∧ ∃ rest, attempts verb units noBlock timeout = .run argv seconds :: rest := by
  unfold attempts at mem ⊢
  by_cases power : verb ∈ powerVerbs
  · simp [power] at mem
  by_cases own : verb = "restart" ∧ selfUnit ∈ units
  · rw [if_neg power, if_pos own] at mem ⊢
    dsimp only at mem ⊢
    by_cases alone : units.filter (· ≠ selfUnit) = []
    · rw [if_pos alone] at mem
      simp at mem
    · rw [if_neg alone, List.singleton_append] at mem ⊢
      obtain eq | eq := List.mem_cons.mp mem
      · exact ⟨(Command.run.inj eq).2, _, by rw [eq]⟩
      · exact absurd (List.mem_singleton.mp eq) nofun
  · rw [if_neg power, if_neg own, List.mem_singleton] at mem
    rw [if_neg power, if_neg own]
    exact ⟨(Command.run.inj mem).2, [], by rw [mem]⟩

theorem start_of_one {command : Command} {done rest : List Command} (split : [command] = done ++ rest) (some : done ≠ []) :
    done = [command] := by
  cases done with
  | nil => exact absurd rfl some
  | cons first done =>
      obtain ⟨rfl, tail⟩ := List.cons.inj split
      rw [(List.append_eq_nil_iff.mp tail.symm).1]

theorem start_of_two {first second : Command} {done rest : List Command} (split : [first, second] = done ++ rest) (some : done ≠ []) :
    done = [first] ∨ done = [first, second] := by
  cases done with
  | nil => exact absurd rfl some
  | cons command done =>
      obtain ⟨rfl, tail⟩ := List.cons.inj split
      by_cases none : done = []
      · exact .inl (by rw [none])
      · exact .inr (by rw [start_of_one tail none])

theorem fixedArgv_power (power : verb ∈ powerVerbs) (noBlock : Bool) : fixedArgv verb noBlock = fixedArgv verb false := by
  simp only [powerVerbs, List.mem_cons, List.not_mem_nil, or_false] at power
  obtain rfl | rfl := power <;> cases noBlock <;> rfl

theorem ownArgv_of_start {done rest : List Command} (split : attempts verb units noBlock timeout = done ++ rest) (some : done ≠ []) :
    OwnArgv verb units noBlock (done.map Command.argv) := by
  unfold attempts at split
  by_cases power : verb ∈ powerVerbs
  · rw [if_pos power] at split
    rw [start_of_one split some, ← fixedArgv_power power noBlock]
    exact .inl rfl
  rw [if_neg power] at split
  by_cases own : verb = "restart" ∧ selfUnit ∈ units
  · rw [if_pos own] at split
    dsimp only at split
    refine .inr ⟨own.1, own.2, _, rfl, ?_⟩
    by_cases alone : units.filter (· ≠ selfUnit) = []
    · rw [if_pos alone] at split
      rw [start_of_one split some, if_pos alone]
      exact .inr rfl
    · rw [if_neg alone] at split
      rw [if_neg alone]
      obtain eq | eq := start_of_two split some
      · exact .inl ⟨by rw [eq]; rfl, alone⟩
      · exact .inr (by rw [eq]; rfl)
  · rw [if_neg own] at split
    rw [start_of_one split some]
    exact .inl rfl

end run

section serve

variable {host : Host} {uid : Uid} {req : List (String × Json)} {verb : String} {units : List String}

theorem Granted.units_ne (granted : Granted host uid req verb units) (power : verb ∉ powerVerbs) : units ≠ [] := by
  obtain ⟨names, some, -, rfl⟩ := granted.named power
  simpa using some

theorem serve_runs (text : String) (reason : reasonText host req = .ok text) (timeout : PyFloat)
    (clamped : clampExecTimeout host.floatOfText (get req "exec_timeout") verb units (noBlockOf req) = .ok timeout) :
    serve host verb units req = execute host verb units (noBlockOf req) timeout := by
  rw [serve, reason]
  dsimp only
  rw [clamped]

theorem serve_cases :
    (serve host verb units req = .crash [] ∧
        ¬ ((∃ text, reasonText host req = .ok text) ∧
          ∃ timeout, clampExecTimeout host.floatOfText (get req "exec_timeout") verb units (noBlockOf req) = .ok timeout)) ∨
      ∃ text timeout, reasonText host req = .ok text ∧
        clampExecTimeout host.floatOfText (get req "exec_timeout") verb units (noBlockOf req) = .ok timeout ∧
        serve host verb units req = execute host verb units (noBlockOf req) timeout := by
  cases reason : reasonText host req with
  | error error => exact .inl ⟨by rw [serve, reason], by simp⟩
  | ok text =>
      cases clamped : clampExecTimeout host.floatOfText (get req "exec_timeout") verb units (noBlockOf req) with
      | error error => exact .inl ⟨by rw [serve, reason]; dsimp only; rw [clamped], by simp⟩
      | ok timeout => exact .inr ⟨text, timeout, rfl, rfl, serve_runs text reason timeout clamped⟩

theorem serve_ownArgv (known : verb ∈ allowedVerbs) (some : (serve host verb units req).commands ≠ []) :
    OwnArgv verb units (noBlockOf req) ((serve host verb units req).commands.map Command.argv) := by
  obtain ⟨crashed, -⟩ | ⟨text, timeout, -, -, runs⟩ := @serve_cases host req verb units
  · rw [crashed] at some
    exact absurd rfl some
  · rw [runs, execute_commands] at some ⊢
    obtain ⟨rest, split⟩ := (runSystemctlRequest_followed host units (noBlockOf req) timeout known).commands
    exact ownArgv_of_start split some

theorem serve_lawful_iff (granted : Granted host uid req verb units) :
    ((∀ argv timeout, .run argv timeout ∈ (serve host verb units req).commands → Timely verb units (noBlockOf req) timeout) ∧
        Answered (serve host verb units req)) ↔
      Runs host req verb units := by
  obtain ⟨crashed, unconverted⟩ | ⟨text, timeout, reason, clamped, runs⟩ :=
    @serve_cases host req verb units
  · rw [crashed]
    constructor
    · rintro ⟨-, answered⟩
      exact absurd answered (by simp [Answered, Handled.crash])
    · intro runs
      exact absurd ⟨runs.reason, clampExecTimeout_ok_iff.mpr runs.ranged⟩ unconverted
  have followed := runSystemctlRequest_followed host units (noBlockOf req) timeout granted.known
  obtain ⟨rest, split⟩ := followed.commands
  rw [runs, execute_answered_iff, execute_commands, ne_eq, followed.other, not_not]
  constructor
  · rintro ⟨bounded, undisturbed⟩
    refine ⟨⟨text, reason⟩, clampExecTimeout_ok_iff.mp ⟨timeout, clamped⟩, ?_, ?_⟩
    · intro waits float
      have isNan : timeout = .nan := Except.ok.inj (clamped.symm.trans (clampExecTimeout_nan float))
      obtain ⟨command, done, started⟩ := List.exists_cons_of_ne_nil followed.some
      rw [started] at split bounded
      obtain ⟨argv, rfl⟩ := (attempts_waits granted.units_ne split).mp waits
      obtain ⟨seconds, eq, -⟩ := bounded argv timeout List.mem_cons_self
      exact absurd (isNan.symm.trans eq) nofun
    · intro other again
      rwa [Except.ok.inj (again.symm.trans clamped)]
  · intro allowed
    refine ⟨?_, allowed.undisturbed timeout clamped⟩
    intro argv seconds mem
    obtain ⟨rfl, after, first⟩ := attempts_run (split ▸ List.mem_append_left rest mem)
    exact clampExecTimeout_timely clamped (allowed.ordered ((attempts_waits granted.units_ne first).mpr ⟨argv, rfl⟩))

end serve

section handle

variable {host : Host} {uid : Uid} {req : List (String × Json)} {verb : String} {units : List String}

theorem strs_eq_some {items : List Json} {names : List String} : strs items = some names ↔ items = names.map .str := by
  induction items generalizing names with
  | nil => cases names <;> simp [strs]
  | cons item items ih =>
      cases item with
      | str text =>
          cases names with
          | nil => simp [strs]
          | cons name names => simp [strs, ih, and_comm]
      | null | bool | int | float | list | dict => cases names <;> simp [strs]

theorem unitNames_eq_some {raw : Json} {names : List String} :
    unitNames raw = some names ↔ names ≠ [] ∧ raw = .list (names.map .str) := by
  cases raw with
  | list items =>
      cases items with
      | nil => cases names <;> simp [unitNames]
      | cons item items =>
          have some : unitNames (.list (item :: items)) = strs (item :: items) := rfl
          rw [some, strs_eq_some]
          cases names <;> simp
  | null | bool | int | float | str | dict => simp [unitNames]

theorem handleUnits_allowed {names : List String}
    (allowed : ∀ unit ∈ names.map normalizeUnit, unit ∈ managedUnits ∨ verb = "start" ∧ unit ∈ startOnlyUnits) :
    handleUnits host verb names req = serve host verb (names.map normalizeUnit) req := by
  have none : (names.map normalizeUnit).filter (fun unit => !unitAllowedForVerb unit verb) = [] := by
    rw [List.filter_eq_nil_iff]
    intro unit mem
    simp [unitAllowedForVerb_iff.mpr (allowed unit mem)]
  rw [handleUnits, if_neg (not_not.mpr none)]

theorem handleUnits_refused {names : List String}
    (refused : ¬ ∀ unit ∈ names.map normalizeUnit, unit ∈ managedUnits ∨ verb = "start" ∧ unit ∈ startOnlyUnits) :
    ∃ text, handleUnits host verb names req = refuse text := by
  obtain ⟨unit, mem, denied⟩ : ∃ unit ∈ names.map normalizeUnit, ¬ unitAllowedForVerb unit verb = true := by
    simpa only [unitAllowedForVerb_iff, not_forall, exists_prop] using refused
  have bad : unit ∈ (names.map normalizeUnit).filter (fun unit => !unitAllowedForVerb unit verb) := by
    refine List.mem_filter.mpr ⟨mem, ?_⟩
    simpa using denied
  exact ⟨_, if_pos (List.ne_nil_of_mem bad)⟩

theorem handleVerb_cases (asked : get req "verb" = .str verb) (known : verb ∈ allowedVerbs) :
    (∃ units, Granted host uid req verb units ∧ handleVerb host uid verb req = serve host verb units req) ∨
      (∃ text, handleVerb host uid verb req = refuse text) ∧ ∀ units, ¬ Granted host uid req verb units := by
  unfold handleVerb
  by_cases power : verb ∈ powerVerbs
  · rw [if_pos power]
    by_cases may : uid ∈ powerVerbUids host
    · rw [if_neg (not_not.mpr may)]
      cases named : truthy (get req "units") with
      | true => exact .inr ⟨⟨_, rfl⟩, fun units granted => absurd (granted.power power).2.1 (by simp [named])⟩
      | false =>
          refine .inl ⟨[], ⟨asked, known, fun _ => ⟨mem_powerVerbUids.mp may, named, rfl⟩, fun plain => absurd power plain, ?_⟩, ?_⟩
          · exact fun unit mem => absurd mem List.not_mem_nil
          · exact @handleUnits_allowed host req verb [] fun unit mem => absurd mem List.not_mem_nil
    · rw [if_pos may]
      exact .inr ⟨⟨_, rfl⟩, fun units granted => may (mem_powerVerbUids.mpr (granted.power power).1)⟩
  · rw [if_neg power]
    cases named : unitNames (get req "units") with
    | none =>
        refine .inr ⟨⟨_, rfl⟩, fun units granted => ?_⟩
        obtain ⟨names, some, eq, -⟩ := granted.named power
        exact absurd (unitNames_eq_some.mpr ⟨some, eq⟩) (by simp [named])
    | some names =>
        obtain ⟨some, eq⟩ := unitNames_eq_some.mp named
        by_cases allowed : ∀ unit ∈ names.map normalizeUnit, unit ∈ managedUnits ∨ verb = "start" ∧ unit ∈ startOnlyUnits
        · exact .inl ⟨_, ⟨asked, known, fun other => absurd other power, fun _ => ⟨names, some, eq, rfl⟩, allowed⟩,
            handleUnits_allowed allowed⟩
        · refine .inr ⟨handleUnits_refused allowed, fun units granted => allowed ?_⟩
          obtain ⟨others, -, same, rfl⟩ := granted.named power
          have names_eq : others = names := by
            have lists : others.map Json.str = names.map Json.str := Json.list.inj (same.symm.trans eq)
            exact List.map_injective_iff.mpr (fun _ _ => Json.str.inj) lists
          exact names_eq ▸ granted.allowed

theorem Granted.unique {other : String} {others : List String} (granted : Granted host uid req verb units)
    (again : Granted host uid req other others) : verb = other ∧ units = others := by
  have verbs : verb = other := Json.str.inj (granted.asked.symm.trans again.asked)
  subst verbs
  by_cases power : verb ∈ powerVerbs
  · exact ⟨rfl, (granted.power power).2.2.trans (again.power power).2.2.symm⟩
  · obtain ⟨names, -, eq, rfl⟩ := granted.named power
    obtain ⟨more, -, same, rfl⟩ := again.named power
    have lists : names.map Json.str = more.map Json.str := Json.list.inj (eq.symm.trans same)
    exact ⟨rfl, by rw [List.map_injective_iff.mpr (fun _ _ => Json.str.inj) lists]⟩

theorem handleRequest_cases (host : Host) (uid : Uid) (req : List (String × Json)) :
    (∃ verb units, Granted host uid req verb units ∧ hashable (get req "verb") = true ∧
        handleRequest host uid req = serve host verb units req) ∨
      (∀ verb units, ¬ Granted host uid req verb units) ∧
        ((∃ text, handleRequest host uid req = refuse text) ∧ hashable (get req "verb") = true ∨
          handleRequest host uid req = .crash [] ∧ hashable (get req "verb") = false) := by
  have unasked (never : ∀ verb, get req "verb" ≠ .str verb) (verb : String) (units : List String) : ¬ Granted host uid req verb units :=
    fun granted => never verb granted.asked
  unfold handleRequest
  cases asked : get req "verb" with
  | str verb =>
      by_cases known : verb ∈ allowedVerbs
      · dsimp only
        rw [if_pos known]
        obtain ⟨units, granted, served⟩ | ⟨refused, never⟩ := @handleVerb_cases host uid req verb asked known
        · exact .inl ⟨verb, units, granted, rfl, served⟩
        · refine .inr ⟨fun other units granted => ?_, .inl ⟨refused, rfl⟩⟩
          have same : verb = other := Json.str.inj (asked.symm.trans granted.asked)
          exact never units (same ▸ granted)
      · refine .inr ⟨fun other units granted => known ?_, .inl ⟨⟨_, if_neg known⟩, rfl⟩⟩
        exact Json.str.inj (asked.symm.trans granted.asked) ▸ granted.known
  | list items => exact .inr ⟨unasked (by simp [asked]), .inr ⟨rfl, rfl⟩⟩
  | dict fields => exact .inr ⟨unasked (by simp [asked]), .inr ⟨rfl, rfl⟩⟩
  | null => exact .inr ⟨unasked (by simp [asked]), .inl ⟨⟨_, rfl⟩, rfl⟩⟩
  | bool value => exact .inr ⟨unasked (by simp [asked]), .inl ⟨⟨_, rfl⟩, rfl⟩⟩
  | int value => exact .inr ⟨unasked (by simp [asked]), .inl ⟨⟨_, rfl⟩, rfl⟩⟩
  | float value => exact .inr ⟨unasked (by simp [asked]), .inl ⟨⟨_, rfl⟩, rfl⟩⟩

theorem answered_refuse (text : String) : Answered (refuse text) := rfl

theorem not_answered_crash (commands : List Command) : ¬ Answered (.crash commands) := by simp [Answered, Handled.crash]

end handle

section connection

variable {host : Host} {connection : Connection} {uid : Uid} {text : String}

theorem handle_heard (heard : Heard host connection uid text) : handle host connection = handleText host uid text := by
  obtain ⟨raw, line, small, utf8⟩ := heard.line
  rw [handle, heard.peer]
  dsimp only
  rw [if_neg (not_not.mpr (mem_allowedUids.mpr heard.permitted)), line]
  dsimp only
  rw [if_neg (not_lt.mpr small), utf8]

theorem handle_unheard (unheard : ∀ uid text, ¬ Heard host connection uid text) : ∃ text, handle host connection = refuse text := by
  unfold handle
  cases peer : connection.peer with
  | error text => exact ⟨_, rfl⟩
  | ok uid =>
      dsimp only
      by_cases denied : uid ∉ allowedUids host
      · exact ⟨_, if_pos denied⟩
      rw [if_neg denied]
      cases line : connection.line with
      | error text => exact ⟨_, rfl⟩
      | ok raw =>
          dsimp only
          by_cases large : maxRequestBytes < raw.size
          · exact ⟨_, if_pos large⟩
          rw [if_neg large]
          cases utf8 : String.fromUTF8? raw with
          | none => exact ⟨_, rfl⟩
          | some text =>
              exact absurd ⟨peer, mem_allowedUids.mp (not_not.mp denied), raw, line, not_lt.mp large, utf8⟩ (unheard uid text)

theorem Heard.unique {other : Uid} {more : String} (heard : Heard host connection uid text) (again : Heard host connection other more) :
    uid = other ∧ text = more := by
  obtain ⟨raw, line, -, utf8⟩ := heard.line
  obtain ⟨same, read, -, decoded⟩ := again.line
  rw [Except.ok.inj (line.symm.trans read)] at utf8
  exact ⟨Except.ok.inj (heard.peer.symm.trans again.peer), Option.some.inj (utf8.symm.trans decoded)⟩

theorem handleText_cases (host : Host) (uid : Uid) (text : String) :
    (∃ req, host.loads text = .ok (.dict req) ∧ handleText host uid text = handleRequest host uid req) ∨
      (∀ req, host.loads text ≠ .ok (.dict req)) ∧
        ((∃ error, handleText host uid text = refuse error) ∧ host.loads text ≠ .error .digits ∧ host.loads text ≠ .error .depth ∨
          handleText host uid text = .crash [] ∧ ¬ (host.loads text ≠ .error .digits ∧ host.loads text ≠ .error .depth)) := by
  unfold handleText
  cases loaded : host.loads text with
  | error error =>
      cases error with
      | decode => exact .inr ⟨nofun, .inl ⟨⟨_, rfl⟩, nofun, nofun⟩⟩
      | digits => exact .inr ⟨nofun, .inr ⟨rfl, by simp⟩⟩
      | depth => exact .inr ⟨nofun, .inr ⟨rfl, by simp⟩⟩
  | ok value =>
      cases value with
      | dict req => exact .inl ⟨req, rfl, rfl⟩
      | null | bool | int | float | str | list => exact .inr ⟨nofun, .inl ⟨⟨_, rfl⟩, nofun, nofun⟩⟩

/-- Nothing is run but what is granted, whatever the peer sends. -/
theorem handle_closed (host : Host) (connection : Connection) : Closed host connection (handle host connection) := by
  intro started
  by_cases heard : ∃ uid text, Heard host connection uid text
  · obtain ⟨uid, text, heard⟩ := heard
    rw [handle_heard heard] at started ⊢
    obtain ⟨req, loaded, eq⟩ | ⟨-, ⟨⟨error, eq⟩, -⟩ | ⟨eq, -⟩⟩ := handleText_cases host uid text
    · rw [eq] at started ⊢
      obtain ⟨verb, units, granted, -, served⟩ | ⟨-, ⟨⟨error, refused⟩, -⟩ | ⟨crashed, -⟩⟩ := handleRequest_cases host uid req
      · rw [served] at started ⊢
        exact ⟨uid, text, req, verb, units, heard, loaded, granted, serve_ownArgv granted.known started⟩
      · exact absurd (by rw [refused]; rfl) started
      · exact absurd (by rw [crashed]; rfl) started
    · exact absurd (by rw [eq]; rfl) started
    · exact absurd (by rw [eq]; rfl) started
  · push Not at heard
    obtain ⟨error, refused⟩ := handle_unheard heard
    exact absurd (by rw [refused]; rfl) started

theorem bounded_of_idle {handled : Handled} (idle : handled.commands = []) : Bounded host connection handled := by
  intro uid text req verb units _ _ _ argv timeout mem
  rw [idle] at mem
  exact absurd mem List.not_mem_nil

-- The request is the only one its text can be.
theorem bounded_serve_iff {req : List (String × Json)} {verb : String} {units : List String} {handled : Handled}
    (heard : Heard host connection uid text) (loaded : host.loads text = .ok (.dict req)) (granted : Granted host uid req verb units) :
    Bounded host connection handled ↔
      ∀ argv timeout, .run argv timeout ∈ handled.commands → Timely verb units (noBlockOf req) timeout := by
  constructor
  · exact fun bounded => bounded uid text req verb units heard loaded granted
  · intro timely other more again verbs parts also reloaded regranted
    obtain ⟨rfl, rfl⟩ := heard.unique also
    obtain rfl : req = again := Json.dict.inj (Except.ok.inj (loaded.symm.trans reloaded))
    obtain ⟨rfl, rfl⟩ := granted.unique regranted
    exact timely

theorem heard_lawful_iff (heard : Heard host connection uid text) :
    (Bounded host connection (handle host connection) ∧ Answered (handle host connection)) ↔ Serviceable host uid text := by
  rw [handle_heard heard]
  obtain ⟨req, loaded, eq⟩ | ⟨never, ⟨⟨error, eq⟩, parsed⟩ | ⟨eq, unparsed⟩⟩ := handleText_cases host uid text
  · have same {again : List (String × Json)} (reloaded : host.loads text = .ok (.dict again)) : req = again :=
      Json.dict.inj (Except.ok.inj (loaded.symm.trans reloaded))
    have parsed : host.loads text ≠ .error .digits ∧ host.loads text ≠ .error .depth := by simp [loaded]
    rw [eq]
    obtain ⟨verb, units, granted, hashed, served⟩ | ⟨never, ⟨⟨error, refused⟩, hashed⟩ | ⟨crashed, unhashed⟩⟩ :=
      handleRequest_cases host uid req
    · rw [served, bounded_serve_iff heard loaded granted, serve_lawful_iff granted]
      constructor
      · intro runs
        refine ⟨parsed, fun again reloaded => same reloaded ▸ hashed, fun again verbs parts reloaded regranted => ?_⟩
        obtain rfl := same reloaded
        obtain ⟨rfl, rfl⟩ := granted.unique regranted
        exact runs
      · exact fun serviceable => serviceable.runs req verb units loaded granted
    · rw [refused]
      refine iff_of_true ⟨bounded_of_idle rfl, answered_refuse error⟩ ⟨parsed, fun again reloaded => same reloaded ▸ hashed, ?_⟩
      exact fun again verb units reloaded granted => absurd (same reloaded ▸ granted) (never verb units)
    · rw [crashed]
      refine iff_of_false (fun lawful => not_answered_crash [] lawful.2) fun serviceable => ?_
      exact absurd (serviceable.hashed req loaded) (by simp [unhashed])
  · rw [eq]
    exact iff_of_true ⟨bounded_of_idle rfl, answered_refuse error⟩
      ⟨parsed, fun req loaded => absurd loaded (never req), fun req _ _ loaded => absurd loaded (never req)⟩
  · rw [eq]
    exact iff_of_false (fun lawful => not_answered_crash [] lawful.2) fun serviceable => unparsed serviceable.parsed

/-- The broker's surface is closed for every peer and every line; each request is answered once and waits in its bounds just when
its text can be parsed, its verb looked up, its reason and timeout converted, its timeout ordered and its commands fail as expected. -/
theorem handle_lawful_iff (host : Host) (connection : Connection) :
    Closed host connection (handle host connection) ∧
      (Lawful host connection (handle host connection) ↔ ∀ uid text, Heard host connection uid text → Serviceable host uid text) := by
  refine ⟨handle_closed host connection, ?_⟩
  constructor
  · intro lawful uid text heard
    exact (heard_lawful_iff heard).mp ⟨lawful.bounded, lawful.answered⟩
  · intro serviceable
    by_cases heard : ∃ uid text, Heard host connection uid text
    · obtain ⟨uid, text, heard⟩ := heard
      obtain ⟨bounded, answered⟩ := (heard_lawful_iff heard).mpr (serviceable uid text heard)
      exact ⟨handle_closed host connection, bounded, answered⟩
    · push Not at heard
      obtain ⟨error, refused⟩ := handle_unheard heard
      have closed := handle_closed host connection
      rw [refused] at closed ⊢
      exact ⟨closed, bounded_of_idle rfl, answered_refuse error⟩

end connection

section nan

def nanLine : String := "\x7b\"verb\": \"restart\", \"units\": [\"jasper-voice\"], \"exec_timeout\": NaN\x7d"

def nanRequest : List (String × Json) :=
  [("verb", .str "restart"), ("units", .list [.str "jasper-voice"]), ("exec_timeout", .float .nan)]

/-- A host that reads the one line, and whose subprocess raises a value error on a timeout that is no number. -/
def nanHost : Host where
  uidOf := fun _ => none
  loads := fun text => if text = nanLine then .ok (.dict nanRequest) else .error .decode
  str := fun _ => .ok ""
  repr := fun _ => ""
  floatOfText := fun _ => none
  run := fun _ timeout => if timeout = .nan then .error .other else .ok (0, "")
  spawn := fun _ => .ok ()

def nanConnection : Connection := ⟨.ok 0, .ok nanLine.toUTF8⟩

theorem nanConnection_heard : Heard nanHost nanConnection 0 nanLine where
  peer := rfl
  permitted := .inl rfl
  line := ⟨_, rfl, by decide +kernel, fromUTF8?_toUTF8 nanLine⟩

/-- The timeout is no number, and no reply is sent. -/
theorem nan_unlawful :
    ¬ Lawful nanHost nanConnection (handle nanHost nanConnection) ∧
      (handle nanHost nanConnection).commands = [.run ["systemctl", "restart", "--no-block", "jasper-voice.service"] .nan] ∧
      (handle nanHost nanConnection).replies.length = 0 := by
  have loaded : nanHost.loads nanLine = .ok (.dict nanRequest) := by simp [nanHost]
  have handled : handle nanHost nanConnection = handleRequest nanHost 0 nanRequest := by
    rw [handle_heard nanConnection_heard, handleText, loaded]
  have commands : (handleRequest nanHost 0 nanRequest).commands =
      [.run ["systemctl", "restart", "--no-block", "jasper-voice.service"] .nan] := by decide +kernel
  have silent : (handleRequest nanHost 0 nanRequest).replies.length = 0 := by decide +kernel
  rw [handled]
  exact ⟨fun lawful => absurd (silent.symm.trans lawful.answered) (by decide), commands, silent⟩

end nan

end Jts.Control.RestartBroker
