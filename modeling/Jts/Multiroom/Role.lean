import Mathlib.Data.Int.Notation
import Mathlib.Tactic.Common

set_option autoImplicit false

namespace Jts.Multiroom

inductive BondRole
  | unset
  | leader
  | follower
deriving DecidableEq, Repr

/-- A grouping config as it is loaded. An enabled one that is not valid carries its error. -/
structure GroupingConfig where
  enabled : Bool
  role : BondRole
  channel : String
  bondId : String
  leaderAddr : String
  bufferMs : ℕ
  codec : String
  error : Option String
  trimText : String
  clientLatencyMs : ℤ
deriving DecidableEq

namespace GroupingConfig

variable (cfg : GroupingConfig)

def isActiveMember : Bool := cfg.enabled && cfg.error.isNone

def followerLeaderAddr : Option String :=
  if cfg.isActiveMember && cfg.role = .follower && cfg.leaderAddr ≠ "" then some cfg.leaderAddr else none

def localSourcesParkReason : Option String := if cfg.followerLeaderAddr.isSome then some "bonded_follower" else none

def localSourcesParked : Bool := cfg.localSourcesParkReason.isSome

end GroupingConfig

inductive SnapUnit
  | snapserver
  | snapclient
deriving DecidableEq, Repr

inductive Desired
  | start
  | stop
deriving DecidableEq, Repr

structure UnitIntent where
  unit : SnapUnit
  desired : Desired
  reason : String
deriving DecidableEq

def plan (cfg : GroupingConfig) : List UnitIntent :=
  if !cfg.enabled then [⟨.snapserver, .stop, "grouping off"⟩, ⟨.snapclient, .stop, "grouping off"⟩]
  else if cfg.error.isSome then [⟨.snapserver, .stop, "config invalid"⟩, ⟨.snapclient, .stop, "config invalid"⟩]
  else if cfg.role = .leader then
    [⟨.snapserver, .start, "leader hosts stream"⟩, ⟨.snapclient, .start, "leader plays its channel"⟩]
  else [⟨.snapserver, .stop, "follower runs no server"⟩, ⟨.snapclient, .start, "follower consumes stream"⟩]

def laneRefusedActiveEndpoint : String := "active_endpoint"

def laneRefusedFlatOutputDenied : String := "flat_output_not_allowed"

def laneRefusedPeriod : String := "dac_content_ring_period_mismatch"

def dacContentRingPeriodFrames : ℕ := 128

def dacContentRingServable (outputdPeriodFrames : Option ℕ) : Bool := outputdPeriodFrames = some dacContentRingPeriodFrames

structure LaneDecision where
  armed : Bool
  reason : String
deriving DecidableEq

def memberLaneDecision (cfg : GroupingConfig) (activeEndpoint flatOutputAllowed : Bool) (outputdPeriodFrames : Option ℕ) :
    LaneDecision :=
  if !cfg.isActiveMember then ⟨false, ""⟩
  else if activeEndpoint then ⟨false, laneRefusedActiveEndpoint⟩
  else if !flatOutputAllowed then ⟨false, laneRefusedFlatOutputDenied⟩
  else if !dacContentRingServable outputdPeriodFrames then ⟨false, laneRefusedPeriod⟩
  else ⟨true, ""⟩

/-- What a pass is told: the request, and what the saved topology and the period of outputd answer. -/
structure Request where
  cfg : GroupingConfig
  activeBoxState : Option Bool
  flatOutputAllowed : Bool
  outputdPeriodFrames : Option ℕ
deriving DecidableEq

structure RoleDecision where
  cfg : GroupingConfig
  requestedCfg : GroupingConfig
  plan : List UnitIntent
  active : Bool
  activeLeader : Bool
  passiveLeader : Bool
  activeSpeakerLeader : Bool
  activeFollower : Bool
  activeEndpoint : Bool
  boxIsActive : Bool
  flatOutputAllowed : Bool
  outputdPeriodFrames : Option ℕ
  lane : LaneDecision
  refusedFollowerFallback : Bool
  transitioningFromParkedRole : Bool

def RoleDecision.localSourcesAllowed (role : RoleDecision) : Bool :=
  !role.cfg.localSourcesParked && !role.refusedFollowerFallback && !role.transitioningFromParkedRole

/-- A refused bond lands solo. The lane stays as it was decided. -/
def RoleDecision.withFallback (role : RoleDecision) : RoleDecision :=
  let cfg := { role.cfg with enabled := false }
  { role with
    cfg := cfg
    plan := Multiroom.plan cfg
    active := false
    activeLeader := false
    activeFollower := false
    activeSpeakerLeader := false
    passiveLeader := false
    activeEndpoint := false
    refusedFollowerFallback := role.requestedCfg.localSourcesParked }

def decideRole (request : Request) (priorAllowed : Option Bool) : RoleDecision :=
  let cfg := request.cfg
  let activeLeader := cfg.isActiveMember && cfg.role = .leader
  let boxIsActive := request.activeBoxState = some true
  let activeFollower := cfg.isActiveMember && cfg.role = .follower && boxIsActive
  let activeSpeakerLeader := activeLeader && boxIsActive
  { cfg := cfg
    requestedCfg := cfg
    plan := plan cfg
    active := cfg.isActiveMember
    activeLeader := activeLeader
    passiveLeader := activeLeader && !boxIsActive
    activeSpeakerLeader := activeSpeakerLeader
    activeFollower := activeFollower
    activeEndpoint := activeFollower || activeSpeakerLeader
    boxIsActive := boxIsActive
    flatOutputAllowed := request.flatOutputAllowed
    outputdPeriodFrames := request.outputdPeriodFrames
    lane := memberLaneDecision cfg (activeFollower || activeSpeakerLeader) request.flatOutputAllowed request.outputdPeriodFrames
    refusedFollowerFallback := false
    transitioningFromParkedRole := !cfg.localSourcesParked && priorAllowed = some false }

/-- Where voice speaks, and where outputd listens. -/
structure GroupingTtsRoute where
  kind : String
  voiceEnvSocket : Option String
  expectedVoiceSocket : String
  outputdTtsSocket : String
  voiceParked : Bool
deriving DecidableEq

def faninTtsSocket : String := "/run/jasper-fanin/tts.sock"

def outputdTtsSocket : String := "/run/jasper-outputd/tts.sock"

def expectedGroupingTtsRoute (cfg : GroupingConfig) (activeEndpoint flatOutputAllowed : Bool) : GroupingTtsRoute :=
  if !cfg.isActiveMember then ⟨"solo", none, faninTtsSocket, "", false⟩
  else if activeEndpoint then ⟨"active_endpoint", none, faninTtsSocket, "", cfg.role = .follower⟩
  else if !flatOutputAllowed then ⟨"graph_owned_output", none, faninTtsSocket, "", cfg.role = .follower⟩
  else ⟨"passive_member", some outputdTtsSocket, outputdTtsSocket, outputdTtsSocket, cfg.role = .follower⟩

abbrev Env := List (String × String)

def outputdGroupingEnv (cfg : GroupingConfig) (activeEndpoint flatOutputAllowed : Bool) (outputdPeriodFrames : Option ℕ) : Env :=
  let route := expectedGroupingTtsRoute cfg activeEndpoint flatOutputAllowed
  if !cfg.isActiveMember then
    [("JASPER_OUTPUTD_DAC_CONTENT_LANE", ""), ("JASPER_OUTPUTD_DAC_CONTENT_CHANNEL", ""), ("JASPER_OUTPUTD_TTS_SOCKET", ""),
      ("JASPER_OUTPUTD_DAC_CONTENT_TRIM_DB", "")]
  else if !(memberLaneDecision cfg activeEndpoint flatOutputAllowed outputdPeriodFrames).armed then
    [("JASPER_OUTPUTD_DAC_CONTENT_LANE", ""), ("JASPER_OUTPUTD_DAC_CONTENT_CHANNEL", ""),
      ("JASPER_OUTPUTD_TTS_SOCKET", route.outputdTtsSocket), ("JASPER_OUTPUTD_DAC_CONTENT_TRIM_DB", "")]
  else
    [("JASPER_OUTPUTD_DAC_CONTENT_LANE", "1"), ("JASPER_OUTPUTD_CONTENT_BRIDGE", ""),
      ("JASPER_OUTPUTD_DAC_CONTENT_CHANNEL", if cfg.channel = "" then "stereo" else cfg.channel),
      ("JASPER_OUTPUTD_TTS_SOCKET", route.outputdTtsSocket), ("JASPER_OUTPUTD_DAC_CONTENT_TRIM_DB", cfg.trimText)]

def voiceGroupingEnv (cfg : GroupingConfig) (activeEndpoint flatOutputAllowed : Bool) : Env :=
  let route := expectedGroupingTtsRoute cfg activeEndpoint flatOutputAllowed
  if cfg.isActiveMember then
    (match route.voiceEnvSocket with
      | none => []
      | some socket => [("JASPER_TTS_OUTPUTD_SOCKET", socket), ("JASPER_TTS_MIX_STAGE", "post_dsp")]) ++
      (if route.voiceParked then [("JASPER_GROUPING_VOICE_PARK", "1")] else [])
  else []

-- A third of a second is written to six decimals, as the division of a whole number of milliseconds gives them.
def secondsText (ms : ℕ) : String :=
  let millis := toString (ms % 1000)
  toString (ms / 1000) ++ "." ++ String.ofList (List.replicate (3 - millis.length) '0') ++ millis ++ "000"

def airplayGroupingEnv (cfg : GroupingConfig) : Env :=
  if cfg.isActiveMember && cfg.role = .leader then [("JASPER_AIRPLAY_BONDED_EXTRA_DELAY_SEC", secondsText cfg.bufferMs)] else []

def joinArgs (argv : List String) : String := " ".intercalate argv.tail

def snapserverArgv (cfg : GroupingConfig) : List String :=
  ["snapserver", "--stream.source",
    "pipe:///run/jasper-snapserver/snapfifo?name=jts&mode=create&sampleformat=48000:16:2&codec=" ++ cfg.codec, "--stream.buffer",
    toString cfg.bufferMs]

def snapclientArgv (cfg : GroupingConfig) (playerAlsaDevice : String) : List String :=
  ["snapclient", "--host", if cfg.role = .leader then "127.0.0.1" else cfg.leaderAddr, "--latency", toString cfg.clientLatencyMs,
    "--soundcard", playerAlsaDevice, "--player", "alsa"]

def assembleArgs (cfg : GroupingConfig) (activeEndpoint : Bool) : Env :=
  if !cfg.isActiveMember then [("JASPER_SNAPSERVER_ARGS", ""), ("JASPER_SNAPCLIENT_ARGS", "")]
  else
    [("JASPER_SNAPSERVER_ARGS", if cfg.role = .leader then joinArgs (snapserverArgv cfg) else ""),
      ("JASPER_SNAPCLIENT_ARGS",
        joinArgs (snapclientArgv cfg (if activeEndpoint then "jts_ring_grouping" else "jts_ring_dac_content")))]

end Jts.Multiroom
