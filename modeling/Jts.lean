import Jts.Shared.Transition
import Jts.Shared.Word
import Jts.Shared.Circular
import Jts.Ring.Attach
import Jts.Ring.Acceptance
import Jts.Ring.Fifo
import Jts.Ring.Occupancy
import Jts.Ioplug.Capture
import Jts.Ioplug.Pace
import Jts.Ioplug.Fidelity
import Jts.Tts.EpochGate
import Jts.Tts.Lockstep
import Jts.Tts.MixerTraining
import Jts.Tts.BridgeTraining
import Jts.Tts.WireSession
import Jts.Volume.PushGuardRun
import Jts.Volume.Arbitration
import Jts.Volume.Duck
import Jts.Ring.OpenProtocol
import Jts.Ring.OpenSafety
import Jts.Ring.WriterLock
import Jts.ActiveSpeaker.Commission
import Jts.ActiveSpeaker.SafePlayback
import Jts.ActiveSpeaker.Ramp
import Jts.ActiveSpeaker.Remute
import Jts.ActiveSpeaker.Tristate
import Jts.ActiveSpeaker.Ladder
import Jts.Shared.SignalGraph
import Jts.ActiveSpeaker.GraphView
import Jts.ActiveSpeaker.GraphEvidence
import Jts.SourceMux.Verbs
import Jts.SourceMux.TestGate
import Jts.Peering.Agreement
import Jts.Peering.Stickiness
import Jts.Peering.Sessions
import Jts.DspControl.WriterLock
import Jts.DspControl.Transaction
import Jts.ActiveSpeaker.Verdicts
import Jts.ActiveSpeaker.VolumeOwner
import Jts.Tts.Retention
import Jts.Ring.Demotion
import Jts.Ioplug.Inert
import Jts.Voice.HoldSafety
import Jts.Fanin.Convergence
import Jts.UsbClock.Compliance
import Jts.UsbClock.Budget
import Jts.Fanin.Headroom
import Jts.SourceMux.Probes
import Jts.Fanin.Cushion
import Jts.Fanin.CushionBounds
import Jts.Fanin.CushionLearned
import Jts.Shared.Progress
import Jts.Fanin.CushionRest
import Jts.Shared.Lines
import Jts.Shared.PythonText
import Jts.Env.EnvFile
import Jts.Env.Reparse
import Jts.Env.EnvEdits
import Jts.Env.LockedEnv
import Jts.Shared.PythonJson
import Jts.ActiveSpeaker.SessionVolumeFile
import Jts.Volume.ModeFile
import Jts.Volume.Persistence
import Jts.Volume.StateFiles
import Jts.Shared.ChannelNetwork
import Jts.ActiveSpeaker.GraphTransfer
import Jts.ActiveSpeaker.ProgramHeadroom
import Jts.ActiveSpeaker.Confirm
import Jts.Fanin.AudioRing
import Jts.Fanin.LaneResampler
import Jts.Fanin.LaneWindow
import Jts.Shared.PythonFloat
import Jts.Shared.Rounding
import Jts.Peering.Transport
import Jts.Peering.Views
import Jts.Shared.Extremum
import Jts.Excitation.Sweep
import Jts.Excitation.Program
import Jts.Excitation.Composers
import Jts.Excitation.Layout
import Jts.Excitation.StimulusId
import Jts.Excitation.Announced
import Jts.Excitation.Widened
import Jts.Excitation.TakeIdentity
import Jts.Excitation.OneCycle
import Jts.Excitation.Identity
import Jts.Excitation.Rendering
import Jts.Excitation.Laid
import Jts.Excitation.Limits
import Jts.Excitation.Compositions
import Jts.Control.UnitTimeouts
import Jts.Control.RestartBroker
import Jts.Control.RestartBrokerSafety
import Jts.Shared.Meter
import Jts.Excitation.Gated
import Jts.ActiveSpeaker.ProgramAdmission
import Jts.ActiveSpeaker.SummedAdmission
import Jts.ActiveSpeaker.ProgramSoundness
import Jts.ActiveSpeaker.SummedSoundness
import Jts.ActiveSpeaker.Attestation
import Jts.Multiroom.Landing
