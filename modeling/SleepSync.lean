import SleepSync.Lib.Outcome
import SleepSync.Lib.Runs
import SleepSync.Lib.Watch
import SleepSync.Lib.LittleEndian
import SleepSync.Parameters
import SleepSync.Message
import SleepSync.Environment
import SleepSync.Serializer
import SleepSync.WireFormat
import SleepSync.Schedule
import SleepSync.Fishing
import SleepSync.IntraClique
import SleepSync.Protocol
import SleepSync.Merger
import SleepSync.Sender
import SleepSync.Handlers
import SleepSync.Slots
import SleepSync.ProtocolSystem
import SleepSync.ScheduleBounds
import SleepSync.Lib.Network
import SleepSync.Lib.Pointers
import SleepSync.MergerRole
import SleepSync.Election
import SleepSync.Agreement
import SleepSync.Lib.Phase
import SleepSync.MergeAim
import SleepSync.Tasks
import SleepSync.TaskSteps
import SleepSync.TaskRuns
import SleepSync.PreludeDiscipline
import SleepSync.Bookkeeping
import SleepSync.Announcement
import SleepSync.HandOver
import SleepSync.PeriodClock
import SleepSync.TaskRefinement
import SleepSync.TaskAssertions
import SleepSync.Receiving
import SleepSync.Dropout
import SleepSync.RoleConsistency
import SleepSync.GivingUp
import SleepSync.Lib.Insertion
import SleepSync.WorseCliques
import SleepSync.ControlEpisode
import SleepSync.EpisodeIntegrity
import SleepSync.RoleStability
import SleepSync.GranularityAgreement
import SleepSync.ProvisioningRelay
import SleepSync.Lib.Laps
import SleepSync.Trolling
import SleepSync.MergeRank
import SleepSync.PeriodExtension
import SleepSync.InferiorTraffic
import SleepSync.MergeEpisode
import SleepSync.DeepEpisode
import SleepSync.Silence
import SleepSync.PacketSafety
import SleepSync.FishSessions
import SleepSync.DeepListening
import SleepSync.StopsInRuns
import SleepSync.CliqueHistories
import SleepSync.MergeSlots
import SleepSync.TrollingSessions
import SleepSync.Lib.Air
import SleepSync.AirFrames
import SleepSync.AirRuns
import SleepSync.AirElection
import SleepSync.AirAgreement
import SleepSync.AirRendezvous
import SleepSync.PeriodShape
import SleepSync.Lib.Meter
import SleepSync.DutyCycle
import SleepSync.AppCalls
import SleepSync.ControlSources
import SleepSync.AirControl
import SleepSync.AirWork
import SleepSync.Lib.Potential
import SleepSync.AirConvergence
import SleepSync.Lib.Erasure
import SleepSync.NoiseErased
import SleepSync.Lib.Drift
import SleepSync.DriftingClocks
