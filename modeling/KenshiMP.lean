import KenshiMP.Deaths
import KenshiMP.Reclaims
import KenshiMP.Restores
import KenshiMP.FailedLoads
import KenshiMP.Isolation
import KenshiMP.Continuity
import KenshiMP.Heartbeats
import KenshiMP.PositionPackets
import KenshiMP.SentPositions
import KenshiMP.OwnSpawns
import KenshiMP.SafeSaves
import KenshiMP.UsablePlaces
import KenshiMP.Starvation
import KenshiMP.Factions
import KenshiMP.SharedPositions
import KenshiMP.SpawnRequests
import KenshiMP.Stranding
import KenshiMP.HookRestores
import KenshiMP.StackGap
import KenshiMP.LoadingGuard
import KenshiMP.LoadDetection
import KenshiMP.CreatedBodies
import KenshiMP.Strangers
import KenshiMP.StuckEntities
import KenshiMP.SpawnCaps
import KenshiMP.PacketCodec
import KenshiMP.RepeatedSpawns
import KenshiMP.LateJoiners
import KenshiMP.CallPaths
import KenshiMP.Neighbourhoods
import KenshiMP.CallSites
import KenshiMP.CallCounts
import KenshiMP.PatternParsing
import KenshiMP.ComplexPatterns
import KenshiMP.ScanCache
import KenshiMP.Resolutions
import KenshiMP.UnwindCodes
import KenshiMP.CrossReferences
import KenshiMP.FailedInstalls
import KenshiMP.PartialReads
import KenshiMP.LocalIds
import KenshiMP.HealthReports
import KenshiMP.EchoSuppression
import KenshiMP.InterestDeltas
import KenshiMP.ResolverQueries
import KenshiMP.DirtyMarks
import KenshiMP.SpawnGate
import KenshiMP.FrameBarrier
import KenshiMP.SpawnConservation
import KenshiMP.SmoothMotion
import KenshiMP.HiddenErrors
import KenshiMP.RenderQueries
import KenshiMP.ZoneIndex
import KenshiMP.MasterList
import KenshiMP.ServerQueries
import KenshiMP.ItemTransfers
import KenshiMP.SdkDiffs
import KenshiMP.RotationCompression
import KenshiMP.AnimationHook
import KenshiMP.PDataLookups
import KenshiMP.AnomalyDetection
import KenshiMP.TrackedNames
import KenshiMP.FactionPatches
