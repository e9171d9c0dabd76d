import Radar.SlidingWindow
import Radar.Settings
import Radar.Timeline
import Radar.TimelineRefinement
import Radar.SectorLabels
import Radar.TimelineDrift
import Radar.ScanPair
import Radar.CreatedPairs
import Radar.SignalLadder
import Radar.SchedulerPlacement
import Radar.SchedulerSearch
import Radar.LeastPlace
import Radar.SchedulerWindows
import Radar.PlacementReservations
import Radar.PlacementFailure
import Radar.PriorityQueue
import Radar.PriorityPolls
import Radar.StandardLibrary
import Radar.CommandProcessor
import Radar.CommandValidation
import Radar.ComparisonSort
import Radar.SchedulerRun
import Radar.SchedulerVisits
import Radar.TickService
import Radar.QueryChains
import Radar.DropQueries
import Radar.LiveQueries
import Radar.PlacementCommands
import Radar.SectorRange
import Radar.ScanProtocol
import Radar.IdleRadar
import Radar.ModelEngine
import Radar.EventDelivery
import Radar.CommandLog
import Radar.BusyChunks
import Radar.TransmitWindow
import Radar.TransmitSafety
import Radar.BookedCommands
import Radar.PlacementBooking
import Radar.ExchangeProtocol
import Radar.CatalogTle
import Radar.CatalogRecords
import Radar.Json
import Radar.TargetServer
import Radar.ClientCounter
import Radar.SatelliteList
import Radar.DecimalText
import Radar.FormatString
import Radar.JsonGrammar
import Radar.JsonParser
import Radar.TargetsMessage
import Radar.TargetsRoundTrip
import Radar.RequestMessage
import Radar.RequestHandling
import Radar.RequestRoundTrip
import Radar.ProcessRequest
import Radar.RequestTime
import Radar.SphericalCoordinates
import Radar.LocalFrames
import Radar.Ellipsoid
import Radar.LocalVertical
import Radar.CoordinateSystems
import Radar.SectorCheck
import Radar.TargetClient
import Radar.ClientReplies
import Radar.ClientConnection
import Radar.MessageBroker
import Radar.BrokerConnection
import Radar.BrokerDispatch
import Radar.ReceiveBuffer
import Radar.LineFraming
import Radar.RequestReading
import Radar.ConfigStore
import Radar.ConfigFailures
import Radar.ConfigFiles
import Radar.JsonPaths
import Radar.ConfigReading
import Radar.ConfigEdits
import Radar.TleElements
import Radar.GregorianCalendar
import Radar.JulianDate
import Radar.DayOfYear
import Radar.TleEpoch
import Radar.TleNumerals
import Radar.TleRecord
import Radar.TleEntry
import Radar.StodValues
import Radar.CatalogFaults
import Radar.FileSystem
import Radar.Logger
import Radar.LoggerSessions
import Radar.BufferedLogger
import Radar.OrderedAssignments
import Radar.LoaderFailures
import Radar.FixedStep
import Radar.NoradSDP4
import Radar.IntegratorHistory
import Radar.DisjointIntervals
import Radar.TransmissionHistory
import Radar.TargetExchange
import Radar.TargetExchangePhases
import Radar.TargetExchangeRuns
import Radar.LinearError
import Radar.PositionFit
import Radar.ServedTracks
import Radar.MeridianIteration
import Radar.GeodeticInverse
import Radar.KeplerEquation
import Radar.NoradBase
import Radar.NoradSGP4
import Radar.SatellitePoints
import Radar.AntennaCoordinates
import Radar.MpmcBoundedQueue
import Radar.QueueTickets
import Radar.RotatingFileSink
import Radar.RotatedLogs
import Radar.AsyncLogHelper
import Radar.LoggedMessages
import Radar.WorkerProgress
