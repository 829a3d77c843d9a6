import LocStack.Agps.Closing
import LocStack.Agps.DataConn
import LocStack.Agps.Invariant
import LocStack.Agps.Requests
import LocStack.Api.Destroy
import LocStack.Batching.Docket
import LocStack.Batching.FailedStop
import LocStack.Batching.Ongoing
import LocStack.ClientApi.Breaches
import LocStack.ClientApi.Kinds
import LocStack.ClientApi.Responses
import LocStack.ClientApi.Terrestrial
import LocStack.ClientBase.ControlAnswers
import LocStack.ClientBase.Geofences
import LocStack.ClientBase.HidlBatching
import LocStack.ClientBase.SessionAnswers
import LocStack.ClientBase.SessionOptions
import LocStack.ClientBase.Tracking
import LocStack.Core.DebugReports
import LocStack.Core.FrameworkItems
import LocStack.Core.Notify
import LocStack.Daemon.Suspend
import LocStack.Dmb.Context
import LocStack.Dmb.Status
import LocStack.Geofence.Breaches
import LocStack.Geofence.Responses
import LocStack.Geofence.Restart
import LocStack.Geofence.Settings
import LocStack.Gnss.AidingDataDelay
import LocStack.Gnss.ConfigAnswers
import LocStack.Gnss.Constellation
import LocStack.Gnss.GpsLock
import LocStack.Gnss.Odcpi
import LocStack.Gnss.PpsPulses
import LocStack.Gnss.SvIds
import LocStack.Gnss.UsedInFix
import LocStack.Gnss.XtraStatus
import LocStack.Heap.CheckTree
import LocStack.Integration.Answers
import LocStack.Integration.Replay
import LocStack.Ipc.RoundTrip
import LocStack.Ipc.Senders
import LocStack.Ipc.SockNode
import LocStack.LocApi.Adapters
import LocStack.LocApi.AdrState
import LocStack.LocApi.AidingData
import LocStack.LocApi.Answers
import LocStack.LocApi.BatchedOrder
import LocStack.LocApi.ElapsedTime
import LocStack.LocApi.EngineCapabilities
import LocStack.LocApi.EventMask
import LocStack.LocApi.GeofenceEvents
import LocStack.LocApi.GnssClock
import LocStack.LocApi.ReceivedTime
import LocStack.LocApi.SvSignals
import LocStack.LocApi.SyncOrder
import LocStack.MsgConv.Bounds
import LocStack.MsgConv.Notifications
import LocStack.Nmea.GsaGroups
import LocStack.Nmea.GsvGroups
import LocStack.Qapi.SingleShot
import LocStack.Timer.Soonest
import LocStack.Timer.Timeout
import LocStack.Tracking.Gga
import LocStack.Tracking.Kinds
import LocStack.Tracking.Multiplex
import LocStack.Tracking.Responses
import LocStack.Utils.ConfFiles
import LocStack.Utils.LogBuffer
import LocStack.Utils.MsgTask
import LocStack.Utils.ProcessConf
