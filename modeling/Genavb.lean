import Genavb.Srp.Mrp.LeaveTimer
import Genavb.Srp.Mrp.Indications
import Genavb.Srp.Mrp.Agreement
import Genavb.Srp.Mrp.Fairness
import Genavb.Srp.Mrp.IllegalEvents
import Genavb.Srp.Mrp.ParserBounds
import Genavb.Srp.Mvrp.VlanTable
import Genavb.Srp.Msrp.ListenerMerge
import Genavb.Srp.Msrp.DomainRuns
import Genavb.Gptp.Selection
import Genavb.Gptp.PathTrace
import Genavb.Gptp.Reselection
import Genavb.Avdecc.MilanWithdraw
import Genavb.Gptp.SyncPairing
import Genavb.Gptp.FollowUps
import Genavb.Avdecc.InflightConservation
import Genavb.Avdecc.IeeeResponses
import Genavb.Avdecc.Controls
import Genavb.Hsr.Forgetting
import Genavb.Avtp.CrfTimestamps
import Genavb.Avtp.SytPlacement
import Genavb.Avtp.H264RoundTrip
import Genavb.Common.ManagedQueries
import Genavb.Common.Queue
import Genavb.Qos.Reservations
import Genavb.Ipc.Replies
import Genavb.Common.FqtssRuns
import Genavb.Maap.Stations
import Genavb.Common.TimerRuns
import Genavb.Gptp.PdelayCapable
import Genavb.Avdecc.MilanFailures
import Genavb.Avdecc.IeeeEnumeration
import Genavb.Avdecc.StreamInfo
import Genavb.Avdecc.AdpReceivers
import Genavb.Avdecc.AdpAdvertiseRuns
import Genavb.Avdecc.AemLayout
import Genavb.Avdecc.AudioMappings
import Genavb.Avtp.CrfWatchdog
import Genavb.Avdecc.CounterNotifications
import Genavb.Avtp.ClockConsumers
import Genavb.Avtp.ClockProducer
import Genavb.Avtp.MjpegLoss
import Genavb.Gptp.TargetClock
import Genavb.Gptp.TimeoutRuns
import Genavb.Qos.Credits
