import LocationService.Engine.Reachable
import LocationService.Engine.Settle
import LocationService.Engine.Disable
import LocationService.Engine.Cascade
import LocationService.Engine.Run
import LocationService.Engine.Invariant
import LocationService.Engine.SwitchOff
import LocationService.Engine.SatelliteOff
import LocationService.Engine.Counting
import LocationService.Session.Model
import LocationService.Session.Counting
import LocationService.Session.Leak
import LocationService.Session.Cycle
import LocationService.Gps.Model
import LocationService.Library.Token
import LocationService.Gps.Invariant
import LocationService.Gps.Ownership
import LocationService.Gps.NeverLost
import LocationService.Gps.Watchdog
import LocationService.Gps.LockDiscipline
import LocationService.Gps.HandleSafety
import LocationService.Gps.Fresh
import LocationService.Gps.StopWins
import LocationService.Engine.Gate
import LocationService.Session.Projection
import LocationService.Engine.Quiescent
import LocationService.Engine.Reflects
import LocationService.Engine.Mirror
import LocationService.Engine.Enabled
import LocationService.Session.Bus
import LocationService.Session.Streams
import LocationService.Session.FailedStart
import LocationService.Service.Races
import LocationService.Session.Delivery
import LocationService.Engine.VisibleVehicles
import LocationService.Connectivity.Wifi
import LocationService.Service.PublishedVehicles
import LocationService.Connectivity.RadioCells
import LocationService.Connectivity.BoundedInteger
import LocationService.Connectivity.CachedRadioCell
import LocationService.Connectivity.PhysicalCellId
import LocationService.Library.FloatFormat
import LocationService.Codec.Model
import LocationService.Codec.RoundTrip
import LocationService.Codec.Coordinates
import LocationService.Remote.Provider
import LocationService.Library.Merge
import LocationService.Values.Criteria
import LocationService.Engine.ProviderSelection
import LocationService.Provider.Fusion
import LocationService.Engine.UpdatePolicy
import LocationService.Provider.Alternation
import LocationService.Provider.StateTracking
import LocationService.Qt.GeoPositionInfoSource
import LocationService.Gps.Sntp
import LocationService.Library.Rounding
import LocationService.Values.Haversine
import LocationService.Library.PropertyTree
import LocationService.Library.Text
import LocationService.Settings.BoostPtreeSettings
import LocationService.Service.ProviderOptions
import LocationService.Provider.SharedSwitch
import LocationService.Provider.SharedWorker
import LocationService.Gps.SatelliteStatus
import LocationService.Library.Interruption
import LocationService.Connectivity.Interrupted
import LocationService.Connectivity.OutdatedIdentity
import LocationService.Library.StickyRecord
import LocationService.Qt.LastKnownPosition
import LocationService.Library.Scaling
import LocationService.Connectivity.BoundedIntegerRun
import LocationService.Library.UseCount
import LocationService.Remote.Control
import LocationService.Settings.Enumerations
import LocationService.Service.Harvester
import LocationService.Service.Harvesting
import LocationService.Connectivity.CachedWirelessNetwork
import LocationService.Library.Json
import LocationService.Service.IchnaeaReport
import LocationService.Service.Admission
import LocationService.Library.ClockOffset
import LocationService.Gps.ReferenceTime
import LocationService.Connectivity.WirelessNetworks
import LocationService.Service.Submissions
import LocationService.Provider.Counted
import LocationService.Provider.FanOut
import LocationService.Gps.LocationUpdate
import LocationService.Library.Cells
import LocationService.Qt.EndToEnd
