import CrowdTracking.Runs
import CrowdTracking.Rounding
import CrowdTracking.Json
import CrowdTracking.Database
import CrowdTracking.Script
import CrowdTracking.Crowd
import CrowdTracking.MyMarker
import CrowdTracking.MarkerIntervals
import CrowdTracking.MarkerTiming
import CrowdTracking.MarkerFilters
import CrowdTracking.MarkerRotation
import CrowdTracking.MarkerRouting
import CrowdTracking.MarkerUnmounting
import CrowdTracking.MarkerDraining
import CrowdTracking.InfoWindow
import CrowdTracking.MyMarkerClusterer
import CrowdTracking.HomeVC
import CrowdTracking.Campaign
import CrowdTracking.Login
import CrowdTracking.HomeScreen
import CrowdTracking.PeopleCounter
import CrowdTracking.Tracking
import CrowdTracking.StopRespected
import CrowdTracking.MarkerConvergence
import CrowdTracking.ClientNode
import CrowdTracking.ReportedPositions
import CrowdTracking.Tafweej
import CrowdTracking.Credentials
import CrowdTracking.RegisteredCampaign
import CrowdTracking.MainActivity
import CrowdTracking.Session
import CrowdTracking.LocationSharing
import CrowdTracking.AndroidNode
import CrowdTracking.StatusVocabulary
import CrowdTracking.LatestChoice
import CrowdTracking.Device
import CrowdTracking.PermissionRequest
import CrowdTracking.Fleet
import CrowdTracking.FleetCapacity
import CrowdTracking.OrphanedCrowds
import CrowdTracking.DeviceSession
import CrowdTracking.CrowdCampaigns
import CrowdTracking.LocationPermission
import CrowdTracking.AndroidTracking
import CrowdTracking.Platform
import CrowdTracking.ReportedCounts
import CrowdTracking.Demo
import CrowdTracking.CrowdMap
import CrowdTracking.MapPositions
import CrowdTracking.DemoMap
import CrowdTracking.MapMarkers
import CrowdTracking.LatestPosition
import CrowdTracking.Deployment
import CrowdTracking.HajjApp
import CrowdTracking.SavedCampaign
import CrowdTracking.StrandedDevice
import CrowdTracking.Location
import CrowdTracking.PreviousBestLocation
import CrowdTracking.AlternatingFixes
import CrowdTracking.LocationUpdaterService
