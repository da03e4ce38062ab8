import FoliumApp.SplitLists
import FoliumApp.PathTree
import FoliumApp.AsyncProgram
import FoliumApp.ProgramTraces
import FoliumApp.CalendarDates
import FoliumApp.DartValues
import FoliumApp.Profiles
import FoliumApp.RemoteServices
import FoliumApp.Controllers
import FoliumApp.Screens
import FoliumApp.EmailShape
import FoliumApp.AgeGate
import FoliumApp.ProfileRoundTrip
import FoliumApp.RoleChoices
import FoliumApp.OccupationArea
import FoliumApp.CompletionForm
import FoliumApp.RegistrationOutcome
import FoliumApp.CallSequences
import FoliumApp.PhotoRecords
import FoliumApp.PhotoAlbum
import FoliumApp.PhotoAtomicity
import FoliumApp.AlbumScreen
import FoliumApp.AlbumLatest
import FoliumApp.DirectoryAgreement
import FoliumApp.UserIsolation
import FoliumApp.HandlerRequests
import FoliumApp.ProfileWriters
import FoliumApp.PrivateScreens
import FoliumApp.LoadingScreens
import FoliumApp.PasswordSecrecy
import FoliumApp.SessionPolicy
import FoliumApp.SessionSafety
import FoliumApp.RegisterFormMenus
import FoliumApp.DirectoryPaths
import FoliumApp.RegisterFormLoads
import FoliumApp.RegisterFormSerial
import FoliumApp.NotedAgents
import FoliumApp.TreeShapes
import FoliumApp.AdmittedProfiles
import FoliumApp.HandlerPhases
import FoliumApp.StoreContents
import FoliumApp.SystemState
import FoliumApp.ReachedStates
import FoliumApp.PairedStores
import FoliumApp.AlbumKeys
import FoliumApp.AlbumAcrossDevices
import FoliumApp.DirectoryAcrossDevices
import FoliumApp.LocationAssets
import FoliumApp.RealPlaces
import FoliumApp.PageStacks
import FoliumApp.RouteStacks
import FoliumApp.AccountRules
import FoliumApp.AccountRoles
import FoliumApp.SoloRuns
import FoliumApp.ReturningUsers
import FoliumApp.NewUsers
