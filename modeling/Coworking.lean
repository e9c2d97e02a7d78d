import Coworking.Api.Dependencies
import Coworking.Api.Routes
import Coworking.Core.DateRange
import Coworking.Core.Runtime
import Coworking.Core.Time
import Coworking.Core.Unicode
import Coworking.Db.Database
import Coworking.Db.Enums
import Coworking.Foundation.Calendar
import Coworking.Foundation.Checked
import Coworking.Foundation.Coverage
import Coworking.Foundation.Folding
import Coworking.Foundation.Grants
import Coworking.Foundation.Interleaving
import Coworking.Foundation.Paging
import Coworking.Foundation.Pattern
import Coworking.Foundation.Run
import Coworking.Foundation.Spacing
import Coworking.Foundation.Succession
import Coworking.Foundation.Table
import Coworking.Foundation.Transcript
import Coworking.Foundation.UnitOfWork
import Coworking.Services.Analytics
import Coworking.Services.Auth
import Coworking.Services.Availability
import Coworking.Services.Booking
import Coworking.Services.Checkin
import Coworking.Services.Favorite
import Coworking.Services.Hold
import Coworking.Services.Listing
import Coworking.Services.Notification
import Coworking.Services.Payment
import Coworking.Services.PushToken
import Coworking.Services.Ranged
import Coworking.Services.Rbac
import Coworking.Services.Session
import Coworking.Services.Space
import Coworking.Services.Views
import Coworking.System.ApiRun
import Coworking.System.AuthOperation
import Coworking.System.AvailabilityAgreement
import Coworking.System.AvailabilityChange
import Coworking.System.BookingDates
import Coworking.System.BookingRace
import Coworking.System.BookingRows
import Coworking.System.Calendar
import Coworking.System.CalendarEnds
import Coworking.System.CancelRace
import Coworking.System.Competition
import Coworking.System.Concurrent
import Coworking.System.ConflictSet
import Coworking.System.DurationLimits
import Coworking.System.Exclusivity
import Coworking.System.Favorites
import Coworking.System.FeatureCodes
import Coworking.System.Features
import Coworking.System.Grid
import Coworking.System.History
import Coworking.System.HoldGuarantee
import Coworking.System.HoldLifeCycle
import Coworking.System.HoldOrBook
import Coworking.System.HoldRace
import Coworking.System.Inbox
import Coworking.System.InboxRace
import Coworking.System.Isolation
import Coworking.System.LayoutUpdate
import Coworking.System.Leaving
import Coworking.System.Ledger
import Coworking.System.Locality
import Coworking.System.LockOut
import Coworking.System.Occupancy
import Coworking.System.OpeningHours
import Coworking.System.Operation
import Coworking.System.Outsiders
import Coworking.System.PaidAccess
import Coworking.System.PaidMove
import Coworking.System.PaymentRace
import Coworking.System.PreferenceRace
import Coworking.System.PushTokens
import Coworking.System.Records
import Coworking.System.RefundRace
import Coworking.System.Registration
import Coworking.System.Release
import Coworking.System.ResetLinks
import Coworking.System.Retry
import Coworking.System.Revenue
import Coworking.System.RuleAgreement
import Coworking.System.SaleFlags
import Coworking.System.Searches
import Coworking.System.Serializable
import Coworking.System.SessionRace
import Coworking.System.Sessions
import Coworking.System.SpaceViews
import Coworking.System.StoredResources
import Coworking.System.TextSearch
import Coworking.System.Tree
import Coworking.System.VenueScope
import Coworking.System.VenueService
import Coworking.System.WholeListing
import Coworking.System.Staff
