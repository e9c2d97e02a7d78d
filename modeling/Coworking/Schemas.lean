import Coworking.Core.Time
import Coworking.Db.Models

/-!
# Request Bodies

The bodies and paging parameters the services are called with.  A bound that a schema declares
is a field of the structure, so a body the API would reject cannot be built.
-/

namespace Coworking

structure HoldCreateRequest where
  level : BookingLevel
  seatId : Option Uuid
  roomId : Option Uuid
  venueId : Option Uuid
  startTime : DateTime
  endTime : DateTime

structure BookingCreateRequest where
  level : BookingLevel
  seatId : Option Uuid
  roomId : Option Uuid
  venueId : Option Uuid
  holdId : Option Uuid
  startTime : DateTime
  endTime : DateTime

structure BookingWindowUpdateRequest where
  startTime : DateTime
  endTime : DateTime

structure CheckinRequest where
  method : CheckinMethod
  lat : Option Degrees
  lon : Option Degrees
  qrCode : Option String

structure PaymentCreateRequest where
  bookingId : Uuid
  amountCents : Int
  amountCents_ge : 0 ≤ amountCents
  currency : String
  currency_length : currency.length = 3
  provider : Option String

structure PaymentRefundRequest where
  amountCents : Option Int
  amountCents_ge : ∀ n ∈ amountCents, 1 ≤ n

structure NotificationPrefsUpdate where
  emailNotifications : Option Bool
  pushNotifications : Option Bool
  reminderBeforeBooking : Option Bool
  promotionalEmails : Option Bool

structure RoomLayoutSeatInput where
  id : Option Uuid
  label : String
  gridX : Int
  gridY : Int
  seatType : Option String
  attributes : Option String
  active : Bool

structure RoomLayoutUpdate where
  allowFullRoomBooking : Option Bool
  seats : List RoomLayoutSeatInput

structure VenueCreate where
  name : String
  name_length : 1 ≤ name.length
  address : String
  address_length : 1 ≤ address.length
  timezone : String
  features : List String

/-- The paging parameters of a listing. -/
structure PageQuery where
  page : Nat
  page_ge : 1 ≤ page
  limit : Nat
  limit_ge : 1 ≤ limit
  limit_le : limit ≤ 100

/-- Page `number` of the same listing. -/
def PageQuery.turn (query : PageQuery) (number : Nat) (h : 1 ≤ number) : PageQuery :=
  { query with page := number, page_ge := h }

/-! ## Authentication

`EmailStr` is not modelled: any text may stand for an address. -/

structure RegisterRequest where
  email : String
  password : String
  password_length : 6 ≤ password.length
  name : String
  name_length : 1 ≤ name.length
  phone : Option String

structure LoginRequest where
  email : String
  password : String
  password_length : 6 ≤ password.length

structure ResetPasswordRequest where
  token : String
  token_length : 16 ≤ token.length
  newPassword : String
  newPassword_length : 6 ≤ newPassword.length

end Coworking
