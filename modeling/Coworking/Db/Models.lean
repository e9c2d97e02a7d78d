import Coworking.Core.Time
import Coworking.Db.Enums
import Coworking.Foundation.Table
import Mathlib.Data.Rat.Defs

/-!
# Rows and the Store

The tables the booking, check-in, payment, notification and space services read and
write, column by column.  Columns no modelled function uses (grid sizes of rooms, most row
timestamps) are left out.

`Slot` holds the columns that `holds` and `bookings` have in common; both rows extend it.
A primary key constraint is part of the type of its table.
-/

namespace Coworking

open Foundation

/-- A UUID. -/
abbrev Uuid := Nat

/-! ## Column types -/

/-- Does a value fit an `INTEGER` column? -/
def fitsInteger (n : Int) : Bool := -2147483648 ≤ n ∧ n ≤ 2147483647

/-- Does a text fit a `VARCHAR(n)` column?  Texts are those that the database stores, which have no
U+0000. -/
def fitsVarchar (n : Nat) (text : String) : Bool := text.length ≤ n

/-! ## Space -/

structure Venue where
  id : Uuid
  name : String
  address : String
  timezone : String
  deriving DecidableEq

structure Room where
  id : Uuid
  venueId : Uuid
  name : String
  allowFullRoomBooking : Bool
  gridWidth : Option Int
  gridHeight : Option Int
  deriving DecidableEq

structure Seat where
  id : Uuid
  roomId : Uuid
  label : String
  gridX : Int
  gridY : Int
  seatType : Option String
  /-- A JSON document. -/
  attributes : Option String
  active : Bool
  deriving DecidableEq

structure RoomHour where
  roomId : Uuid
  weekday : Int
  startLocalTime : Option LocalTime
  endLocalTime : Option LocalTime
  isClosed : Bool
  deriving DecidableEq

structure BookingRule where
  id : Uuid
  venueId : Option Uuid
  roomId : Option Uuid
  minDurationMinutes : Int
  maxDurationMinutes : Int
  maxAdvanceDays : Int
  cancellationDeadlineMinutes : Int
  requiresPayment : Bool
  holdTtlSeconds : Int
  checkinOpenBeforeMinutes : Int
  geoRadiusMeters : Int
  createdAt : Instant
  deriving DecidableEq

structure Feature where
  id : Uuid
  code : String
  name : String
  deriving DecidableEq

/-- A feature of a venue or of a room. -/
structure FeatureLink where
  id : Uuid
  featureId : Uuid
  venueId : Option Uuid
  roomId : Option Uuid
  deriving DecidableEq

/-! ## Holds and bookings -/

/-- The columns `holds` and `bookings` share: who has what from when to when. -/
structure Slot where
  userId : Uuid
  level : BookingLevel
  venueId : Option Uuid
  roomId : Option Uuid
  seatId : Option Uuid
  startTime : Instant
  endTime : Instant
  deriving DecidableEq

structure Hold extends Slot where
  id : Uuid
  status : HoldStatus
  expiresAt : Instant
  deriving DecidableEq

structure Booking extends Slot where
  id : Uuid
  holdId : Option Uuid
  status : BookingStatus
  priceAmountCents : Int
  priceCurrency : String
  cancelledAt : Option Instant
  deriving DecidableEq

/-- Latitudes and longitudes. -/
abbrev Degrees := ℚ

/-- A check-in; `checkins.booking_id` is unique. -/
structure Checkin where
  bookingId : Uuid
  method : CheckinMethod
  lat : Option Degrees
  lon : Option Degrees
  notes : Option String
  checkedInAt : Instant
  deriving DecidableEq

/-! ## Payments -/

structure Transaction where
  id : Uuid
  bookingId : Uuid
  userId : Uuid
  provider : String
  status : PaymentStatus
  amountCents : Int
  refundedCents : Int
  currency : String
  authorizedAt : Option Instant
  capturedAt : Option Instant
  refundedAt : Option Instant
  deriving DecidableEq

/-! ## Notifications and preferences -/

/-- The values that occur in a notification payload. -/
inductive PayloadValue
  | id (value : Uuid)
  | text (value : String)
  | cents (value : Int)
  deriving DecidableEq

structure Notification where
  userId : Uuid
  channel : NotificationChannel
  templateCode : String
  payload : List (String × PayloadValue)
  status : NotificationStatus
  scheduledAt : Instant
  sentAt : Option Instant
  createdAt : Instant
  deriving DecidableEq

structure NotificationPreference where
  userId : Uuid
  emailNotifications : Bool
  pushNotifications : Bool
  reminderBeforeBooking : Bool
  promotionalEmails : Bool
  updatedAt : Instant
  deriving DecidableEq

structure FavoriteVenue where
  userId : Uuid
  venueId : Uuid
  deriving DecidableEq

/-! ## Primary keys -/

instance : Keyed Venue Uuid := ⟨Venue.id⟩
instance : Keyed Room Uuid := ⟨Room.id⟩
instance : Keyed Seat Uuid := ⟨Seat.id⟩
instance : Keyed RoomHour (Uuid × Int) := ⟨fun h => (h.roomId, h.weekday)⟩
instance : Keyed BookingRule Uuid := ⟨BookingRule.id⟩
instance : Keyed Feature Uuid := ⟨Feature.id⟩
instance : Keyed FeatureLink Uuid := ⟨FeatureLink.id⟩
instance : Keyed Hold Uuid := ⟨Hold.id⟩
instance : Keyed Booking Uuid := ⟨Booking.id⟩
instance : Keyed Checkin Uuid := ⟨Checkin.bookingId⟩
instance : Keyed Transaction Uuid := ⟨Transaction.id⟩
instance : Keyed NotificationPreference Uuid := ⟨NotificationPreference.userId⟩
instance : Keyed FavoriteVenue (Uuid × Uuid) := ⟨fun f => (f.userId, f.venueId)⟩

/-! ## The store -/

/-- The committed rows. -/
structure Store where
  venues : Table Venue
  rooms : Table Room
  seats : Table Seat
  roomHours : Table RoomHour
  bookingRules : Table BookingRule
  features : Table Feature
  featureLinks : Table FeatureLink
  holds : Table Hold
  bookings : Table Booking
  checkins : Table Checkin
  transactions : Table Transaction
  notifications : List Notification
  notificationPreferences : Table NotificationPreference
  favoriteVenues : Table FavoriteVenue

/-- `session.get(Venue, id)`. -/
def Store.venue? (s : Store) (id : Uuid) : Option Venue := s.venues.get? id

/-- `session.get(Room, id)`. -/
def Store.room? (s : Store) (id : Uuid) : Option Room := s.rooms.get? id

/-- `session.get(Seat, id)`. -/
def Store.seat? (s : Store) (id : Uuid) : Option Seat := s.seats.get? id

theorem Store.venue?_id {s : Store} {id : Uuid} {venue : Venue} (h : s.venue? id = some venue) :
    venue.id = id := Table.key_of_get? h

theorem Store.room?_id {s : Store} {id : Uuid} {room : Room} (h : s.room? id = some room) :
    room.id = id := Table.key_of_get? h

theorem Store.seat?_id {s : Store} {id : Uuid} {seat : Seat} (h : s.seat? id = some seat) :
    seat.id = id := Table.key_of_get? h

/-- `select(Hold).where(Hold.id == id, Hold.user_id == user_id)`. -/
def Store.holdOf? (s : Store) (id userId : Uuid) : Option Hold :=
  (s.holds.get? id).filter (·.userId = userId)

/-- `select(Booking).where(Booking.id == id, Booking.user_id == user_id)`. -/
def Store.bookingOf? (s : Store) (id userId : Uuid) : Option Booking :=
  (s.bookings.get? id).filter (·.userId = userId)

/-- `select(Transaction).where(Transaction.id == id, Transaction.user_id == user_id)`. -/
def Store.transactionOf? (s : Store) (id userId : Uuid) : Option Transaction :=
  (s.transactions.get? id).filter (·.userId = userId)

theorem Store.holdOf?_eq_some {s : Store} {id userId : Uuid} {h : Hold} :
    s.holdOf? id userId = some h ↔ s.holds.get? id = some h ∧ h.userId = userId := by
  simp [Store.holdOf?, Option.filter_eq_some_iff]

theorem Store.bookingOf?_eq_some {s : Store} {id userId : Uuid} {b : Booking} :
    s.bookingOf? id userId = some b ↔ s.bookings.get? id = some b ∧ b.userId = userId := by
  simp [Store.bookingOf?, Option.filter_eq_some_iff]

theorem Store.transactionOf?_eq_some {s : Store} {id userId : Uuid} {t : Transaction} :
    s.transactionOf? id userId = some t ↔ s.transactions.get? id = some t ∧ t.userId = userId := by
  simp [Store.transactionOf?, Option.filter_eq_some_iff]

end Coworking
