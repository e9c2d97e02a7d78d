import Coworking.Core.Runtime
import Coworking.Db.Database
import Coworking.Schemas
import Coworking.Services.Errors

/-!
# Reading One's Records

The endpoints that read bookings, payments and notifications back.  A single record is answered
with its row: the responses have the columns that are modelled.

- `answer`: one page of a listing, and the number of rows on all of them;
- `reports_listBookings`, `reports_listBookingHistory`: what a listing reports over its pages.
-/

namespace Coworking

open Foundation

/-! ## §1 Listings -/

/-- `BookingListResponse` and `NotificationListResponse`. -/
structure ListResponse (ι : Type) where
  items : List ι
  page : Nat
  limit : Nat
  total : Nat

/-- The `count` of a statement and one page of its rows. -/
def answer {ρ ι : Type} {before : ρ → ρ → Prop} (order : RowOrder ρ before) (serialize : ρ → ι)
    (rows : List ρ) (query : PageQuery) : ListResponse ι where
  items := (page (order.arrange rows) query.page query.limit).map serialize
  page := query.page
  limit := query.limit
  total := rows.length

/-- The first page at its default size. -/
def firstPage : PageQuery := ⟨1, le_rfl, 20, by decide, by decide⟩

/-- The item is on some page of the listing. -/
def OnPages {ι : Type} (response : PageQuery → ListResponse ι) (query : PageQuery) (item : ι) :
    Prop :=
  ∃ number, ∃ h : 1 ≤ number, item ∈ (response (query.turn number h)).items

/-- **The pages of an answer** hold the rows of its statement, whatever the page size. -/
theorem onPages_answer {ρ ι : Type} {before : ρ → ρ → Prop} {order : RowOrder ρ before}
    {serialize : ρ → ι} {rows : List ρ} {query : PageQuery} {item : ι} :
    OnPages (answer order serialize rows) query item ↔ ∃ r ∈ rows, serialize r = item := by
  simp only [OnPages, answer, PageQuery.turn, List.mem_map]
  constructor
  · rintro ⟨number, _, r, hr, hitem⟩
    exact ⟨r, order.mem_arrange.mp ((page_sublist _ _ _).subset hr), hitem⟩
  · rintro ⟨r, hr, hitem⟩
    obtain ⟨number, hnumber, hpage⟩ := (mem_pages query.limit_ge).mpr (order.mem_arrange.mpr hr)
    exact ⟨number, hnumber, r, hpage, hitem⟩

/-- Statements with the same rows have the same answers. -/
theorem answer_congr {ρ ι : Type} {before : ρ → ρ → Prop} {order : RowOrder ρ before}
    {serialize : ρ → ι} {rows rows' : List ρ} {query : PageQuery} (h : rows.Perm rows') :
    answer order serialize rows query = answer order serialize rows' query := by
  simp only [answer, order.congr h, h.length_eq]

/-! ## §2 Bookings -/

/-- `get_booking`. -/
def getBooking (c : Call) (s : Store) (bookingId : Uuid) : Except ServiceError Booking :=
  found (s.bookingOf? bookingId c.user) (.bookingNotFound "Booking not found.")

/-- A booking as listings show it.  The schema requires the venue, which every row the services
write names. -/
structure BookingListItem where
  id : Uuid
  status : BookingStatus
  level : BookingLevel
  seatId : Option Uuid
  roomId : Option Uuid
  venueId : Option Uuid
  startTime : Instant
  endTime : Instant
  priceAmountCents : Int
  priceCurrency : String
  cancelledAt : Option Instant
  deriving DecidableEq

/-- `_serialize_booking_list_item`. -/
def serializeBookingListItem (b : Booking) : BookingListItem where
  id := b.id
  status := b.status
  level := b.level
  seatId := b.seatId
  roomId := b.roomId
  venueId := b.venueId
  startTime := b.startTime
  endTime := b.endTime
  priceAmountCents := b.priceAmountCents
  priceCurrency := b.priceCurrency
  cancelledAt := b.cancelledAt

/-- `datetime.combine(date, time.min, tzinfo=UTC)`. -/
def utcMidnight (d : Date) : Instant := Zone.utc.toUtc (combine d .min)

/-- The `where` clauses of `list_bookings`. -/
def Booking.ListedBy (b : Booking) (userId : Uuid) (status : Option BookingStatus)
    (dateFrom dateTo : Option Date) : Prop :=
  b.userId = userId ∧ (∀ v ∈ status, b.status = v) ∧
    (∀ d ∈ dateFrom, utcMidnight d ≤ b.startTime) ∧
    ∀ d ∈ dateTo, b.startTime < utcMidnight (d + 1)

instance (b : Booking) (userId : Uuid) (status : Option BookingStatus)
    (dateFrom dateTo : Option Date) : Decidable (b.ListedBy userId status dateFrom dateTo) :=
  inferInstanceAs (Decidable (_ ∧ _ ∧ _ ∧ _))

/-- `list_bookings`. -/
def listBookings (db : Database) (c : Call) (s : Store) (status : Option BookingStatus)
    (dateFrom dateTo : Option Date) (query : PageQuery) : ListResponse BookingListItem :=
  answer db.bookingOrder serializeBookingListItem
    (s.bookings.rows.filter fun b => b.ListedBy c.user status dateFrom dateTo) query

/-- The booking has ended, or is in one of the statuses that count as over. -/
def Booking.Past (b : Booking) (now : Instant) : Prop :=
  b.endTime < now ∨ b.status ∈ [BookingStatus.cancelled, .completed, .noShow]

instance (b : Booking) (now : Instant) : Decidable (b.Past now) :=
  inferInstanceAs (Decidable (_ ∨ _))

/-- `list_booking_history`. -/
def listBookingHistory (db : Database) (c : Call) (s : Store) (query : PageQuery) :
    ListResponse BookingListItem :=
  let now := c.now 0
  answer db.bookingOrder serializeBookingListItem
    (s.bookings.rows.filter fun b => b.userId = c.user ∧ b.Past now) query

/-! ## §3 Payments and notifications -/

/-- `get_payment`. -/
def getPayment (c : Call) (s : Store) (paymentId : Uuid) : Except ServiceError Transaction :=
  found (s.transactionOf? paymentId c.user) (.paymentNotFound "Payment not found.")

/-- A notification as `list_notifications` shows it. -/
structure NotificationItem where
  channel : NotificationChannel
  templateCode : String
  payload : List (String × PayloadValue)
  status : NotificationStatus
  scheduledAt : Instant
  sentAt : Option Instant
  createdAt : Instant
  deriving DecidableEq

/-- `_serialize_notification`. -/
def serializeNotification (n : Notification) : NotificationItem where
  channel := n.channel
  templateCode := n.templateCode
  payload := n.payload
  status := n.status
  scheduledAt := n.scheduledAt
  sentAt := n.sentAt
  createdAt := n.createdAt

/-- `list_notifications`. -/
def listNotifications (db : Database) (c : Call) (s : Store) (status : Option NotificationStatus)
    (query : PageQuery) : ListResponse NotificationItem :=
  answer db.notificationOrder serializeNotification
    (s.notifications.filter fun n => n.userId = c.user ∧ ∀ v ∈ status, n.status = v) query

/-! ## §4 Specifications -/

variable {db : Database} {c : Call} {s : Store} {query : PageQuery} {id : Uuid}

/-- The listing shows the booking on one of its pages. -/
def Reports (response : PageQuery → ListResponse BookingListItem) (query : PageQuery) (id : Uuid) :
    Prop :=
  ∃ item, item.id = id ∧ OnPages response query item

/-- The bookings a listing reports are those its statement selects. -/
private theorem reports_answer {p : Booking → Prop} [DecidablePred p] :
    Reports (answer db.bookingOrder serializeBookingListItem (s.bookings.rows.filter p)) query id ↔
      ∃ b, s.bookings.get? id = some b ∧ p b := by
  simp only [Reports, onPages_answer, List.mem_filter, decide_eq_true_eq]
  constructor
  · rintro ⟨_, rfl, b, ⟨hb, hp⟩, rfl⟩
    exact ⟨b, Table.get?_of_mem hb, hp⟩
  · rintro ⟨b, hget, hp⟩
    exact ⟨_, Table.key_of_get? hget, b, ⟨Table.mem_of_get? hget, hp⟩, rfl⟩

/-- **What `list_bookings` reports.** -/
theorem reports_listBookings {status : Option BookingStatus} {dateFrom dateTo : Option Date} :
    Reports (listBookings db c s status dateFrom dateTo) query id ↔
      ∃ b, s.bookings.get? id = some b ∧ b.ListedBy c.user status dateFrom dateTo :=
  reports_answer

/-- **What `list_booking_history` reports.** -/
theorem reports_listBookingHistory :
    Reports (listBookingHistory db c s) query id ↔
      ∃ b, s.bookings.get? id = some b ∧ b.userId = c.user ∧ b.Past (c.now 0) :=
  reports_answer

end Coworking
