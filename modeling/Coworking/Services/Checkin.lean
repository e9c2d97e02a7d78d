import Coworking.Services.Booking

/-!
# Check-ins

`create_checkin`, split at its first write.  The guards name the two statuses they turn
away; every other status is checked in.

- `checkCheckin_eq_ok`, `createCheckin_eq_ok`: acceptance and effect.
-/

namespace Coworking

open Foundation

/-- What `create_checkin` is about to write. -/
structure CheckinDraft where
  checkin : Checkin
  update : BookingUpdate
  deriving DecidableEq

/-- The fields the method of a check-in requires. -/
structure CheckinRequest.Complete (payload : CheckinRequest) : Prop where
  geo : payload.method = .geo → payload.lat ≠ none ∧ payload.lon ≠ none
  qr : payload.method = .qr → payload.qrCode.getD "" ≠ ""

/-- `create_checkin` up to its writes. -/
def checkCheckin (c : Call) (s : Store) (bookingId : Uuid) (payload : CheckinRequest) :
    Except ServiceError CheckinDraft := do
  let booking ← found (s.bookingOf? bookingId c.user) (.checkinNotFound "Booking not found.")
  raiseIf (booking.status = .cancelled)
    (.checkinValidation "Cancelled booking cannot be checked in.")
  raiseIf (booking.status = .checkedIn) (.checkinValidation "Booking is already checked in.")
  -- No other status is looked at, and neither is the window of the booking.
  raiseIf (payload.method = .geo ∧ (payload.lat = none ∨ payload.lon = none))
    (.checkinValidation "Geo check-in requires lat and lon.")
  raiseIf (payload.method = .qr ∧ payload.qrCode.getD "" = "")
    (.checkinValidation "QR check-in requires qrCode.")
  pure
    { checkin :=
        { bookingId
          method := payload.method
          lat := payload.lat
          lon := payload.lon
          notes := if payload.method = .qr then payload.qrCode else none
          checkedInAt := c.now 0 }
      update :=
        { bookingId
          userId := c.user
          patch := { status := dirty booking.status .checkedIn }
          templateCode := "booking_checked_in" } }

/-- `create_checkin` from its writes on; `checkins.booking_id` is unique. -/
def commitCheckin (now : Instant) (s : Store) (d : CheckinDraft) : Except ServiceError Store :=
  -- The constraint is checked when the row is flushed, after every guard.
  if h : Keyed.key d.checkin ∈ s.checkins.keys then .error .integrity
  else .ok (commitBookingUpdate now { s with checkins := s.checkins.insert d.checkin h } d.update)

/-- `create_checkin`. -/
def createCheckin (c : Call) (s : Store) (bookingId : Uuid) (payload : CheckinRequest) :
    Except ServiceError Store := do
  let draft ← checkCheckin c s bookingId payload
  commitCheckin (c.now 1) s draft

/-! ## Specification -/

variable {c : Call} {s s' : Store} {bookingId : Uuid} {payload : CheckinRequest}

/-- The booking passes the guards of `create_checkin`, and so does the request. -/
structure CheckinAccepted (c : Call) (s : Store) (bookingId : Uuid) (payload : CheckinRequest)
    (booking : Booking) : Prop where
  owned : s.bookingOf? bookingId c.user = some booking
  notCancelled : booking.status ≠ .cancelled
  notCheckedIn : booking.status ≠ .checkedIn
  complete : payload.Complete

/-- **Acceptance of a check-in.**  Any booking that is neither cancelled nor checked in. -/
theorem checkCheckin_eq_ok {d : CheckinDraft} :
    checkCheckin c s bookingId payload = .ok d ↔
      ∃ booking, CheckinAccepted c s bookingId payload booking ∧ d =
        { checkin :=
            { bookingId
              method := payload.method
              lat := payload.lat
              lon := payload.lon
              notes := if payload.method = .qr then payload.qrCode else none
              checkedInAt := c.now 0 }
          update :=
            { bookingId
              userId := c.user
              patch := { status := some .checkedIn }
              templateCode := "booking_checked_in" } } := by
  simp only [checkCheckin, bind_eq_ok, raiseIf_eq_ok, found_eq_ok, pure_eq_ok, exists_const,
    not_and, not_or]
  constructor
  · intro hok
    rcases hok with ⟨booking, hb, hcancelled, hchecked, hgeo, hqr, rfl⟩
    rw [dirty_eq_some.mpr ⟨hchecked, rfl⟩]
    exact ⟨booking, ⟨hb, hcancelled, hchecked, ⟨hgeo, hqr⟩⟩, rfl⟩
  · intro hspec
    rcases hspec with ⟨booking, ⟨hb, hcancelled, hchecked, ⟨hgeo, hqr⟩⟩, rfl⟩
    refine ⟨booking, hb, hcancelled, hchecked, hgeo, hqr, ?_⟩
    rw [dirty_eq_some.mpr ⟨hchecked, rfl⟩]

theorem commitCheckin_eq_ok {now : Instant} {d : CheckinDraft} :
    commitCheckin now s d = .ok s' ↔ ∃ h : Keyed.key d.checkin ∉ s.checkins.keys,
      commitBookingUpdate now { s with checkins := s.checkins.insert d.checkin h } d.update =
        s' := by
  by_cases h : Keyed.key d.checkin ∈ s.checkins.keys <;> simp [commitCheckin, h]

theorem commitCheckin_eq_error {now : Instant} {d : CheckinDraft} {e : ServiceError} :
    commitCheckin now s d = .error e ↔ Keyed.key d.checkin ∈ s.checkins.keys ∧ .integrity = e := by
  by_cases h : Keyed.key d.checkin ∈ s.checkins.keys <;> simp [commitCheckin, h]

theorem createCheckin_eq_ok :
    createCheckin c s bookingId payload = .ok s' ↔
      ∃ d, checkCheckin c s bookingId payload = .ok d ∧ commitCheckin (c.now 1) s d = .ok s' := by
  simp only [createCheckin, bind_eq_ok]

end Coworking
