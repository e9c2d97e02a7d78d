import Coworking.Api.Dependencies
import Coworking.System.Operation

/-!
# Routes

The routes that write: the guards, then the service call in the name of the user the token is for,
then the status its `except` clauses give to what the call raises.  What they do not name is left
to the handler of the application, which answers 500.

- `authorize`, `endpoint`: a request up to its answer;
- `Op.excepts`, `ApiError.status`: which status an exception gets;
- `authorize_eq_ok`, `endpointStep_of_ok`: what is let through, and what it does then.
-/

namespace Coworking

open Foundation

variable {τ : Type}

/-! ## §1 Guards -/

/-- What `require_permissions` asks for on the route of the operation; the other routes depend on
`get_current_user` alone. -/
def Op.permissions : Op → List String
  | .createVenue _ => ["venues.update"]
  | .updateRoomLayout _ _ => ["rooms.update"]
  | _ => []

/-- The dependencies of a route, in their order; each reads the clock for itself. -/
def authorize (env : AuthEnv τ) (clock : Clock) (a : Accounts) (token : τ) (op : Op) :
    Except HttpError User := do
  let user ← getCurrentUser env (clock.reading 0) a token
  if op.permissions = [] then pure user
  else do
    let _ ← requirePermissions env (clock.reading 1) op.permissions token
    pure user

/-! ## §2 Answers -/

/-- What a request can end in: a guard turned it away, or the service raised. -/
inductive ApiError
  | guard (e : HttpError)
  | service (e : ServiceError)
  deriving DecidableEq

/-- The status of a request that a guard answers. -/
def HttpError.status : HttpError → Nat
  | .unauthorized _ => 401
  | .forbidden _ => 403
  | .notFound _ => 404
  | .internal _ => 500

/-- The `except` clauses around the service call of a route. -/
def Op.excepts : Op → ServiceError → Option Nat
  -- `create_hold_endpoint`
  | .createHold _, .availabilityValidation _ => some 400
  | .createHold _, .availabilityNotFound _ => some 404
  | .createHold _, .holdConflict _ => some 409
  -- `cancel_hold_endpoint`
  | .cancelHold _, .holdNotFound _ => some 404
  -- `create_booking_endpoint`
  | .createBooking _, .availabilityValidation _ => some 400
  | .createBooking _, .availabilityNotFound _ => some 404
  | .createBooking _, .bookingConflict _ => some 409
  -- `reschedule_booking_endpoint`
  | .rescheduleBooking _ _, .availabilityValidation _ => some 400
  | .rescheduleBooking _ _, .availabilityNotFound _ => some 404
  | .rescheduleBooking _ _, .bookingNotFound _ => some 404
  | .rescheduleBooking _ _, .bookingConflict _ => some 409
  -- `repeat_booking_endpoint`
  | .repeatBooking _ _, .availabilityValidation _ => some 400
  | .repeatBooking _ _, .availabilityNotFound _ => some 404
  | .repeatBooking _ _, .bookingNotFound _ => some 404
  | .repeatBooking _ _, .bookingConflict _ => some 409
  -- `cancel_booking_endpoint`
  | .cancelBooking _, .bookingNotFound _ => some 404
  -- `booking_checkin_endpoint`
  | .createCheckin _ _, .checkinValidation _ => some 400
  | .createCheckin _ _, .checkinNotFound _ => some 404
  -- `create_payment_endpoint`, `capture_payment_endpoint`, `refund_payment_endpoint`
  | .createPayment _, .paymentValidation _ => some 400
  | .createPayment _, .paymentNotFound _ => some 404
  | .capturePayment _, .paymentValidation _ => some 400
  | .capturePayment _, .paymentNotFound _ => some 404
  | .refundPayment _ _, .paymentValidation _ => some 400
  | .refundPayment _ _, .paymentNotFound _ => some 404
  -- `add_favorite`
  | .createFavoriteVenue _, .favoriteNotFound _ => some 404
  -- `admin_update_room_layout`
  | .updateRoomLayout _ _, .spaceNotFound _ => some 404
  | _, _ => none

/-- The status of an answer; `unhandled_exception_handler` takes what no clause names. -/
def ApiError.status (op : Op) : ApiError → Nat
  | .guard e => e.status
  | .service e => (op.excepts e).getD 500

/-- A request up to its answer.  The service call is made in the name of the user whom the guards
have found, whoever else is named in its circumstances. -/
def endpoint (env : AuthEnv τ) (rt : Runtime) (clock : Clock) (a : Accounts) (c : Call) (s : Store)
    (token : τ) (op : Op) : Except ApiError Store :=
  match authorize env clock a token op with
  | .error e => .error (.guard e)
  | .ok user =>
    match exec rt { c with user := user.id } s op with
    | .error e => .error (.service e)
    | .ok s' => .ok s'

/-- The store a request leaves; an exception leaves it as it was. -/
def endpointStep (env : AuthEnv τ) (rt : Runtime) (clock : Clock) (a : Accounts) (c : Call)
    (s : Store) (token : τ) (op : Op) : Store :=
  match endpoint env rt clock a c s token op with
  | .error _ => s
  | .ok s' => s'

/-! ## §3 Specifications -/

variable {env : AuthEnv τ} {rt : Runtime} {clock : Clock} {a : Accounts} {c : Call} {s s' : Store}
  {token : τ} {op : Op} {user : User}

theorem authorize_eq_ok : authorize env clock a token op = .ok user ↔
    getCurrentUser env (clock.reading 0) a token = .ok user ∧ (op.permissions ≠ [] →
      Returns (requirePermissions env (clock.reading 1) op.permissions token)) := by
  simp only [authorize, bind_eq_ok]
  by_cases hnone : op.permissions = []
  · simp [hnone, pure_eq_ok]
  · simp only [hnone, if_false, bind_eq_ok, pure_eq_ok, ne_eq, not_false_eq_true, forall_const,
      Returns]
    constructor
    · rintro ⟨user', huser, p, hp, rfl⟩
      exact ⟨huser, p, hp⟩
    · rintro ⟨huser, p, hp⟩
      exact ⟨user, huser, p, hp, rfl⟩

theorem endpointStep_of_ok (h : authorize env clock a token op = .ok user) :
    endpointStep env rt clock a c s token op = step rt s ⟨{ c with user := user.id }, op⟩ := by
  unfold endpointStep endpoint step
  rw [h]
  cases hexec : exec rt { c with user := user.id } s op with
  | error e => simp [hexec]
  | ok s₁ => simp [hexec]

/-- A request that is turned away writes nothing. -/
theorem endpointStep_of_error {e : HttpError} (h : authorize env clock a token op = .error e) :
    endpointStep env rt clock a c s token op = s := by
  unfold endpointStep endpoint
  rw [h]

/-! ### Statuses -/

theorem decodeAccessToken_status {now : Instant} {e : HttpError}
    (h : decodeAccessToken env now token = .error e) : e.status = 401 := by
  simp only [decodeAccessToken, bind_eq_error, raiseIf_eq_error, found_eq_error, pure_ne_error,
    and_false, exists_false, or_false] at h
  rcases h with ⟨-, rfl⟩ | ⟨_, -, -, rfl⟩
  · rfl
  · rfl

/-- A token that does not decode is answered with 401, whatever the route. -/
theorem endpoint_of_not_decoded
    (h : ∀ p, decodeAccessToken env (clock.reading 0) token ≠ .ok p) :
    ∃ err, endpoint env rt clock a c s token op = .error err ∧ err.status op = 401 := by
  cases hdecode : decodeAccessToken env (clock.reading 0) token with
  | ok p => exact (h p hdecode).elim
  | error e =>
    have hguard : authorize env clock a token op = .error e := by
      rw [authorize, getCurrentUser, hdecode]
      rfl
    refine ⟨.guard e, ?_, decodeAccessToken_status hdecode⟩
    rw [endpoint, hguard]

end Coworking
