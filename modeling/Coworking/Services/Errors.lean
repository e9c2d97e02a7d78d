/-!
# Service Errors

The exceptions a service call can end in.  Those of the services carry their message;
the last three are raised by what the services call.
-/

namespace Coworking

inductive ServiceError
  | availabilityValidation (message : String)
  | availabilityNotFound (message : String)
  | holdConflict (message : String)
  | holdNotFound (message : String)
  | bookingConflict (message : String)
  | bookingNotFound (message : String)
  | checkinValidation (message : String)
  | checkinNotFound (message : String)
  | paymentValidation (message : String)
  | paymentNotFound (message : String)
  | spaceNotFound (message : String)
  | favoriteNotFound (message : String)
  /-- `ValueError`. -/
  | value (message : String)
  /-- `ZoneInfoNotFoundError` and its kin: `ZoneInfo(key)` did not load. -/
  | zoneInfo (key : String)
  /-- `IntegrityError`: a unique constraint rejected a row. -/
  | integrity
  /-- `DataError`: a value does not fit its column. -/
  | data
  deriving DecidableEq

/-- The exceptions a call of `auth.py` can end in. -/
inductive AuthError
  | conflict (message : String)
  | credentials (message : String)
  | token (message : String)
  | forbidden (message : String)
  | integrity
  | data
  deriving DecidableEq

end Coworking
