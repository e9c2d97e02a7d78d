import Mathlib.Logic.Basic

/-!
# Enumerations

The enumerations of the schema, member by member.
-/

namespace Coworking

inductive BookingLevel
  | seat | room | venue
  deriving DecidableEq

inductive BookingStatus
  | pending | confirmed | checkedIn | cancelled | expired | noShow | completed
  deriving DecidableEq

inductive HoldStatus
  | pending | cancelled | expired | converted
  deriving DecidableEq

inductive PaymentStatus
  | pending | authorized | captured | failed | refunded | cancelled
  deriving DecidableEq

inductive NotificationChannel
  | push | email
  deriving DecidableEq

inductive NotificationStatus
  | pending | sent | failed | cancelled
  deriving DecidableEq

inductive CheckinMethod
  | qr | manual | geo
  deriving DecidableEq

inductive UserStatus
  | active | inactive | suspended
  deriving DecidableEq

end Coworking
