import Mathlib.Data.List.Basic

/-!
# Permissions

The permissions of each role, in the words of the code.
-/

namespace Coworking

/-- `ROLE_PERMISSIONS`. -/
def rolePermissionsTable : List (String × List String) :=
  [("owner",
     ["venues.read", "venues.update", "rooms.read", "rooms.create", "rooms.update", "rooms.delete",
      "seats.read", "seats.create", "seats.update", "seats.delete", "features.read",
      "feature_links.read", "feature_links.link", "feature_links.unlink", "booking_rules.read",
      "booking_rules.update", "room_hours.read", "room_hours.update", "tariffs.read",
      "tariffs.create", "tariffs.update", "tariffs.archive", "availability.read", "holds.create",
      "holds.cancel", "bookings.create", "bookings.read", "bookings.cancel",
      "bookings.update_status", "checkins.create", "transactions.read", "transactions.capture",
      "transactions.refund", "analytics.read", "notifications.read", "notifications.send",
      "notification_prefs.read", "notification_prefs.update", "users.read", "roles.assign",
      "roles.revoke", "invites.create", "invites.read", "invites.revoke"]),
   ("admin",
     ["venues.read", "venues.update", "rooms.read", "rooms.create", "rooms.update", "rooms.delete",
      "seats.read", "seats.create", "seats.update", "seats.delete", "features.read",
      "feature_links.read", "feature_links.link", "feature_links.unlink", "booking_rules.read",
      "booking_rules.update", "room_hours.read", "room_hours.update", "tariffs.read",
      "tariffs.create", "tariffs.update", "tariffs.archive", "availability.read", "holds.create",
      "holds.cancel", "bookings.create", "bookings.read", "bookings.cancel",
      "bookings.update_status", "checkins.create", "analytics.read", "notifications.read",
      "notifications.send", "notification_prefs.read", "notification_prefs.update", "users.read",
      "roles.assign", "roles.revoke", "invites.create", "invites.read", "invites.revoke"]),
   ("manager",
     ["venues.read", "rooms.read", "rooms.update", "seats.read", "seats.update", "features.read",
      "feature_links.read", "room_hours.read", "availability.read", "holds.create", "holds.cancel",
      "bookings.create", "bookings.read", "bookings.cancel", "bookings.update_status",
      "checkins.create", "analytics.read", "notifications.read", "notification_prefs.read"]),
   ("support",
     ["venues.read", "rooms.read", "seats.read", "features.read", "availability.read",
      "bookings.read", "notifications.read", "users.read", "invites.read"]),
   ("billing",
     ["transactions.read", "transactions.capture", "transactions.refund", "analytics.read",
      "bookings.read", "users.read"]),
   ("auditor",
     ["venues.read", "rooms.read", "seats.read", "features.read", "availability.read",
      "bookings.read", "transactions.read", "analytics.read", "notifications.read", "users.read"]),
   ("client",
     ["availability.read", "holds.create", "holds.cancel", "bookings.create", "bookings.read",
      "bookings.cancel", "checkins.create", "notification_prefs.read", "notification_prefs.update"])]

/-- `ROLE_PERMISSIONS.get(role_code, set())`. -/
def rolePermissions (roleCode : String) : List String :=
  (rolePermissionsTable.lookup roleCode).getD []

end Coworking
