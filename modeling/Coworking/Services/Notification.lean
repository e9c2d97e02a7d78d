import Coworking.Core.Runtime
import Coworking.Schemas
import Coworking.Services.Errors

/-!
# Notifications

The notification record every booking, check-in and payment operation adds to its own
transaction, and the per-user preferences.
-/

namespace Coworking

open Foundation

/-- `create_notification_record` with its default channel. -/
def createNotificationRecord (now : Instant) (s : Store) (userId : Uuid) (templateCode : String)
    (payload : List (String × PayloadValue)) : Store :=
  { s with
    notifications := s.notifications ++
      [{ userId
         channel := .push
         templateCode
         payload
         status := .sent
         scheduledAt := now
         sentAt := some now
         createdAt := now }] }

/-- The preferences `update_notification_preferences` starts from. -/
def defaultPreference (userId : Uuid) (now : Instant) : NotificationPreference where
  userId
  emailNotifications := true
  pushNotifications := true
  reminderBeforeBooking := true
  promotionalEmails := false
  updatedAt := now

/-- The column writes of `update_notification_preferences`. -/
def NotificationPrefsUpdate.apply (payload : NotificationPrefsUpdate) (now : Instant)
    (p : NotificationPreference) : NotificationPreference :=
  { p with
    emailNotifications := payload.emailNotifications.getD p.emailNotifications
    pushNotifications := payload.pushNotifications.getD p.pushNotifications
    reminderBeforeBooking := payload.reminderBeforeBooking.getD p.reminderBeforeBooking
    promotionalEmails := payload.promotionalEmails.getD p.promotionalEmails
    updatedAt := now }

/-- `update_notification_preferences`. -/
def updateNotificationPreferences (c : Call) (s : Store) (payload : NotificationPrefsUpdate) :
    Store :=
  let now := c.now 0
  match h : s.notificationPreferences.get? c.user with
  | none =>
    { s with
      notificationPreferences :=
        s.notificationPreferences.insert (payload.apply now (defaultPreference c.user now))
          (Table.get?_eq_none.mp h) }
  | some _ =>
    { s with
      notificationPreferences :=
        s.notificationPreferences.modify c.user (payload.apply now) fun _ => rfl }

structure NotificationPreferencesResponse where
  emailNotifications : Bool
  pushNotifications : Bool
  reminderBeforeBooking : Bool
  promotionalEmails : Bool
  deriving DecidableEq

/-- `get_notification_preferences`. -/
def getNotificationPreferences (c : Call) (s : Store) : NotificationPreferencesResponse :=
  match s.notificationPreferences.get? c.user with
  | none => ⟨true, true, true, false⟩
  | some preference =>
    ⟨preference.emailNotifications, preference.pushNotifications,
      preference.reminderBeforeBooking, preference.promotionalEmails⟩

end Coworking
