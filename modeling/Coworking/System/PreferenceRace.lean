import Coworking.Foundation.Interleaving
import Coworking.System.PushTokens

/-!
# Preferences under Concurrency

A user may change two preferences from two devices at once.  The first update inserts a row with
all columns, and the primary key refuses a second one; later updates write only the columns that
differ from the loaded row, so that two of them do not undo each other's columns.  They can still
lose a change that looked like none when the row was loaded.

- `preferenceUpdates`: the protocol, and `updateNotificationPreferences_halves`, the serial call;
- `Store.preference`, `asked`: what is shown, and what the committed updates ask for;
- `preferences_current_iff`: the interleavings along which these agree, exactly.
-/

namespace Coworking

open Foundation

/-! ## §1 Columns -/

inductive PreferenceField
  | emailNotifications
  | pushNotifications
  | reminderBeforeBooking
  | promotionalEmails
  deriving DecidableEq

/-- A column of a row. -/
def NotificationPreference.get (p : NotificationPreference) : PreferenceField → Bool
  | .emailNotifications => p.emailNotifications
  | .pushNotifications => p.pushNotifications
  | .reminderBeforeBooking => p.reminderBeforeBooking
  | .promotionalEmails => p.promotionalEmails

/-- A field of an update. -/
def NotificationPrefsUpdate.get (payload : NotificationPrefsUpdate) :
    PreferenceField → Option Bool
  | .emailNotifications => payload.emailNotifications
  | .pushNotifications => payload.pushNotifications
  | .reminderBeforeBooking => payload.reminderBeforeBooking
  | .promotionalEmails => payload.promotionalEmails

/-- A field of the answer of `get_notification_preferences`. -/
def NotificationPreferencesResponse.get (r : NotificationPreferencesResponse) :
    PreferenceField → Bool
  | .emailNotifications => r.emailNotifications
  | .pushNotifications => r.pushNotifications
  | .reminderBeforeBooking => r.reminderBeforeBooking
  | .promotionalEmails => r.promotionalEmails

/-- What is shown to a user who has set nothing. -/
def PreferenceField.default : PreferenceField → Bool
  | .promotionalEmails => false
  | _ => true

/-- What is shown to a user. -/
def Store.preference (s : Store) (user : Uuid) (field : PreferenceField) : Bool :=
  ((s.notificationPreferences.get? user).map (·.get field)).getD field.default

/-- It is what `get_notification_preferences` answers. -/
theorem get_getNotificationPreferences (c : Call) (s : Store) (field : PreferenceField) :
    (getNotificationPreferences c s).get field = s.preference c.user field := by
  unfold getNotificationPreferences Store.preference
  cases s.notificationPreferences.get? c.user <;> cases field <;> rfl

theorem NotificationPrefsUpdate.get_apply (payload : NotificationPrefsUpdate) (now : Instant)
    (p : NotificationPreference) (field : PreferenceField) :
    (payload.apply now p).get field = (payload.get field).getD (p.get field) := by
  cases field <;> rfl

theorem defaultPreference_get (user : Uuid) (now : Instant) (field : PreferenceField) :
    (defaultPreference user now).get field = field.default := by
  cases field <;> rfl

/-! ## §2 Updates -/

/-- The `SET` clause of an update. -/
structure PreferencePatch where
  emailNotifications : Option Bool
  pushNotifications : Option Bool
  reminderBeforeBooking : Option Bool
  promotionalEmails : Option Bool
  updatedAt : Option Instant

def PreferencePatch.get (patch : PreferencePatch) : PreferenceField → Option Bool
  | .emailNotifications => patch.emailNotifications
  | .pushNotifications => patch.pushNotifications
  | .reminderBeforeBooking => patch.reminderBeforeBooking
  | .promotionalEmails => patch.promotionalEmails

/-- The row after the update. -/
def PreferencePatch.apply (patch : PreferencePatch) (p : NotificationPreference) :
    NotificationPreference :=
  { p with
    emailNotifications := patch.emailNotifications.getD p.emailNotifications
    pushNotifications := patch.pushNotifications.getD p.pushNotifications
    reminderBeforeBooking := patch.reminderBeforeBooking.getD p.reminderBeforeBooking
    promotionalEmails := patch.promotionalEmails.getD p.promotionalEmails
    updatedAt := patch.updatedAt.getD p.updatedAt }

theorem PreferencePatch.apply_key (patch : PreferencePatch) (p : NotificationPreference) :
    Keyed.key (patch.apply p) = Keyed.key p := rfl

theorem PreferencePatch.get_apply (patch : PreferencePatch) (p : NotificationPreference)
    (field : PreferenceField) :
    (patch.apply p).get field = (patch.get field).getD (p.get field) := by
  cases field <;> rfl

/-- The columns of a payload that differ from the loaded row. -/
def NotificationPrefsUpdate.patch (payload : NotificationPrefsUpdate) (now : Instant)
    (loaded : NotificationPreference) : PreferencePatch where
  emailNotifications := payload.emailNotifications.bind (dirty loaded.emailNotifications)
  pushNotifications := payload.pushNotifications.bind (dirty loaded.pushNotifications)
  reminderBeforeBooking := payload.reminderBeforeBooking.bind (dirty loaded.reminderBeforeBooking)
  promotionalEmails := payload.promotionalEmails.bind (dirty loaded.promotionalEmails)
  updatedAt := dirty loaded.updatedAt now

theorem NotificationPrefsUpdate.get_patch (payload : NotificationPrefsUpdate) (now : Instant)
    (loaded : NotificationPreference) (field : PreferenceField) :
    (payload.patch now loaded).get field = (payload.get field).bind (dirty (loaded.get field)) := by
  cases field <;> rfl

/-- What `update_notification_preferences` is about to write. -/
inductive PreferenceDraft
  | insert (row : NotificationPreference)
  | update (userId : Uuid) (patch : PreferencePatch)

/-- `update_notification_preferences` up to its commit. -/
def checkPreferences (c : Call) (s : Store) (payload : NotificationPrefsUpdate) :
    PreferenceDraft :=
  let now := c.now 0
  match s.notificationPreferences.get? c.user with
  | none => .insert (payload.apply now (defaultPreference c.user now))
  | some preference => .update c.user (payload.patch now preference)

/-- Its commit; no operation deletes a row. -/
def commitPreferences (s : Store) : PreferenceDraft → Except ServiceError Store
  | .insert row =>
    if h : Keyed.key row ∈ s.notificationPreferences.keys then .error .integrity
    else .ok { s with notificationPreferences := s.notificationPreferences.insert row h }
  | .update userId patch => .ok { s with
      notificationPreferences := s.notificationPreferences.modify userId patch.apply
        patch.apply_key }

/-- Of the row it was computed from, a patch makes what the payload does. -/
theorem NotificationPrefsUpdate.patch_apply (payload : NotificationPrefsUpdate) (now : Instant)
    (p : NotificationPreference) : (payload.patch now p).apply p = payload.apply now p := by
  have hcolumn : ∀ (value : Option Bool) (loaded : Bool),
      (value.bind (dirty loaded)).getD loaded = value.getD loaded := by
    intro value loaded
    cases value with
    | none => rfl
    | some v => exact dirty_getD loaded v
  simp only [PreferencePatch.apply, NotificationPrefsUpdate.patch, hcolumn, dirty_getD]
  rfl

/-- **The two halves make up the operation.** -/
theorem updateNotificationPreferences_halves (c : Call) (s : Store)
    (payload : NotificationPrefsUpdate) :
    commitPreferences s (checkPreferences c s payload) =
      .ok (updateNotificationPreferences c s payload) := by
  rw [checkPreferences]
  cases hget : s.notificationPreferences.get? c.user with
  | none =>
    unfold updateNotificationPreferences
    dsimp only
    split
    next hnone => exact dif_neg (Table.get?_eq_none.mp hnone)
    next preference hsome => cases hget.symm.trans hsome
  | some preference =>
    unfold updateNotificationPreferences
    dsimp only
    split
    next hnone => cases hget.symm.trans hnone
    next =>
      have hrow : s.notificationPreferences.modify c.user
          (payload.patch (c.now 0) preference).apply (PreferencePatch.apply_key _) =
          s.notificationPreferences.modify c.user (payload.apply (c.now 0)) fun _ => rfl := by
        refine Table.modify_congr fun r hr => ?_
        rw [← Option.mem_unique hget hr]
        exact payload.patch_apply _ _
      exact congrArg (fun t => Except.ok { s with notificationPreferences := t }) hrow

/-! ## §3 Requests -/

structure PreferenceRequest where
  call : Call
  payload : NotificationPrefsUpdate

/-- Updates of preferences, with other requests between their read and their commit. -/
def preferenceUpdates : Protocol Store PreferenceRequest PreferenceDraft where
  reads := fun s r p s' => p = checkPreferences r.call s r.payload ∧ s' = s
  commits := fun s _ p s' => commitPreferences s p = .ok s'

abbrev PreferenceTicket := Ticket Store PreferenceRequest PreferenceDraft

abbrev PreferenceConfig := Config Store PreferenceRequest PreferenceDraft

abbrev PreferenceMove := Move Store PreferenceRequest PreferenceDraft

variable {s s' : Store} {t : PreferenceTicket} {k k' : PreferenceConfig} {m : PreferenceMove}
  {user : Uuid} {field : PreferenceField}

/-- No row is deleted. -/
def KeepsPreferences (s s' : Store) : Prop :=
  ∀ user ∈ s.notificationPreferences.keys, user ∈ s'.notificationPreferences.keys

theorem keepsPreferences_commit {p : PreferenceDraft} (h : commitPreferences s p = .ok s') :
    KeepsPreferences s s' := by
  intro user huser
  cases p with
  | insert row =>
    rw [commitPreferences] at h
    split at h
    · cases h
    next hnew =>
      rw [← Except.ok.inj h]
      have hmem : user ∈ (s.notificationPreferences.insert row hnew).keys :=
        Table.mem_keys_insert.mpr (.inl huser)
      exact hmem
  | update userId patch =>
    rw [← Except.ok.inj h]
    have hsame : (s.notificationPreferences.modify userId patch.apply patch.apply_key).keys =
        s.notificationPreferences.keys := Table.keys_modify
    exact hsame.symm ▸ huser

/-- A ticket whose row, if it has loaded one, is still there. -/
abbrev StandingPreference (t : PreferenceTicket) (s : Store) : Prop :=
  preferenceUpdates.Standing KeepsPreferences t s

theorem standingPreference_step (h : preferenceUpdates.AllStanding KeepsPreferences k)
    (hstep : preferenceUpdates.Step k m k') :
    preferenceUpdates.AllStanding KeepsPreferences k' :=
  Protocol.allStanding_step (fun _ _ => id) (fun _ _ _ h₁ h₂ u hu => h₂ u (h₁ u hu))
    (fun _ _ _ _ hread => hread.2 ▸ fun _ => id)
    (fun _ _ _ _ hcommit => keepsPreferences_commit hcommit) h hstep

/-! ## §4 What is asked for -/

/-- The value that the committed updates give a preference: that of the latest one by the user
that names it, and what was shown at the start before the first. -/
def asked (s₀ : Store) (user : Uuid) (field : PreferenceField) : List PreferenceTicket → Bool
  | [] => s₀.preference user field
  | t :: l =>
    if t.request.call.user = user then
      (t.request.payload.get field).getD (asked s₀ user field l)
    else asked s₀ user field l

/-- Everybody is shown what they asked for last. -/
def PreferencesCurrent (s₀ : Store) (k : PreferenceConfig) : Prop :=
  ∀ user field, k.shared.preference user field = asked s₀ user field k.committed

/-- A value that an update leaves out, because the row it loaded had it, is in the row. -/
def FindsPreference (k : PreferenceConfig) (m : PreferenceMove) : Prop :=
  ∀ t loaded field value, m = .commit t →
    t.seen.notificationPreferences.get? t.request.call.user = some loaded →
    t.request.payload.get field = some value → loaded.get field = value →
    k.shared.preference t.request.call.user field = value

theorem Store.preference_of_get? {p : NotificationPreference}
    (h : s.notificationPreferences.get? user = some p) : s.preference user field = p.get field := by
  rw [Store.preference, h]
  rfl

theorem Store.preference_of_none (h : s.notificationPreferences.get? user = none) :
    s.preference user field = field.default := by
  rw [Store.preference, h]
  rfl

/-- The first update of a user adds a row that shows what it names. -/
theorem preference_insert {c : Call} {payload : NotificationPrefsUpdate} {now : Instant}
    (h : commitPreferences s (.insert (payload.apply now (defaultPreference c.user now))) =
      .ok s') (user : Uuid) (field : PreferenceField) :
    s'.preference user field =
      if c.user = user then (payload.get field).getD (s.preference user field)
      else s.preference user field := by
  rw [commitPreferences] at h
  split at h
  · cases h
  next hnew =>
    rw [← Except.ok.inj h]
    show ((Table.get? (s.notificationPreferences.insert _ hnew) user).map _).getD _ = _
    rw [Table.get?_insert]
    split
    next hkey =>
      have huser : c.user = user := hkey
      have hnone : s.notificationPreferences.get? user = none :=
        huser ▸ Table.get?_eq_none.mpr hnew
      rw [if_pos huser, Store.preference_of_none hnone]
      show (payload.apply now (defaultPreference c.user now)).get field = _
      rw [NotificationPrefsUpdate.get_apply, defaultPreference_get]
    next hkey =>
      have huser : c.user ≠ user := hkey
      rw [if_neg huser]
      rfl

/-- A later one changes what its patch writes. -/
theorem preference_update {userId : Uuid} {patch : PreferencePatch}
    (hrow : userId ∈ s.notificationPreferences.keys)
    (h : commitPreferences s (.update userId patch) = .ok s') (user : Uuid)
    (field : PreferenceField) :
    s'.preference user field =
      if userId = user then (patch.get field).getD (s.preference user field)
      else s.preference user field := by
  rw [← Except.ok.inj h]
  show ((Table.get? (s.notificationPreferences.modify userId patch.apply patch.apply_key)
    user).map _).getD _ = _
  rw [Table.get?_modify]
  by_cases huser : userId = user
  · obtain ⟨p, hp, hkey⟩ := Table.mem_keys.mp hrow
    have hget : s.notificationPreferences.get? user = some p :=
      Table.get?_eq_some.mpr ⟨hp, hkey.trans huser⟩
    rw [if_pos huser, Store.preference_of_get? hget, hget, ← patch.get_apply]
    rw [Option.map_some, if_pos huser.symm]
    rfl
  · rw [if_neg huser]
    cases hget : s.notificationPreferences.get? user with
    | none =>
      rw [Store.preference_of_none hget]
      rfl
    | some p =>
      rw [Store.preference_of_get? hget, Option.map_some, if_neg (Ne.symm huser)]
      rfl

/-- **One commit.**  It shows its user what it names if and only if it finds right what it leaves
out; to the others it changes nothing. -/
theorem preference_commit (ht : StandingPreference t s)
    (hcommit : commitPreferences s t.plan = .ok s') :
    (∀ user field, s'.preference user field =
      if t.request.call.user = user then
        (t.request.payload.get field).getD (s.preference user field)
      else s.preference user field) ↔
    ∀ loaded field value,
      t.seen.notificationPreferences.get? t.request.call.user = some loaded →
      t.request.payload.get field = some value → loaded.get field = value →
      s.preference t.request.call.user field = value := by
  obtain ⟨s₀, ⟨hplan, rfl⟩, hkeep⟩ := ht
  obtain ⟨⟨c, payload⟩, seen, plan⟩ := t
  dsimp only at hplan hkeep hcommit ⊢
  rw [hplan, checkPreferences] at hcommit
  cases hseen : seen.notificationPreferences.get? c.user with
  | none =>
    -- A new row has every column that the request names.
    rw [hseen] at hcommit
    exact iff_of_true (preference_insert hcommit) (fun _ _ _ => nofun)
  | some loaded =>
    -- A column is left out of the UPDATE if it has the wanted value in the row that was loaded.
    rw [hseen] at hcommit
    have hrow : c.user ∈ s.notificationPreferences.keys :=
      hkeep c.user (Table.mem_keys.mpr ⟨loaded, Table.get?_eq_some.mp hseen⟩)
    have hshown := preference_update hrow hcommit
    constructor
    · rintro h loaded' field value hloaded hvalue hsame
      obtain rfl := Option.some.inj hloaded
      have hboth := (hshown c.user field).symm.trans (h c.user field)
      rw [if_pos rfl, if_pos rfl, payload.get_patch, hvalue] at hboth
      exact dirty_getD_iff.mp hboth hsame
    · intro h user field
      rw [hshown user field]
      split
      next huser =>
        subst huser
        rw [payload.get_patch]
        cases hvalue : payload.get field with
        | none => rfl
        | some value => exact dirty_getD_iff.mpr (h loaded field value rfl hvalue)
      · rfl

/-- **One move.** -/
theorem preferencesCurrent_step {s₀ : Store}
    (hstanding : preferenceUpdates.AllStanding KeepsPreferences k) (hcurrent : PreferencesCurrent s₀ k)
    (hstep : preferenceUpdates.Step k m k') :
    PreferencesCurrent s₀ k' ↔ FindsPreference k m := by
  cases hstep with
  | read hread =>
    obtain ⟨-, rfl⟩ := hread
    exact iff_of_true hcurrent fun _ _ _ _ => nofun
  | abort => exact iff_of_true hcurrent fun _ _ _ _ => nofun
  | @commit x y q₁ q₂ l t hcommit =>
    have hasked : PreferencesCurrent s₀ ⟨y, q₁ ++ q₂, t :: l⟩ ↔
        ∀ user field, y.preference user field =
          if t.request.call.user = user then
            (t.request.payload.get field).getD (x.preference user field)
          else x.preference user field := by
      refine forall_congr' fun user => forall_congr' fun field => ?_
      have hbefore : x.preference user field = asked s₀ user field l := hcurrent user field
      rw [hbefore]
      rfl
    rw [hasked, preference_commit hstanding.inFlight hcommit]
    constructor
    · rintro h _ loaded field value ⟨⟩
      exact h loaded field value
    · exact fun h loaded field value => h t loaded field value rfl

/-- **Preferences under concurrency.**  Let updates interleave from any store.  At every moment
everybody is shown, field by field, the value of the latest committed update that names it, if and
only if each committing update finds, where it leaves out a value because the row it had loaded
held it, that the value is still shown. -/
theorem preferences_current_iff {s : Store} {k : PreferenceConfig} {ms : List PreferenceMove} :
    Run (Keeping (PreferencesCurrent s) preferenceUpdates.Step) (.start s) ms k ↔
      Run (Guarded FindsPreference preferenceUpdates.Step) (.start s) ms k :=
  Run.keeping_iff_guarded_of (fun _ _ _ => preferencesCurrent_step)
    (fun _ _ _ => standingPreference_step) (Protocol.allStanding_start s) fun _ _ => rfl

end Coworking
