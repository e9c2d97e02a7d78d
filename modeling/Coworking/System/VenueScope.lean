import Coworking.Api.Dependencies
import Coworking.System.Operation

/-!
# Venue-Scoped Roles

A role is assigned globally or in one venue.  A token carries both kinds apart, and next to them
one list of permissions; the guard of the administrator's routes looks at the list alone.

- `adminUpdateRoomLayout`: the route;
- `letThrough_iff`: who is let through;
- `venue_scope_iff`: when that keeps a role in its venue, exactly;
- `manager_of_another_venue`: a manager on the other side of town.
-/

namespace Coworking

open Foundation

variable {τ : Type} {env : AuthEnv τ} {rt : Runtime} {clock : Clock} {a a' : Accounts} {s : Store}
  {token : τ} {roomId : Uuid} {payload : RoomLayoutUpdate}

/-! ## §1 The route -/

/-- `admin_update_room_layout`; each guard reads the clock for itself. -/
def adminUpdateRoomLayout (env : AuthEnv τ) (rt : Runtime) (clock : Clock) (a : Accounts)
    (s : Store) (token : τ) (roomId : Uuid) (payload : RoomLayoutUpdate) :
    Except HttpError Store := do
  let _ ← getCurrentUser env (clock.reading 0) a token
  let _ ← requirePermissions env (clock.reading 1) ["rooms.update"] token
  match updateRoomLayout rt s roomId payload with
  | .ok s' => pure s'
  | .error (.spaceNotFound detail) => throw (.notFound detail)
  | .error e => throw (.internal e)

/-- The request was not turned away by a guard. -/
def LetThrough (r : Except HttpError Store) : Prop := ∀ e, r = .error e → ¬ e.denies

/-- The route lets through what both guards let through. -/
theorem letThrough_iff_guards :
    LetThrough (adminUpdateRoomLayout env rt clock a s token roomId payload) ↔
      Returns (getCurrentUser env (clock.reading 0) a token) ∧
        Returns (requirePermissions env (clock.reading 1) ["rooms.update"] token) := by
  constructor
  · intro h
    cases huser : getCurrentUser env (clock.reading 0) a token with
    | error e =>
      have hroute : adminUpdateRoomLayout env rt clock a s token roomId payload = .error e := by
        rw [adminUpdateRoomLayout, huser]
        rfl
      exact (h e hroute (getCurrentUser_denies huser)).elim
    | ok user =>
      cases hperm : requirePermissions env (clock.reading 1) ["rooms.update"] token with
      | error e =>
        have hroute : adminUpdateRoomLayout env rt clock a s token roomId payload = .error e := by
          rw [adminUpdateRoomLayout, huser, hperm]
          rfl
        exact (h e hroute (requirePermissions_denies hperm)).elim
      | ok p => exact ⟨⟨user, rfl⟩, ⟨p, rfl⟩⟩
  · rintro ⟨⟨user, huser⟩, ⟨p, hperm⟩⟩ e he
    -- Whatever the service answers, it is not one of the two statuses.
    simp only [adminUpdateRoomLayout, huser, hperm, bind_eq_error, reduceCtorEq, false_or,
      Except.ok.injEq, exists_eq_left'] at he
    split at he <;> cases he <;> nofun

/-! ## §2 Who is let through -/

/-- A token issued at `issued` is good when its user makes a request at the readings of `clock`,
against the accounts `a'` of that time. -/
structure TokenAccepted (env : AuthEnv τ) (issued : Instant) (clock : Clock) (a' : Accounts)
    (user : User) : Prop where
  issuedBefore : seconds (issued / microsPerSecond) ≤ clock.reading 0
  notExpired : clock.reading 1 <
    seconds ((issued + minutes env.accessTokenExpireMinutes) / microsPerSecond)
  isEmail : env.isEmail user.email
  active : ∃ u, a'.users.get? user.id = some u ∧ u.status = .active

variable {issued : Instant} {user : User}

/-- The assignments of a user, as they were when the token was issued, grant the permission to
change the rooms of a venue. -/
abbrev Accounts.MayUpdateRooms (a : Accounts) (userId venueId : Uuid) : Prop :=
  Entitled permissionsOf (a.assigned userId) "rooms.update" venueId

/-- The permissions a token lists are those the user was granted anywhere. -/
theorem mem_issued_permissions {p : String} :
    p ∈ (getUserPermissionsContext (env.rowOrder (roleRows a user.id))).permissions ↔
      p ∈ flatten permissionsOf (a.assigned user.id) := by
  have hrows : {row | row ∈ env.rowOrder (roleRows a user.id)} = a.assigned user.id := by
    ext row
    exact ((env.rowOrder_perm _).mem_iff).trans mem_roleRows
  rw [mem_permissions, hrows]

/-- What an issued token decodes to, within its lifetime. -/
theorem decode_issued {now : Instant} {p : AccessTokenPayload} :
    decodeAccessToken env now (issueSessionTokens env issued a user) = .ok p ↔
      (seconds (issued / microsPerSecond) ≤ now ∧
        now < seconds ((issued + minutes env.accessTokenExpireMinutes) / microsPerSecond)) ∧
      env.isEmail user.email ∧
      p =
        { sub := user.id
          email := user.email
          type := "access"
          globalRoles := (getUserPermissionsContext (env.rowOrder (roleRows a user.id))).globalRoles
          venueRoles := (getUserPermissionsContext (env.rowOrder (roleRows a user.id))).venueRoles
          permissions :=
            (getUserPermissionsContext (env.rowOrder (roleRows a user.id))).permissions
          iat := issued / microsPerSecond
          exp := (issued + minutes env.accessTokenExpireMinutes) / microsPerSecond } := by
  rw [decodeAccessToken_eq_ok, issueSessionTokens, buildAccessToken, env.decode_encode]
  constructor
  · intro hok
    rcases hok with ⟨hdecode, hemail, -⟩
    split at hdecode
    next hlife =>
      obtain rfl := Option.some.inj hdecode
      exact ⟨hlife, hemail, rfl⟩
    · cases hdecode
  · intro hspec
    rcases hspec with ⟨hlife, hemail, rfl⟩
    exact ⟨if_pos hlife, hemail, rfl⟩

/-- **Who is let through.**  Whoever holds a good token and was granted the permission, be it
globally or in any venue. -/
theorem letThrough_iff :
    LetThrough (adminUpdateRoomLayout env rt clock a' s (issueSessionTokens env issued a user)
      roomId payload) ↔
      TokenAccepted env issued clock a' user ∧
        "rooms.update" ∈ flatten permissionsOf (a.assigned user.id) := by
  rw [letThrough_iff_guards]
  simp only [Returns, getCurrentUser_eq_ok, requirePermissions_eq_ok, decode_issued]
  constructor
  · intro hok
    rcases hok with ⟨⟨u, _, ⟨⟨hissued, -⟩, hemail, rfl⟩, hget, hactive⟩, _, ⟨⟨-, hexp⟩, -, rfl⟩,
      hall⟩
    refine ⟨⟨hissued, hexp, hemail, u, hget, hactive⟩, ?_⟩
    exact mem_issued_permissions.mp (hall _ List.mem_cons_self)
  · intro hspec
    rcases hspec with ⟨⟨hissued, hexp, hemail, u, hget, hactive⟩, hperm⟩
    -- The two guards read the clock one after the other.
    have hclock : clock.reading 0 ≤ clock.reading 1 := clock.mono (Nat.zero_le 1)
    refine ⟨⟨u, _, ⟨⟨hissued, hclock.trans_lt hexp⟩, hemail, rfl⟩, hget, hactive⟩,
      _, ⟨⟨hissued.trans hclock, hexp⟩, hemail, rfl⟩, fun q hq => ?_⟩
    obtain rfl := List.mem_singleton.mp hq
    exact mem_issued_permissions.mpr hperm

/-! ## §3 Scope -/

/-- **Venue scope.**  For any accounts, user, room and token issued from those accounts: that the
administrator's layout route lets the token through only to a room its user may change holds
exactly when a user with a good token who may change the rooms of another venue may change this
one's too. -/
theorem venue_scope_iff {room : Room} :
    (LetThrough (adminUpdateRoomLayout env rt clock a' s (issueSessionTokens env issued a user)
      room.id payload) → a.MayUpdateRooms user.id room.venueId) ↔
      (TokenAccepted env issued clock a' user → ∀ v, v ≠ room.venueId →
        Granted permissionsOf (a.assigned user.id) "rooms.update" (some v) →
        a.MayUpdateRooms user.id room.venueId) := by
  rw [letThrough_iff, and_imp, flatten_sound_iff]

/-- Two venues: the small one, whose manager is user 7, and another with room 6. -/
def twoVenues : Store :=
  { smallStore with
    venues := ⟨[⟨1, "Loft", "Street 1", "UTC"⟩, ⟨5, "Dock", "Quay 5", "UTC"⟩], by decide⟩
    rooms := ⟨[⟨2, 1, "Hall", true, none, none⟩, ⟨6, 5, "Deck", true, none, none⟩], by decide⟩ }

def managerAccounts : Accounts where
  users := ⟨[⟨7, "manager@example.com", .active⟩], by decide⟩
  roles := ⟨[⟨1, "manager"⟩], by decide⟩
  userRoleAssignments := ⟨[⟨1, 7, 1, some 1⟩], by decide⟩

def managerToken : AccessTokenPayload :=
  issueSessionTokens .plain 0 managerAccounts ⟨7, "manager@example.com", .active⟩

/-- Close room 6 to bookings of the whole room. -/
def closeRoom : RoomLayoutUpdate := ⟨some false, []⟩

/-- The manager of venue 1 has no say in venue 5, and changes a room there. -/
theorem manager_of_another_venue :
    LetThrough (adminUpdateRoomLayout .plain .plain (.at 0) managerAccounts twoVenues managerToken 6
      closeRoom) ∧
    ¬ managerAccounts.MayUpdateRooms 7 5 ∧
    (twoVenues.room? 6).map (fun room => (room.venueId, room.allowFullRoomBooking)) =
      some (5, true) ∧
    (adminUpdateRoomLayout .plain .plain (.at 0) managerAccounts twoVenues managerToken 6
        closeRoom).toOption.map
      (fun s' => (s'.room? 6).map fun room => (room.venueId, room.allowFullRoomBooking)) =
      some (some (5, false)) := by
  refine ⟨letThrough_iff.mpr ⟨⟨by decide, by decide, by decide, _, rfl, rfl⟩, ?_⟩, ?_, by decide,
    by decide +kernel⟩
  · exact ⟨some 1, "manager", ⟨_, List.mem_cons_self, rfl, _, rfl, rfl⟩,
      (by decide +kernel : "rooms.update" ∈ rolePermissions "manager")⟩
  · -- The only assignment is to venue 1.
    have hscope : ∀ code scope, (code, scope) ∈ managerAccounts.assigned 7 → scope = some 1 := by
      rintro code scope ⟨assignment, hmem, -, role, -, heq⟩
      obtain rfl := List.mem_singleton.mp hmem
      exact (Prod.mk.inj heq).2
    intro hspec
    rcases hspec with ⟨code, hmem, -⟩ | ⟨code, hmem, -⟩
    · exact nomatch hscope code _ hmem
    · exact absurd (hscope code _ hmem) (by decide)

end Coworking
