import Coworking.Db.Models

/-!
# Users and Roles

The tables behind authentication.  `User` and `Accounts` are what permissions are decided on;
`Account` and `AuthStore` add what sessions and password resets read and write.  The rows of
invites and audit logs are left out.

`refresh_tokens.token_hash` and `password_reset_tokens.token_hash` are unique, and no function
reads a row of theirs by another key.
-/

namespace Coworking

open Foundation

structure User where
  id : Uuid
  email : String
  status : UserStatus
  deriving DecidableEq

structure Role where
  id : Uuid
  code : String
  deriving DecidableEq

/-- A role of a user: in one venue, or globally when there is none. -/
structure UserRoleAssignment where
  id : Uuid
  userId : Uuid
  roleId : Uuid
  venueId : Option Uuid
  deriving DecidableEq

instance : Keyed User Uuid := ⟨User.id⟩
instance : Keyed Role Uuid := ⟨Role.id⟩
instance : Keyed UserRoleAssignment Uuid := ⟨UserRoleAssignment.id⟩

/-- The committed rows of the access tables. -/
structure Accounts where
  users : Table User
  roles : Table Role
  userRoleAssignments : Table UserRoleAssignment

/-! ## Sessions -/

/-- A row of `users` with its credentials and profile. -/
structure Account extends User where
  passwordHash : String
  name : String
  phone : Option String
  deriving DecidableEq

/-- A JSON object with texts. -/
abbrev DeviceInfo := List (String × String)

structure RefreshToken where
  tokenHash : String
  userId : Uuid
  expiresAt : Instant
  revokedAt : Option Instant
  deviceInfo : Option DeviceInfo
  deriving DecidableEq

structure PasswordResetToken where
  tokenHash : String
  userId : Uuid
  expiresAt : Instant
  usedAt : Option Instant
  deriving DecidableEq

instance : Keyed Account Uuid := ⟨fun user => user.id⟩
instance : Keyed RefreshToken String := ⟨RefreshToken.tokenHash⟩
instance : Keyed PasswordResetToken String := ⟨PasswordResetToken.tokenHash⟩

/-- The committed rows that authentication works on. -/
structure AuthStore where
  users : Table Account
  roles : Table Role
  userRoleAssignments : Table UserRoleAssignment
  refreshTokens : Table RefreshToken
  passwordResetTokens : Table PasswordResetToken
  notifications : List Notification
  /-- `users.email` is unique. -/
  emailsNodup : (users.rows.map fun user => user.email).Nodup

/-- The part of the store that permissions are decided on. -/
def AuthStore.accounts (s : AuthStore) : Accounts where
  users := ⟨s.users.rows.map (·.toUser), by
    rw [List.map_map]
    exact s.users.keysNodup⟩
  roles := s.roles
  userRoleAssignments := s.userRoleAssignments

/-- `select(User).where(User.email == email)`. -/
def AuthStore.userByEmail? (s : AuthStore) (email : String) : Option Account :=
  s.users.rows.find? (·.email = email)

/-- `select(RefreshToken)` by its hash, unless it is revoked. -/
def AuthStore.liveRefreshToken? (s : AuthStore) (tokenHash : String) : Option RefreshToken :=
  (s.refreshTokens.get? tokenHash).filter (·.revokedAt = none)

/-- `select(PasswordResetToken)` by its hash, unless it is used. -/
def AuthStore.unusedResetToken? (s : AuthStore) (tokenHash : String) : Option PasswordResetToken :=
  (s.passwordResetTokens.get? tokenHash).filter (·.usedAt = none)

theorem AuthStore.liveRefreshToken?_eq_some {s : AuthStore} {tokenHash : String}
    {record : RefreshToken} :
    s.liveRefreshToken? tokenHash = some record ↔
      s.refreshTokens.get? tokenHash = some record ∧ record.revokedAt = none := by
  simp [AuthStore.liveRefreshToken?, Option.filter_eq_some_iff]

theorem AuthStore.unusedResetToken?_eq_some {s : AuthStore} {tokenHash : String}
    {record : PasswordResetToken} :
    s.unusedResetToken? tokenHash = some record ↔
      s.passwordResetTokens.get? tokenHash = some record ∧ record.usedAt = none := by
  simp [AuthStore.unusedResetToken?, Option.filter_eq_some_iff]

/-- `select(RefreshToken)` of a user's unrevoked rows: their hashes. -/
def AuthStore.sessionsOf (s : AuthStore) (userId : Uuid) : List String :=
  (s.refreshTokens.rows.filter fun row => row.userId = userId ∧ row.revokedAt = none).map
    (·.tokenHash)

theorem AuthStore.mem_sessionsOf {s : AuthStore} {userId : Uuid} {tokenHash : String} :
    tokenHash ∈ s.sessionsOf userId ↔ ∃ row, s.refreshTokens.get? tokenHash = some row ∧
      row.userId = userId ∧ row.revokedAt = none := by
  simp only [AuthStore.sessionsOf, List.mem_map, List.mem_filter, Table.get?_eq_some,
    decide_eq_true_eq]
  constructor
  · rintro ⟨row, ⟨hrow, huser, hlive⟩, rfl⟩
    exact ⟨row, ⟨hrow, rfl⟩, huser, hlive⟩
  · rintro ⟨row, ⟨hrow, rfl⟩, huser, hlive⟩
    exact ⟨row, ⟨hrow, huser, hlive⟩, rfl⟩

end Coworking
