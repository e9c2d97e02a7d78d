import Coworking.Core.Runtime
import Coworking.Schemas
import Coworking.Services.Auth
import Coworking.Services.Errors

/-!
# Sessions and Password Resets

The rest of `auth.py`: registration, login, the rotation and revocation of refresh tokens, and
password resets.  As elsewhere, a function is split where it stops reading: a `check…` function
returns what is about to be written, a `commit…` function writes it.

A refresh token and a reset token are stored by their hash.  Whoever presents a text whose hash
is stored presents that token.

## Specifications

- `checkLogin_eq_ok`, `checkRefresh_eq_ok`, `checkLogout_eq_ok`: who gets a session, and which
  refresh tokens are accepted;
- `checkReset_eq_ok`: which reset tokens are accepted, and what a reset is going to write;
- `Turns`: what a commit does to the refresh tokens.
-/

namespace Coworking

open Foundation

/-- What sessions rely on and do not define. -/
structure SessionEnv (τ : Type) extends AuthEnv τ where
  /-- `uuid4` and `str.lower`. -/
  runtime : Runtime
  /-- `hash_token`. -/
  hashToken : String → String
  /-- `hash_password`, given the salt it draws. -/
  hashPassword : String → String → String
  /-- `verify_password`. -/
  verifyPassword : String → String → Bool
  /-- `REFRESH_TOKEN_EXPIRE_DAYS`. -/
  refreshTokenExpireDays : Int
  /-- `PASSWORD_RESET_TOKEN_EXPIRE_MINUTES`. -/
  passwordResetTokenExpireMinutes : Int
  /-- `settings.app_env == "production"`. -/
  production : Bool

/-- The circumstances of one call: what the clock reads and what `secrets` draws. -/
structure AuthCall where
  clock : Clock
  /-- `token_urlsafe`; no call draws more than one token. -/
  secret : String
  salt : String

/-- The `n`-th `datetime.now(UTC)` of the call. -/
def AuthCall.now (c : AuthCall) (n : Nat) : Instant := c.clock.reading n

theorem AuthCall.now_mono (c : AuthCall) {m n : Nat} (h : m ≤ n) : c.now m ≤ c.now n :=
  c.clock.mono h

variable {τ : Type}

/-- `str.lower` of a text. -/
def SessionEnv.lower (env : SessionEnv τ) (text : String) : String :=
  String.ofList (env.runtime.lower text.toList)

/-! ## §1 Responses -/

structure UserPublic where
  id : Uuid
  email : String
  name : String
  deriving DecidableEq

/-- `UserPublic.model_validate(user)`. -/
def Account.toPublic (user : Account) : UserPublic := ⟨user.id, user.email, user.name⟩

structure LoginResponse (τ : Type) where
  accessToken : τ
  refreshToken : String
  user : UserPublic
  deriving DecidableEq

structure ForgotPasswordResponse where
  message : String
  resetToken : Option String
  deriving DecidableEq

/-! ## §2 Writes -/

/-- `INSERT INTO users` of a row whose id and address are not in use. -/
def AuthStore.addUser (s : AuthStore) (user : Account) (hid : Keyed.key user ∉ s.users.keys)
    (hemail : user.email ∉ s.users.rows.map fun user => user.email) : AuthStore :=
  { s with
    users := s.users.insert user hid
    emailsNodup := by
      rw [Table.insert, List.map_append, List.map_singleton, List.nodup_append]
      refine ⟨s.emailsNodup, List.nodup_singleton _, fun a ha b hb hab => ?_⟩
      rw [List.mem_singleton] at hb
      subst hab hb
      exact hemail ha }

/-- `user.password_hash = password_hash`. -/
def Account.setPassword (passwordHash : String) (user : Account) : Account :=
  { user with passwordHash }

theorem Account.setPassword_key (passwordHash : String) (user : Account) :
    Keyed.key (user.setPassword passwordHash) = Keyed.key user := rfl

theorem Account.setPassword_email (passwordHash : String) (user : Account) :
    (user.setPassword passwordHash).email = user.email := rfl

/-- `UPDATE users SET password_hash`. -/
def AuthStore.setPassword (s : AuthStore) (userId : Uuid) (passwordHash : String) : AuthStore :=
  { s with
    users := s.users.modify userId (Account.setPassword passwordHash)
      (Account.setPassword_key passwordHash)
    emailsNodup := by
      rw [Table.map_modify (Account.setPassword_email passwordHash)]
      exact s.emailsNodup }

/-- `INSERT INTO refresh_tokens`; `token_hash` is unique. -/
def AuthStore.addRefreshToken (s : AuthStore) (row : RefreshToken) : Except AuthError AuthStore :=
  if h : Keyed.key row ∈ s.refreshTokens.keys then .error .integrity
  else .ok { s with refreshTokens := s.refreshTokens.insert row h }

/-- `revoked_at = now`, for the rows with the given hashes. -/
def RefreshToken.revoke (hashes : List String) (now : Instant) (row : RefreshToken) :
    RefreshToken :=
  if row.tokenHash ∈ hashes then { row with revokedAt := some now } else row

theorem RefreshToken.revoke_key (hashes : List String) (now : Instant) (row : RefreshToken) :
    Keyed.key (row.revoke hashes now) = Keyed.key row := by
  unfold RefreshToken.revoke
  split
  · rfl
  · rfl

/-- `UPDATE refresh_tokens SET revoked_at` of the rows with the given hashes. -/
def AuthStore.revokeRefreshTokens (s : AuthStore) (hashes : List String) (now : Instant) :
    AuthStore :=
  { s with
    refreshTokens :=
      s.refreshTokens.mapRows (RefreshToken.revoke hashes now)
        (RefreshToken.revoke_key hashes now) }

theorem AuthStore.addRefreshToken_eq_ok {s s' : AuthStore} {row : RefreshToken} :
    s.addRefreshToken row = .ok s' ↔ ∃ h : Keyed.key row ∉ s.refreshTokens.keys,
      s' = { s with refreshTokens := s.refreshTokens.insert row h } := by
  unfold AuthStore.addRefreshToken
  split
  · simp [*]
  · simp [*, eq_comm]

/-- `INSERT INTO password_reset_tokens`; `token_hash` is unique. -/
def AuthStore.addResetToken (s : AuthStore) (row : PasswordResetToken) :
    Except AuthError AuthStore :=
  if h : Keyed.key row ∈ s.passwordResetTokens.keys then .error .integrity
  else .ok { s with passwordResetTokens := s.passwordResetTokens.insert row h }

theorem AuthStore.addResetToken_eq_ok {s s' : AuthStore} {row : PasswordResetToken} :
    s.addResetToken row = .ok s' ↔ ∃ h : Keyed.key row ∉ s.passwordResetTokens.keys,
      s' = { s with passwordResetTokens := s.passwordResetTokens.insert row h } := by
  unfold AuthStore.addResetToken
  split
  · simp [*]
  · simp [*, eq_comm]

/-- `used_at = now`. -/
def PasswordResetToken.use (now : Instant) (row : PasswordResetToken) : PasswordResetToken :=
  { row with usedAt := some now }

theorem PasswordResetToken.use_key (now : Instant) (row : PasswordResetToken) :
    Keyed.key (row.use now) = Keyed.key row := rfl

/-- `UPDATE password_reset_tokens SET used_at`. -/
def AuthStore.useResetToken (s : AuthStore) (tokenHash : String) (now : Instant) : AuthStore :=
  { s with
    passwordResetTokens := s.passwordResetTokens.modify tokenHash (PasswordResetToken.use now)
      (PasswordResetToken.use_key now) }

/-- `create_notification_record` on the channel EMAIL. -/
def AuthStore.addNotification (now : Instant) (s : AuthStore) (userId : Uuid)
    (templateCode : String) (payload : List (String × PayloadValue)) : AuthStore :=
  { s with
    notifications := s.notifications ++
      [{ userId
         channel := .email
         templateCode
         payload
         status := .sent
         scheduledAt := now
         sentAt := some now
         createdAt := now }] }

/-! ## §3 Registration -/

/-- `register_user`. -/
def registerUser (env : SessionEnv τ) (c : AuthCall) (s : AuthStore) (payload : RegisterRequest) :
    Except AuthError (AuthStore × UserPublic) := do
  let email := env.lower payload.email
  let passwordHash := env.hashPassword c.salt payload.password
  raiseIf (!fitsVarchar 255 email || !fitsVarchar 255 passwordHash ||
    !fitsVarchar 255 payload.name || !payload.phone.all (fitsVarchar 32)) .data
  let user : Account :=
    { id := env.runtime.fresh s.users
      email
      status := .active
      passwordHash
      name := payload.name
      phone := payload.phone }
  -- The unique index rejects the row when it is flushed, before the `try` of the commit.
  if hemail : email ∈ s.users.rows.map fun user => user.email then throw .integrity
  else
    let s := s.addUser user (env.runtime.fresh_notMem s.users) hemail
    match s.roles.rows.find? (·.code = "client") with
    | some role =>
      let assignment : UserRoleAssignment :=
        ⟨env.runtime.fresh s.userRoleAssignments, user.id, role.id, none⟩
      pure ({ s with
        userRoleAssignments := s.userRoleAssignments.insert assignment
          (env.runtime.fresh_notMem s.userRoleAssignments) }, user.toPublic)
    | none => pure (s, user.toPublic)

/-! ## §4 Sessions -/

/-- `device_info or {"provider": "mock"}`. -/
def deviceInfoOr : Option DeviceInfo → DeviceInfo
  | some (entry :: entries) => entry :: entries
  | _ => [("provider", "mock")]

/-- `_issue_session_tokens`: the response it is for and the row it adds.  The access token and
the row read the clock one after the other, from the `n`-th reading on. -/
def issueSession (env : SessionEnv τ) (c : AuthCall) (n : Nat) (s : AuthStore) (user : Account)
    (deviceInfo : Option DeviceInfo) : LoginResponse τ × RefreshToken :=
  ({ accessToken := issueSessionTokens env.toAuthEnv (c.now n) s.accounts user.toUser
     refreshToken := c.secret
     user := user.toPublic },
   { tokenHash := env.hashToken c.secret
     userId := user.id
     expiresAt := c.now (n + 1) + days env.refreshTokenExpireDays
     revokedAt := none
     deviceInfo := some (deviceInfoOr deviceInfo) })

/-- `login_user` up to its commit. -/
def checkLogin (env : SessionEnv τ) (c : AuthCall) (s : AuthStore) (payload : LoginRequest) :
    Except AuthError (LoginResponse τ × RefreshToken) := do
  let user ← found ((s.userByEmail? (env.lower payload.email)).filter fun user =>
    env.verifyPassword payload.password user.passwordHash)
    (.credentials "Invalid email or password.")
  raiseIf (user.status ≠ .active) (.forbidden "User is not active.")
  pure (issueSession env c 0 s user none)

/-- `login_user`. -/
def loginUser (env : SessionEnv τ) (c : AuthCall) (s : AuthStore) (payload : LoginRequest) :
    Except AuthError (AuthStore × LoginResponse τ) := do
  let issued ← checkLogin env c s payload
  let s' ← s.addRefreshToken issued.2
  pure (s', issued.1)

/-- What `refresh_user_session` is about to write. -/
inductive RefreshDraft (τ : Type)
  /-- The token has expired: it is revoked, and the call raises all the same. -/
  | expired (tokenHash : String) (now : Instant)
  /-- The token is revoked and another one takes its place. -/
  | rotate (tokenHash : String) (now : Instant) (response : LoginResponse τ) (row : RefreshToken)

/-- `refresh_user_session` up to its writes. -/
def checkRefresh (env : SessionEnv τ) (c : AuthCall) (s : AuthStore) (refreshToken : String) :
    Except AuthError (RefreshDraft τ) := do
  let now := c.now 0
  let record ← found (s.liveRefreshToken? (env.hashToken refreshToken))
    (.token "Invalid refresh token.")
  if record.expiresAt ≤ now then pure (.expired record.tokenHash now)
  else do
    let user ← found (s.users.get? record.userId) (.token "Invalid refresh token.")
    raiseIf (user.status ≠ .active) (.forbidden "User is not active.")
    let issued := issueSession env c 1 s user record.deviceInfo
    pure (.rotate record.tokenHash now issued.1 issued.2)

/-- The flush and commit of `refresh_user_session`. -/
def commitRefresh (s : AuthStore) : RefreshDraft τ → Except AuthError AuthStore
  | .expired tokenHash now => .ok (s.revokeRefreshTokens [tokenHash] now)
  | .rotate tokenHash now _ row => (s.revokeRefreshTokens [tokenHash] now).addRefreshToken row

/-- What `refresh_user_session` answers after its commit. -/
def RefreshDraft.answer : RefreshDraft τ → Except AuthError (LoginResponse τ)
  | .expired _ _ => .error (.token "Refresh token has expired.")
  | .rotate _ _ response _ => .ok response

/-- `refresh_user_session`: the store it leaves, also when it raises, and its answer. -/
def refreshUserSession (env : SessionEnv τ) (c : AuthCall) (s : AuthStore)
    (refreshToken : String) : AuthStore × Except AuthError (LoginResponse τ) :=
  match checkRefresh env c s refreshToken with
  | .error e => (s, .error e)
  | .ok draft =>
    match commitRefresh s draft with
    | .error e => (s, .error e)
    | .ok s' => (s', draft.answer)

/-- `logout_user_session` up to its write: the row to revoke. -/
def checkLogout (env : SessionEnv τ) (c : AuthCall) (s : AuthStore) (refreshToken : String) :
    Except AuthError RefreshToken :=
  found ((s.liveRefreshToken? (env.hashToken refreshToken)).filter (c.now 0 < ·.expiresAt))
    (.token "Invalid refresh token.")

/-- `logout_user_session`. -/
def logoutUserSession (env : SessionEnv τ) (c : AuthCall) (s : AuthStore) (refreshToken : String) :
    Except AuthError AuthStore := do
  let record ← checkLogout env c s refreshToken
  pure (s.revokeRefreshTokens [record.tokenHash] (c.now 0))

/-! ## §5 Password resets -/

/-- The row `request_password_reset` adds. -/
def issueResetToken (env : SessionEnv τ) (c : AuthCall) (user : Account) : PasswordResetToken where
  tokenHash := env.hashToken c.secret
  userId := user.id
  expiresAt := c.now 0 + minutes env.passwordResetTokenExpireMinutes
  usedAt := none

/-- `request_password_reset`. -/
def requestPasswordReset (env : SessionEnv τ) (c : AuthCall) (s : AuthStore) (email : String) :
    Except AuthError (AuthStore × ForgotPasswordResponse) :=
  let message := "If the account exists, password reset instructions were created."
  match (s.userByEmail? (env.lower email)).filter (·.status = .active) with
  | none => pure (s, ⟨message, none⟩)
  | some user => do
    let s' ← s.addResetToken (issueResetToken env c user)
    pure (s'.addNotification (c.now 1) user.id "password_reset_requested"
      [("email", .text user.email)], ⟨message, if env.production then none else some c.secret⟩)

/-- What `reset_password` is about to write. -/
structure ResetDraft where
  tokenHash : String
  now : Instant
  userId : Uuid
  email : String
  passwordHash : String
  /-- The hashes of the refresh tokens it has loaded. -/
  sessions : List String
  deriving DecidableEq

/-- `reset_password` up to its commit. -/
def checkReset (env : SessionEnv τ) (c : AuthCall) (s : AuthStore)
    (payload : ResetPasswordRequest) : Except AuthError ResetDraft := do
  let resetToken ← found ((s.unusedResetToken? (env.hashToken payload.token)).filter
    (c.now 0 < ·.expiresAt)) (.token "Invalid or expired reset token.")
  let user ← found ((s.users.get? resetToken.userId).filter (·.status = .active))
    (.forbidden "User is not active.")
  pure
    { tokenHash := resetToken.tokenHash
      now := c.now 0
      userId := user.id
      email := user.email
      passwordHash := env.hashPassword c.salt payload.newPassword
      sessions := s.sessionsOf user.id }

/-- The flush and commit of `reset_password`. -/
def commitReset (later : Instant) (s : AuthStore) (d : ResetDraft) : AuthStore :=
  (((s.setPassword d.userId d.passwordHash).useResetToken d.tokenHash d.now).revokeRefreshTokens
    d.sessions d.now).addNotification later d.userId "password_reset_completed"
      [("email", .text d.email)]

/-- `reset_password`. -/
def resetPassword (env : SessionEnv τ) (c : AuthCall) (s : AuthStore)
    (payload : ResetPasswordRequest) : Except AuthError AuthStore := do
  let draft ← checkReset env c s payload
  pure (commitReset (c.now 1) s draft)

/-! ## §6 Which tokens are accepted -/

variable {env : SessionEnv τ} {c : AuthCall} {s s' : AuthStore}

/-- **Specification of `login_user`'s checks.** -/
theorem checkLogin_eq_ok {payload : LoginRequest} {issued : LoginResponse τ × RefreshToken} :
    checkLogin env c s payload = .ok issued ↔
      ∃ user, s.userByEmail? (env.lower payload.email) = some user ∧
        env.verifyPassword payload.password user.passwordHash = true ∧ user.status = .active ∧
        issued = issueSession env c 0 s user none := by
  simp only [checkLogin, bind_eq_ok, found_eq_ok, raiseIf_eq_ok, pure_eq_ok,
    Option.filter_eq_some_iff]
  constructor
  · rintro ⟨user, ⟨huser, hpassword⟩, -, hactive, rfl⟩
    exact ⟨user, huser, hpassword, not_not.mp hactive, rfl⟩
  · rintro ⟨user, huser, hpassword, hactive, rfl⟩
    exact ⟨user, ⟨huser, hpassword⟩, (), not_not.mpr hactive, rfl⟩

/-- What a registration leaves alone. -/
theorem registerUser_eq_ok {payload : RegisterRequest} {r : AuthStore × UserPublic}
    (h : registerUser env c s payload = .ok r) :
    ∃ user hid hemail assignments,
      r.1 = { s.addUser user hid hemail with userRoleAssignments := assignments } := by
  simp only [registerUser, bind_eq_ok, raiseIf_eq_ok] at h
  obtain ⟨-, -, h⟩ := h
  split at h
  · cases h
  · rename_i hemail
    split at h
    · obtain rfl := (pure_eq_ok _ _).mp h
      exact ⟨_, env.runtime.fresh_notMem s.users, hemail, _, rfl⟩
    · obtain rfl := (pure_eq_ok _ _).mp h
      exact ⟨_, env.runtime.fresh_notMem s.users, hemail, _, rfl⟩

/-- **Specification of `refresh_user_session`'s checks.** -/
theorem checkRefresh_eq_ok {refreshToken : String} {d : RefreshDraft τ} :
    checkRefresh env c s refreshToken = .ok d ↔
      ∃ record, s.liveRefreshToken? (env.hashToken refreshToken) = some record ∧
        (record.expiresAt ≤ c.now 0 ∧ d = .expired (env.hashToken refreshToken) (c.now 0) ∨
          c.now 0 < record.expiresAt ∧ ∃ user, s.users.get? record.userId = some user ∧
            user.status = .active ∧
            d = .rotate (env.hashToken refreshToken) (c.now 0)
              (issueSession env c 1 s user record.deviceInfo).1
              (issueSession env c 1 s user record.deviceInfo).2) := by
  simp only [checkRefresh, bind_eq_ok, found_eq_ok]
  refine exists_congr fun record => and_congr_right fun hrecord => ?_
  have hkey : record.tokenHash = env.hashToken refreshToken :=
    Table.key_of_get? (AuthStore.liveRefreshToken?_eq_some.mp hrecord).1
  rw [hkey]
  by_cases hexp : record.expiresAt ≤ c.now 0
  · rw [if_pos hexp, pure_eq_ok]
    constructor
    · rintro rfl
      exact .inl ⟨hexp, rfl⟩
    · rintro (⟨-, rfl⟩ | ⟨hlate, -⟩)
      · rfl
      · exact absurd hexp (not_le.mpr hlate)
  · -- An expired token is revoked whoever it belongs to; this one needs an active user.
    rw [if_neg hexp]
    simp only [bind_eq_ok, found_eq_ok, raiseIf_eq_ok, pure_eq_ok, not_not]
    constructor
    · rintro ⟨user, huser, -, hactive, rfl⟩
      exact .inr ⟨not_le.mp hexp, user, huser, hactive, rfl⟩
    · rintro (⟨hearly, -⟩ | ⟨-, user, huser, hactive, rfl⟩)
      · exact absurd hearly hexp
      · exact ⟨user, huser, (), hactive, rfl⟩

/-- A refresh that rotates has found the row of the token it was given unrevoked. -/
theorem checkRefresh_rotates {refreshToken tokenHash : String} {now : Instant}
    {response : LoginResponse τ} {row : RefreshToken}
    (h : checkRefresh env c s refreshToken = .ok (.rotate tokenHash now response row)) :
    ∃ record user, s.refreshTokens.get? (env.hashToken refreshToken) = some record ∧
      record.revokedAt = none ∧ c.now 0 < record.expiresAt ∧
      s.users.get? record.userId = some user ∧ tokenHash = env.hashToken refreshToken ∧
      now = c.now 0 ∧ response = (issueSession env c 1 s user record.deviceInfo).1 ∧
      row = (issueSession env c 1 s user record.deviceInfo).2 := by
  obtain ⟨record, hrecord, ⟨-, hd⟩ | ⟨hexp, user, huser, -, hd⟩⟩ := checkRefresh_eq_ok.mp h
  · cases hd
  · obtain ⟨hget, hlive⟩ := AuthStore.liveRefreshToken?_eq_some.mp hrecord
    obtain ⟨hhash, hnow, hresponse, hrow⟩ := RefreshDraft.rotate.inj hd
    exact ⟨record, user, hget, hlive, hexp, huser, hhash, hnow, hresponse, hrow⟩

/-- **Specification of `logout_user_session`'s checks.** -/
theorem checkLogout_eq_ok {refreshToken : String} {record : RefreshToken} :
    checkLogout env c s refreshToken = .ok record ↔
      s.liveRefreshToken? (env.hashToken refreshToken) = some record ∧
        c.now 0 < record.expiresAt := by
  simp [checkLogout, found_eq_ok, Option.filter_eq_some_iff]

/-- **Specification of `request_password_reset`.**  It adds a row for an active user, or nothing. -/
theorem requestPasswordReset_eq_ok {email : String} {r : AuthStore × ForgotPasswordResponse}
    (h : requestPasswordReset env c s email = .ok r) :
    r.1 = s ∨ ∃ user, user ∈ s.users ∧ user.status = .active ∧
      ∃ hnew : Keyed.key (issueResetToken env c user) ∉ s.passwordResetTokens.keys,
        r.1 = AuthStore.addNotification (c.now 1)
          { s with passwordResetTokens := s.passwordResetTokens.insert _ hnew } user.id
          "password_reset_requested" [("email", .text user.email)] := by
  unfold requestPasswordReset at h
  dsimp only at h
  split at h
  · obtain rfl := (pure_eq_ok _ _).mp h
    exact .inl rfl
  · rename_i user hfound
    obtain ⟨huser, hactive⟩ := Option.filter_eq_some_iff.mp hfound
    obtain ⟨s', hadd, hr⟩ := (bind_eq_ok _ _ _).mp h
    obtain rfl := (pure_eq_ok _ _).mp hr
    obtain ⟨hnew, rfl⟩ := AuthStore.addResetToken_eq_ok.mp hadd
    exact .inr ⟨user, List.mem_of_find?_eq_some huser, of_decide_eq_true hactive, hnew, rfl⟩

/-- **Specification of `reset_password`'s checks.** -/
theorem checkReset_eq_ok {payload : ResetPasswordRequest} {d : ResetDraft} :
    checkReset env c s payload = .ok d ↔
      ∃ resetToken user, s.unusedResetToken? (env.hashToken payload.token) = some resetToken ∧
        c.now 0 < resetToken.expiresAt ∧ s.users.get? resetToken.userId = some user ∧
        user.status = .active ∧
        d = { tokenHash := env.hashToken payload.token
              now := c.now 0
              userId := resetToken.userId
              email := user.email
              passwordHash := env.hashPassword c.salt payload.newPassword
              sessions := s.sessionsOf resetToken.userId } := by
  simp only [checkReset, bind_eq_ok, found_eq_ok, pure_eq_ok, Option.filter_eq_some_iff,
    decide_eq_true_eq]
  refine exists_congr fun resetToken => ?_
  constructor
  · rintro ⟨⟨htoken, hexp⟩, user, ⟨huser, hactive⟩, rfl⟩
    have hkey : resetToken.tokenHash = env.hashToken payload.token :=
      Table.key_of_get? (AuthStore.unusedResetToken?_eq_some.mp htoken).1
    have hid : user.id = resetToken.userId := Table.key_of_get? huser
    rw [hkey, hid]
    exact ⟨user, htoken, hexp, huser, hactive, rfl⟩
  · rintro ⟨user, htoken, hexp, huser, hactive, rfl⟩
    have hkey : resetToken.tokenHash = env.hashToken payload.token :=
      Table.key_of_get? (AuthStore.unusedResetToken?_eq_some.mp htoken).1
    have hid : user.id = resetToken.userId := Table.key_of_get? huser
    refine ⟨⟨htoken, hexp⟩, user, ⟨huser, hactive⟩, ?_⟩
    rw [hkey, hid]

/-- A reset has found the row of the token it was given unused and in time. -/
theorem checkReset_row {payload : ResetPasswordRequest} {d : ResetDraft}
    (h : checkReset env c s payload = .ok d) :
    ∃ resetToken, s.passwordResetTokens.get? (env.hashToken payload.token) = some resetToken ∧
      resetToken.usedAt = none ∧ c.now 0 < resetToken.expiresAt ∧
      d.tokenHash = env.hashToken payload.token ∧ d.now = c.now 0 ∧
      d.userId = resetToken.userId ∧ d.sessions = s.sessionsOf resetToken.userId := by
  obtain ⟨resetToken, user, htoken, hexp, -, -, rfl⟩ := checkReset_eq_ok.mp h
  obtain ⟨hget, hunused⟩ := AuthStore.unusedResetToken?_eq_some.mp htoken
  exact ⟨resetToken, hget, hunused, hexp, rfl, rfl, rfl, rfl⟩

/-- One reset token after a reset. -/
theorem get?_commitReset (later : Instant) (s : AuthStore) (d : ResetDraft) (k : String) :
    (commitReset later s d).passwordResetTokens.get? k =
      (s.passwordResetTokens.get? k).map fun row =>
        if k = d.tokenHash then row.use d.now else row := by
  have hmodify : (commitReset later s d).passwordResetTokens =
      s.passwordResetTokens.modify d.tokenHash (PasswordResetToken.use d.now)
        (PasswordResetToken.use_key d.now) := rfl
  rw [hmodify, Table.get?_modify]

/-! ## §7 What a commit does to the refresh tokens -/

/-- The rows under the given hashes got a `revoked_at`, and one row, if any, was added. -/
structure Turns (t : Table RefreshToken) (revoked : List String) (now : Instant)
    (added : Option RefreshToken) (t' : Table RefreshToken) : Prop where
  fresh : ∀ row, added = some row → row.tokenHash ∉ t.keys
  inserted : ∀ row, added = some row → t'.get? row.tokenHash = some row
  others : ∀ k, (∀ row, added = some row → row.tokenHash ≠ k) →
    t'.get? k = (t.get? k).map (RefreshToken.revoke revoked now)

variable {t t' : Table RefreshToken} {revoked : List String} {now : Instant}
  {added : Option RefreshToken} {row : RefreshToken} {k : String}

theorem RefreshToken.revoke_nil (now : Instant) (row : RefreshToken) : row.revoke [] now = row := by
  simp [RefreshToken.revoke]

theorem RefreshToken.revoke_userId (revoked : List String) (now : Instant) (row : RefreshToken) :
    (row.revoke revoked now).userId = row.userId := by
  unfold RefreshToken.revoke
  split
  · rfl
  · rfl

/-- What is unrevoked after a revocation is not among the revoked. -/
theorem RefreshToken.revoke_eq_none (h : (row.revoke revoked now).revokedAt = none) :
    row.revoke revoked now = row ∧ row.tokenHash ∉ revoked := by
  unfold RefreshToken.revoke at h ⊢
  by_cases hmem : row.tokenHash ∈ revoked
  · rw [if_pos hmem] at h
    cases h
  · rw [if_neg hmem]
    exact ⟨rfl, hmem⟩

theorem Turns.refl (t : Table RefreshToken) (now : Instant) : Turns t [] now none t where
  fresh := fun _ => nofun
  inserted := fun _ => nofun
  others := fun k _ => by
    have hid : RefreshToken.revoke [] now = id := funext (RefreshToken.revoke_nil now)
    rw [hid, Option.map_id, id]

theorem turns_revokeRefreshTokens (s : AuthStore) (hashes : List String) (now : Instant) :
    Turns s.refreshTokens hashes now none (s.revokeRefreshTokens hashes now).refreshTokens where
  fresh := fun _ => nofun
  inserted := fun _ => nofun
  others := by
    intro k _
    rw [AuthStore.revokeRefreshTokens, Table.get?_mapRows]

theorem turns_commitReset (later : Instant) (s : AuthStore) (d : ResetDraft) :
    Turns s.refreshTokens d.sessions d.now none (commitReset later s d).refreshTokens :=
  turns_revokeRefreshTokens s d.sessions d.now

/-- A row that is added after a revocation. -/
theorem Turns.add (h : Turns t revoked now none s.refreshTokens)
    (hadd : s.addRefreshToken row = .ok s') : Turns t revoked now (some row) s'.refreshTokens := by
  obtain ⟨hnew, rfl⟩ := AuthStore.addRefreshToken_eq_ok.mp hadd
  refine ⟨?_, ?_, fun k hk => ?_⟩
  · -- Revoking keeps the keys.
    rintro _ ⟨⟩
    have hnone : s.refreshTokens.get? row.tokenHash = none := Table.get?_eq_none.mpr hnew
    rw [h.others _ (fun _ => nofun), Option.map_eq_none_iff] at hnone
    exact Table.get?_eq_none.mp hnone
  · rintro _ ⟨⟩
    have hkey : Keyed.key row = row.tokenHash := rfl
    rw [Table.get?_insert, if_pos hkey]
  · have hne : Keyed.key row ≠ k := hk row rfl
    rw [Table.get?_insert, if_neg hne, h.others k (fun _ => nofun)]

/-- A row that was there is still there, and revoked if it is among the revoked. -/
theorem Turns.get?_of_some (h : Turns t revoked now added t') (hget : t.get? k = some row) :
    t'.get? k = some (row.revoke revoked now) := by
  rw [h.others k, hget, Option.map_some]
  rintro new hnew rfl
  exact h.fresh new hnew (Table.mem_keys.mpr ⟨row, Table.get?_eq_some.mp hget⟩)

/-- **An unrevoked row** was added or was there, and then is not among the revoked. -/
theorem Turns.unrevoked (h : Turns t revoked now added t') (hget : t'.get? k = some row)
    (hlive : row.revokedAt = none) : added = some row ∨ t.get? k = some row ∧ k ∉ revoked := by
  by_cases hk : ∃ new, added = some new ∧ new.tokenHash = k
  · obtain ⟨new, hnew, rfl⟩ := hk
    rw [h.inserted new hnew] at hget
    exact .inl (hnew.trans hget)
  · refine .inr ?_
    rw [h.others k fun new hnew he => hk ⟨new, hnew, he⟩, Option.map_eq_some_iff] at hget
    obtain ⟨old, hold, rfl⟩ := hget
    obtain ⟨hsame, hnot⟩ := RefreshToken.revoke_eq_none hlive
    have hkey : old.tokenHash = k := Table.key_of_get? hold
    rw [hsame]
    exact ⟨hold, hkey ▸ hnot⟩

end Coworking
