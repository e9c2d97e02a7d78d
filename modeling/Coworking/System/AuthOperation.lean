import Coworking.Foundation.Run
import Coworking.Services.Session

/-!
# Authentication Calls

The calls of `auth.py` that write, as one value, and the machine that executes them one after
the other.  A call that raises is rolled back, except that a refresh with an expired token
commits its revocation before it raises.

- `authExec`: the store a call leaves and what it answers;
- `AuthEffect`, `authExec_effect`: everything a call can have done;
- `AuthStep`: one atomic call under a clock that does not run backwards;
- `AuthEffect.turns`: what a call does to the refresh tokens.
-/

namespace Coworking

open Foundation

/-! ## §1 Calls -/

inductive AuthOp
  | registerUser (payload : RegisterRequest)
  | loginUser (payload : LoginRequest)
  | refreshUserSession (refreshToken : String)
  | logoutUserSession (refreshToken : String)
  | requestPasswordReset (email : String)
  | resetPassword (payload : ResetPasswordRequest)

inductive Answer (τ : Type)
  | user (user : UserPublic)
  | session (response : LoginResponse τ)
  | message (response : ForgotPasswordResponse)
  | done

variable {τ α : Type}

/-- What a call leaves and answers when an exception undoes its writes. -/
def rolledBack (s : AuthStore) : Except AuthError (AuthStore × α) →
    AuthStore × Except AuthError α
  | .ok r => (r.1, .ok r.2)
  | .error e => (s, .error e)

/-- The store a call leaves, and what it answers. -/
def authExec (env : SessionEnv τ) (c : AuthCall) (s : AuthStore) :
    AuthOp → AuthStore × Except AuthError (Answer τ)
  | .registerUser payload => rolledBack s (Prod.map id .user <$> registerUser env c s payload)
  | .loginUser payload => rolledBack s (Prod.map id .session <$> loginUser env c s payload)
  | .refreshUserSession refreshToken =>
    Prod.map id (.session <$> ·) (refreshUserSession env c s refreshToken)
  | .logoutUserSession refreshToken =>
    rolledBack s ((·, .done) <$> logoutUserSession env c s refreshToken)
  | .requestPasswordReset email =>
    rolledBack s (Prod.map id .message <$> requestPasswordReset env c s email)
  | .resetPassword payload => rolledBack s ((·, .done) <$> resetPassword env c s payload)

/-- A call: the circumstances and the operation. -/
structure AuthEvent where
  call : AuthCall
  op : AuthOp

/-- The store after a call. -/
def authStep (env : SessionEnv τ) (s : AuthStore) (e : AuthEvent) : AuthStore :=
  (authExec env e.call s e.op).1

/-- What the call answers. -/
def AuthEvent.answer (env : SessionEnv τ) (s : AuthStore) (e : AuthEvent) :
    Except AuthError (Answer τ) :=
  (authExec env e.call s e.op).2

/-- The store after a list of calls. -/
def authReplay (env : SessionEnv τ) (s : AuthStore) (es : List AuthEvent) : AuthStore :=
  es.foldl (authStep env) s

theorem authReplay_snoc (env : SessionEnv τ) (s : AuthStore) (es : List AuthEvent)
    (e : AuthEvent) : authReplay env s (es ++ [e]) = authStep env (authReplay env s es) e := by
  simp [authReplay]

/-! ## §2 What a call can do -/

variable {env : SessionEnv τ} {c : AuthCall} {s s' : AuthStore} {op : AuthOp}
  {answer : Except AuthError (Answer τ)}

/-- Everything a call can have done and answered. -/
inductive AuthEffect (env : SessionEnv τ) (c : AuthCall) (s : AuthStore) :
    AuthOp → AuthStore → Except AuthError (Answer τ) → Prop
  | failed {op : AuthOp} {e : AuthError} : AuthEffect env c s op s (.error e)
  | registered {payload : RegisterRequest} {userPublic : UserPublic} {user : Account}
      {hid : Keyed.key user ∉ s.users.keys}
      {hemail : user.email ∉ s.users.rows.map fun user => user.email}
      {assignments : Table UserRoleAssignment} :
      AuthEffect env c s (.registerUser payload)
        { s.addUser user hid hemail with userRoleAssignments := assignments }
        (.ok (.user userPublic))
  | loggedIn {payload : LoginRequest} {issued : LoginResponse τ × RefreshToken} {s' : AuthStore} :
      checkLogin env c s payload = .ok issued → s.addRefreshToken issued.2 = .ok s' →
      AuthEffect env c s (.loginUser payload) s' (.ok (.session issued.1))
  | expired {refreshToken : String} {tokenHash : String} {now : Instant} {e : AuthError} :
      checkRefresh env c s refreshToken = .ok (.expired tokenHash now) →
      AuthEffect env c s (.refreshUserSession refreshToken)
        (s.revokeRefreshTokens [tokenHash] now) (.error e)
  | rotated {refreshToken : String} {tokenHash : String} {now : Instant}
      {response : LoginResponse τ} {row : RefreshToken} {s' : AuthStore} :
      checkRefresh env c s refreshToken = .ok (.rotate tokenHash now response row) →
      (s.revokeRefreshTokens [tokenHash] now).addRefreshToken row = .ok s' →
      AuthEffect env c s (.refreshUserSession refreshToken) s' (.ok (.session response))
  | loggedOut {refreshToken : String} {record : RefreshToken} :
      checkLogout env c s refreshToken = .ok record →
      AuthEffect env c s (.logoutUserSession refreshToken)
        (s.revokeRefreshTokens [record.tokenHash] (c.now 0)) (.ok .done)
  | resetRequested {email : String} {message : ForgotPasswordResponse} {s' : AuthStore} :
      requestPasswordReset env c s email = .ok (s', message) →
      AuthEffect env c s (.requestPasswordReset email) s' (.ok (.message message))
  | reset {payload : ResetPasswordRequest} {d : ResetDraft} :
      checkReset env c s payload = .ok d →
      AuthEffect env c s (.resetPassword payload) (commitReset (c.now 1) s d) (.ok .done)

/-- **Inversion of a call.** -/
theorem authExec_effect (env : SessionEnv τ) (c : AuthCall) (s : AuthStore) (op : AuthOp) :
    AuthEffect env c s op (authExec env c s op).1 (authExec env c s op).2 := by
  cases op with
  | registerUser payload =>
    rw [authExec]
    cases h : registerUser env c s payload with
    | error e => exact .failed
    | ok r =>
      obtain ⟨s', userPublic⟩ := r
      obtain ⟨user, hid, hemail, assignments, hs'⟩ := registerUser_eq_ok h
      obtain rfl : s' = _ := hs'
      exact .registered
  | loginUser payload =>
    rw [authExec]
    cases h : loginUser env c s payload with
    | error e => exact .failed
    | ok r =>
      obtain ⟨issued, hissued, h⟩ := (bind_eq_ok _ _ _).mp h
      obtain ⟨s', hs', h⟩ := (bind_eq_ok _ _ _).mp h
      obtain rfl := (pure_eq_ok _ _).mp h
      exact .loggedIn hissued hs'
  | refreshUserSession refreshToken =>
    -- The one call that can write and fail: an expired token is revoked, and the call refused.
    rw [authExec, refreshUserSession]
    cases h : checkRefresh env c s refreshToken with
    | error e => exact .failed
    | ok d =>
      cases d with
      | expired tokenHash now => exact .expired h
      | rotate tokenHash now response row =>
        dsimp only
        cases hs' : commitRefresh s (.rotate tokenHash now response row) with
        | error e => exact .failed
        | ok s' => exact .rotated h hs'
  | logoutUserSession refreshToken =>
    rw [authExec]
    cases h : logoutUserSession env c s refreshToken with
    | error e => exact .failed
    | ok r =>
      obtain ⟨record, hrecord, h⟩ := (bind_eq_ok _ _ _).mp h
      obtain rfl := (pure_eq_ok _ _).mp h
      exact .loggedOut hrecord
  | requestPasswordReset email =>
    rw [authExec]
    cases h : requestPasswordReset env c s email with
    | error e => exact .failed
    | ok r => exact .resetRequested h
  | resetPassword payload =>
    rw [authExec]
    cases h : resetPassword env c s payload with
    | error e => exact .failed
    | ok r =>
      obtain ⟨d, hd, h⟩ := (bind_eq_ok _ _ _).mp h
      obtain rfl := (pure_eq_ok _ _).mp h
      exact .reset hd

theorem authStep_effect (env : SessionEnv τ) (s : AuthStore) (e : AuthEvent) :
    AuthEffect env e.call s e.op (authStep env s e) (e.answer env s) :=
  authExec_effect env e.call s e.op

/-! ## §3 Serial runs -/

/-- A store and the latest instant the clock has shown. -/
structure AuthState where
  now : Instant
  store : AuthStore

/-- One atomic call.  Its clock readings lie between the clocks of the two states; no call takes
more than three of them. -/
structure AuthStep (env : SessionEnv τ) (x : AuthState) (e : AuthEvent) (y : AuthState) :
    Prop where
  starts : x.now ≤ e.call.now 0
  ends : e.call.now 2 ≤ y.now
  store : y.store = authStep env x.store e

variable {x y : AuthState} {e : AuthEvent} {es : List AuthEvent}

theorem AuthStep.effect (h : AuthStep env x e y) :
    AuthEffect env e.call x.store e.op y.store (e.answer env x.store) :=
  h.store ▸ authStep_effect env x.store e

/-- The store at the end of a run is the replay of its calls. -/
theorem authRun_store (h : Run (AuthStep env) x es y) : y.store = authReplay env x.store es := by
  induction h with
  | nil => rfl
  | snoc _ hstep ih => rw [authReplay_snoc, ← ih, hstep.store]

/-- The calls follow each other on the clock. -/
def AuthInOrder : Instant → List AuthEvent → Prop
  | _, [] => True
  | now, e :: es => now ≤ e.call.now 0 ∧ AuthInOrder (e.call.now 2) es

/-- The clock after the last call. -/
def lastAuthReading : Instant → List AuthEvent → Instant
  | now, [] => now
  | _, e :: es => lastAuthReading (e.call.now 2) es

instance decidableAuthInOrder : (now : Instant) → (es : List AuthEvent) →
    Decidable (AuthInOrder now es)
  | _, [] => isTrue trivial
  | _, e :: es =>
    have := decidableAuthInOrder (e.call.now 2) es
    inferInstanceAs (Decidable (_ ∧ _))

/-- Any calls in clock order are a run. -/
theorem AuthInOrder.run {now : Instant} (h : AuthInOrder now es) (s : AuthStore) :
    Run (AuthStep env) ⟨now, s⟩ es ⟨lastAuthReading now es, authReplay env s es⟩ := by
  induction es generalizing now s with
  | nil => exact .nil _
  | cons e es ih =>
    have hfirst : AuthStep env ⟨now, s⟩ e ⟨e.call.now 2, authStep env s e⟩ := ⟨h.1, le_rfl, rfl⟩
    exact (Run.single hfirst).append (ih h.2 (authStep env s e))

/-! ## §4 A single user -/

/-- Hashes that are the texts themselves. -/
def SessionEnv.plain : SessionEnv AccessTokenPayload where
  toAuthEnv := .plain
  runtime := .plain
  hashToken := id
  hashPassword := fun _ password => password
  verifyPassword := fun password passwordHash => password = passwordHash
  refreshTokenExpireDays := 30
  passwordResetTokenExpireMinutes := 30
  production := false

/-- User 7. -/
def smallAccount : Account where
  id := 7
  email := "a@b.c"
  status := .active
  passwordHash := "old-password"
  name := "Ann"
  phone := none

/-- The user has not logged in yet. -/
def smallAuth : AuthStore where
  users := ⟨[smallAccount], by decide⟩
  roles := .empty
  userRoleAssignments := .empty
  refreshTokens := .empty
  passwordResetTokens := .empty
  notifications := []
  emailsNodup := by decide

/-- A call at a standing clock that draws the given token. -/
def AuthCall.plain (now : Instant) (secret : String) : AuthCall := ⟨.at now, secret, ""⟩

/-- The address and the password of the user. -/
def smallCredentials : LoginRequest := ⟨"a@b.c", "old-password", by decide⟩

/-- The user logs in. -/
def smallLogin : AuthEvent := ⟨.plain 0 "refresh-token-01", .loginUser smallCredentials⟩

/-- The user asks for a reset token, which is the given text. -/
def smallReset (token : String) : AuthEvent := ⟨.plain 0 token, .requestPasswordReset "a@b.c"⟩

/-- A reset with the given token. -/
def newPassword (token : String) (h : 16 ≤ token.length) : ResetPasswordRequest where
  token := token
  token_length := h
  newPassword := "new-password"
  newPassword_length := by decide

/-- The first link of the user. -/
def firstLink : ResetPasswordRequest := newPassword "reset-token-0001" (by decide)

end Coworking
