import Coworking.Foundation.Outcome
import Coworking.Services.Auth
import Coworking.Services.Errors

/-!
# Route Guards

`get_current_user` and `require_permissions`.  Both decode the token of the request; only the
first looks at the database, and only the second at the permissions.

- `getCurrentUser_eq_ok`, `requirePermissions_eq_ok`: what they let through.
-/

namespace Coworking

open Foundation

/-- The errors a route answers with. -/
inductive HttpError
  | unauthorized (detail : String)
  | forbidden (detail : String)
  | notFound (detail : String)
  /-- An exception no handler maps: status 500. -/
  | internal (error : ServiceError)
  deriving DecidableEq

/-- Status 401 or 403. -/
def HttpError.denies : HttpError → Bool
  | .unauthorized _ | .forbidden _ => true
  | .notFound _ | .internal _ => false

variable {τ : Type}

/-- The `try` block and the type check the two guards share. -/
def decodeAccessToken (env : AuthEnv τ) (now : Instant) (token : τ) :
    Except HttpError AccessTokenPayload := do
  let payload ← found ((env.decode now token).filter fun p => env.isEmail p.email)
    (.unauthorized "Invalid access token.")
  raiseIf (payload.type ≠ "access") (.unauthorized "Invalid access token type.")
  pure payload

/-- `get_current_user`. -/
def getCurrentUser (env : AuthEnv τ) (now : Instant) (a : Accounts) (token : τ) :
    Except HttpError User := do
  let payload ← decodeAccessToken env now token
  let user ← found (a.users.get? payload.sub) (.unauthorized "User not found.")
  raiseIf (user.status ≠ .active) (.forbidden "User is not active.")
  pure user

/-- `require_permissions`. -/
def requirePermissions (env : AuthEnv τ) (now : Instant) (requiredPermissions : List String)
    (token : τ) : Except HttpError AccessTokenPayload := do
  let payload ← decodeAccessToken env now token
  let missing := requiredPermissions.filter fun permission => permission ∉ payload.permissions
  raiseIf (missing ≠ []) (.forbidden ("Missing permissions: " ++ ", ".intercalate missing))
  pure payload

/-! ## Specifications -/

variable {env : AuthEnv τ} {now : Instant} {a : Accounts} {token : τ}

theorem decodeAccessToken_eq_ok {p : AccessTokenPayload} :
    decodeAccessToken env now token = .ok p ↔
      env.decode now token = some p ∧ env.isEmail p.email ∧ p.type = "access" := by
  simp only [decodeAccessToken, bind_eq_ok, raiseIf_eq_ok, found_eq_ok, pure_eq_ok, exists_const,
    Option.filter_eq_some_iff, not_not, ne_eq]
  constructor
  · intro hok
    rcases hok with ⟨q, ⟨hdecode, hemail⟩, htype, rfl⟩
    exact ⟨hdecode, hemail, htype⟩
  · intro hspec
    rcases hspec with ⟨hdecode, hemail, htype⟩
    exact ⟨p, ⟨hdecode, hemail⟩, htype, rfl⟩

theorem getCurrentUser_eq_ok {u : User} :
    getCurrentUser env now a token = .ok u ↔ ∃ p, decodeAccessToken env now token = .ok p ∧
      a.users.get? p.sub = some u ∧ u.status = .active := by
  simp only [getCurrentUser, bind_eq_ok, raiseIf_eq_ok, found_eq_ok, pure_eq_ok, exists_const,
    not_not, ne_eq]
  refine exists_congr fun p => and_congr_right fun _ => ?_
  constructor
  · intro hok
    rcases hok with ⟨v, hget, hactive, rfl⟩
    exact ⟨hget, hactive⟩
  · intro hspec
    rcases hspec with ⟨hget, hactive⟩
    exact ⟨u, hget, hactive, rfl⟩

theorem requirePermissions_eq_ok {requiredPermissions : List String} {p : AccessTokenPayload} :
    requirePermissions env now requiredPermissions token = .ok p ↔
      decodeAccessToken env now token = .ok p ∧ ∀ q ∈ requiredPermissions, q ∈ p.permissions := by
  simp only [requirePermissions, bind_eq_ok, raiseIf_eq_ok, pure_eq_ok, exists_const, not_not,
    ne_eq, List.filter_eq_nil_iff, decide_eq_true_eq]
  constructor
  · intro hok
    rcases hok with ⟨q, hdecode, hall, rfl⟩
    exact ⟨hdecode, hall⟩
  · intro hspec
    rcases hspec with ⟨hdecode, hall⟩
    exact ⟨p, hdecode, hall, rfl⟩

/-! A guard that raises denies. -/

theorem decodeAccessToken_denies {e : HttpError} (h : decodeAccessToken env now token = .error e) :
    e.denies := by
  simp only [decodeAccessToken, bind_eq_error, raiseIf_eq_error, found_eq_error, pure_ne_error,
    and_false, exists_false, or_false] at h
  rcases h with ⟨-, rfl⟩ | ⟨_, -, -, rfl⟩
  · rfl
  · rfl

theorem getCurrentUser_denies {e : HttpError} (h : getCurrentUser env now a token = .error e) :
    e.denies := by
  simp only [getCurrentUser, bind_eq_error, raiseIf_eq_error, found_eq_error, pure_ne_error,
    and_false, exists_false, or_false] at h
  rcases h with h | ⟨_, -, ⟨-, rfl⟩ | ⟨_, -, -, rfl⟩⟩
  · exact decodeAccessToken_denies h
  · rfl
  · rfl

theorem requirePermissions_denies {requiredPermissions : List String} {e : HttpError}
    (h : requirePermissions env now requiredPermissions token = .error e) : e.denies := by
  simp only [requirePermissions, bind_eq_error, raiseIf_eq_error, pure_ne_error, and_false,
    exists_false, or_false] at h
  rcases h with h | ⟨_, -, -, rfl⟩
  · exact decodeAccessToken_denies h
  · rfl

end Coworking
