import Coworking.Services.Rbac

/-!
# Access Tokens

`_issue_session_tokens`, as far as the access token goes: the row of the refresh token plays no
part in what an access token is good for.

`AuthEnv` is what the process supplies: PyJWT under the secret key, the email check of
pydantic, the settings and the order in which a query returns its rows.
-/

namespace Coworking

/-- The claims of an access token. -/
structure AccessTokenPayload where
  sub : Uuid
  email : String
  type : String
  globalRoles : List String
  venueRoles : List (Uuid × List String)
  permissions : List String
  /-- Whole seconds. -/
  iat : Int
  exp : Int
  deriving DecidableEq

/-- What authentication relies on and does not define.  A token is opaque to everyone but PyJWT. -/
structure AuthEnv (τ : Type) where
  /-- `jwt.encode` with the secret key. -/
  encode : AccessTokenPayload → τ
  /-- `jwt.decode` at an instant; `none` when it raises. -/
  decode : Instant → τ → Option AccessTokenPayload
  /-- An encoded token decodes from its `iat` until before its `exp`. -/
  decode_encode : ∀ now p, decode now (encode p) =
    if seconds p.iat ≤ now ∧ now < seconds p.exp then some p else none
  /-- `EmailStr`. -/
  isEmail : String → Bool
  /-- `ACCESS_TOKEN_EXPIRE_MINUTES`. -/
  accessTokenExpireMinutes : Int
  /-- The order of the rows of a join. -/
  rowOrder : List (String × Option Uuid) → List (String × Option Uuid)
  rowOrder_perm : ∀ rows, (rowOrder rows).Perm rows

/-- Tokens that are their own payload, good for half an hour. -/
def AuthEnv.plain : AuthEnv AccessTokenPayload where
  encode := id
  decode := fun now p => if seconds p.iat ≤ now ∧ now < seconds p.exp then some p else none
  decode_encode := fun _ _ => rfl
  isEmail := fun text => '@' ∈ text.toList
  accessTokenExpireMinutes := 30
  rowOrder := id
  rowOrder_perm := fun _ => .refl _

variable {τ : Type}

/-- `build_access_token`. -/
def buildAccessToken (env : AuthEnv τ) (now : Instant) (userId : Uuid) (email : String)
    (context : PermissionsContext) : τ :=
  env.encode
    { sub := userId
      email
      type := "access"
      globalRoles := context.globalRoles
      venueRoles := context.venueRoles
      permissions := context.permissions
      iat := now / microsPerSecond
      exp := (now + minutes env.accessTokenExpireMinutes) / microsPerSecond }

/-- The access token of `_issue_session_tokens`. -/
def issueSessionTokens (env : AuthEnv τ) (now : Instant) (a : Accounts) (user : User) : τ :=
  buildAccessToken env now user.id user.email
    (getUserPermissionsContext (env.rowOrder (roleRows a user.id)))

end Coworking
