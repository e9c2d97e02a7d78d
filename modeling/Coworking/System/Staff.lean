import Coworking.System.ApiRun
import Coworking.System.Searches

/-!
# Who Changes the Space

Venues and layouts are behind permissions.  The permissions are in the tokens, a token takes them
from the roles of its user, and the only thing that ever assigns a role is a registration.

- `RolesSince`: the roles as they were, besides those of registrations;
- `GivenSince`: an access token with the permissions of some such state;
- `ActsFor.permitted`: whoever passes a guard had the permission at the start;
- `space_changed_by_staff`: what this says about every run of the interface.
-/

namespace Coworking

open Foundation

variable {τ : Type} {env : SessionEnv τ} {rt : Runtime} {x y z : ApiState} {e : ApiEvent τ}
  {es : List (ApiEvent τ)} {r : ApiRequest τ} {userId : Uuid} {s₀ s s' : AuthStore} {c : AuthCall}

/-! ## §1 Roles over time -/

/-- What comes of an assignment after `s₀`: it is for the role `client`. -/
def AssignedSince (s₀ : AuthStore) (a : UserRoleAssignment) : Prop :=
  ∃ role ∈ s₀.roles, role.id = a.roleId ∧ role.code = "client"

/-- The roles of `s₀`, assigned as they were in `s₀`, or by registrations since. -/
structure RolesSince (s₀ s : AuthStore) : Prop where
  roles : s.roles = s₀.roles
  assignments : ∀ a ∈ s.userRoleAssignments, a ∈ s₀.userRoleAssignments ∨ AssignedSince s₀ a

theorem RolesSince.refl (s : AuthStore) : RolesSince s s := ⟨rfl, fun _ h => .inl h⟩

theorem RolesSince.of_eq (hroles : s.roles = s₀.roles)
    (hassignments : s.userRoleAssignments = s₀.userRoleAssignments) : RolesSince s₀ s :=
  ⟨hroles, fun _ h => .inl (hassignments ▸ h)⟩

theorem RolesSince.trans {s'' : AuthStore} (h₁ : RolesSince s s') (h₂ : RolesSince s' s'') :
    RolesSince s s'' where
  roles := h₂.roles.trans h₁.roles
  assignments := by
    intro a ha
    rcases h₂.assignments a ha with hold | hnew
    · exact h₁.assignments a hold
    · rw [AssignedSince, h₁.roles] at hnew
      exact .inr hnew

/-- `select(Role).where(Role.code == "client")`. -/
def AuthStore.clientRole? (s : AuthStore) : Option Role :=
  s.roles.rows.find? (·.code = "client")

/-- The assignment of a registration, if there is a role to assign. -/
def newAssignments (env : SessionEnv τ) (s : AuthStore) : List UserRoleAssignment :=
  (s.clientRole?.map fun role =>
    ⟨env.runtime.fresh s.userRoleAssignments, env.runtime.fresh s.users, role.id, none⟩).toList

/-- What a registration does to the accounts. -/
theorem registerUser_accounts {payload : RegisterRequest} {r : AuthStore × UserPublic}
    (h : registerUser env c s payload = .ok r) :
    ∃ user : Account, user.id = env.runtime.fresh s.users ∧
      r.1.users.rows = s.users.rows ++ [user] ∧ r.1.roles = s.roles ∧
      r.1.userRoleAssignments.rows = s.userRoleAssignments.rows ++ newAssignments env s := by
  simp only [registerUser, bind_eq_ok, raiseIf_eq_ok] at h
  obtain ⟨-, -, h⟩ := h
  split at h
  · cases h
  · split at h
    next role hrole =>
      have hclient : s.clientRole? = some role := hrole
      obtain rfl := (pure_eq_ok _ _).mp h
      refine ⟨_, rfl, rfl, rfl, ?_⟩
      rw [newAssignments, hclient]
      rfl
    next hnone =>
      have hclient : s.clientRole? = none := hnone
      obtain rfl := (pure_eq_ok _ _).mp h
      refine ⟨_, rfl, rfl, rfl, ?_⟩
      rw [newAssignments, hclient]
      exact (List.append_nil _).symm

theorem mem_newAssignments {a : UserRoleAssignment} (h : a ∈ newAssignments env s) :
    AssignedSince s a := by
  unfold newAssignments at h
  cases hclient : s.clientRole? with
  | none => simp [hclient] at h
  | some role =>
    simp only [hclient, Option.map_some, Option.toList_some, List.mem_singleton] at h
    have hcode : role.code = "client" := by simpa using List.find?_some hclient
    rw [h]
    exact ⟨role, List.mem_of_find?_eq_some hclient, rfl, hcode⟩

/-- No other call assigns anything. -/
theorem AuthEffect.sameRoles {op : AuthOp} {answer : Except AuthError (Answer τ)}
    (h : AuthEffect env c s op s' answer) (hop : ∀ payload, op ≠ .registerUser payload) :
    s'.roles = s.roles ∧ s'.userRoleAssignments = s.userRoleAssignments := by
  cases h with
  | registered => exact absurd rfl (hop _)
  | loggedIn _ hs' | rotated _ hs' =>
    obtain ⟨-, rfl⟩ := AuthStore.addRefreshToken_eq_ok.mp hs'
    exact ⟨rfl, rfl⟩
  | resetRequested hr =>
    obtain rfl | ⟨_, -, -, _, rfl⟩ := requestPasswordReset_eq_ok hr
    · exact ⟨rfl, rfl⟩
    · exact ⟨rfl, rfl⟩
  | failed | expired | loggedOut | reset => exact ⟨rfl, rfl⟩

/-- **One call.** -/
theorem authStep_rolesSince (env : SessionEnv τ) (s : AuthStore) (e : AuthEvent) :
    RolesSince s (authStep env s e) := by
  by_cases hop : ∃ payload, e.op = .registerUser payload
  · obtain ⟨payload, hop⟩ := hop
    rw [authStep, hop, authExec]
    cases h : registerUser env e.call s payload with
    | error err => exact .refl s
    | ok r =>
      obtain ⟨user, -, -, hroles, hassignments⟩ := registerUser_accounts h
      refine ⟨hroles, fun a ha => ?_⟩
      have hrow : a ∈ r.1.userRoleAssignments.rows := ha
      rw [hassignments] at hrow
      exact (List.mem_append.mp hrow).imp_right mem_newAssignments
  · obtain ⟨hroles, hassignments⟩ := (authStep_effect env s e).sameRoles fun payload h =>
      hop ⟨payload, h⟩
    exact .of_eq hroles hassignments

theorem apiRun_rolesSince (h : Run (ApiStep env rt) x es y) : RolesSince x.auth y.auth := by
  refine h.relates (R := fun x y => RolesSince x.auth y.auth) (fun _ => .refl _)
    (fun _ _ _ => .trans) fun u e v hstep => ?_
  cases hstep with
  | auth h =>
    rw [h.store]
    exact authStep_rolesSince env _ _
  | request => exact .refl _

/-- What a user is assigned now was assigned at the start, or is the role `client`. -/
theorem RolesSince.assigned (h : RolesSince s₀ s) {row : String × Option Uuid}
    (hrow : row ∈ s.accounts.assigned userId) :
    row ∈ s₀.accounts.assigned userId ∨ row.1 = "client" := by
  obtain ⟨a, ha, huser, role, hget, rfl⟩ := hrow
  have hrole : s₀.roles.get? a.roleId = some role := h.roles ▸ hget
  rcases h.assignments a ha with hold | ⟨client, hclient, hid, hcode⟩
  · exact .inl ⟨a, hold, huser, role, hrole, rfl⟩
  · obtain rfl : role = client := Table.key_injective (Table.mem_of_get? hrole) hclient
      ((Table.key_of_get? hrole).trans hid.symm)
    exact .inr hcode

/-! ## §2 The permissions in a token -/

/-- The access token was built from the accounts of a state since `s₀`. -/
def GivenSince (env : SessionEnv τ) (s₀ : AuthStore) (entry : LogEntry τ) : Prop :=
  ∃ s user, RolesSince s₀ s ∧ user.id = entry.userId ∧
    entry.token = issueSessionTokens env.toAuthEnv entry.issued s.accounts user

theorem givenSince_of_mem {entry : LogEntry τ} (h : RolesSince s₀ s)
    (hentry : entry ∈ e.given env s) : GivenSince env s₀ entry := by
  obtain ⟨a, response, rfl, hanswer, rfl⟩ := mem_given hentry
  have heffect := authStep_effect env s a
  rw [hanswer] at heffect
  obtain ⟨user, device, ⟨rfl, payload, hop, -⟩ | ⟨rfl, refreshToken, record, hop, -⟩⟩ :=
    heffect.session
  · have hissued : a.issued = a.call.now 0 := by simp [AuthEvent.issued, hop]
    refine ⟨s, user.toUser, h, rfl, ?_⟩
    rw [hissued]
    rfl
  · have hissued : a.issued = a.call.now 1 := by simp [AuthEvent.issued, hop]
    refine ⟨s, user.toUser, h, rfl, ?_⟩
    rw [hissued]
    rfl

theorem givenSince_run (hrun : Run (ApiStep env rt) x es y) :
    ∀ entry ∈ sessionLog env x.auth es, GivenSince env x.auth entry := by
  induction hrun with
  | nil => exact fun _ h => (List.not_mem_nil h).elim
  | snoc hrun hstep ih =>
    intro entry hentry
    rw [sessionLog_snoc hrun, List.mem_append] at hentry
    rcases hentry with hold | hnew
    · exact ih entry hold
    · exact givenSince_of_mem (apiRun_rolesSince hrun) hnew

/-- The permissions that the administrator's routes ask for are none of a client's. -/
theorem client_not_permitted {p : String} (h : p ∈ r.op.permissions) :
    p ∉ rolePermissions "client" := by
  unfold Op.permissions at h
  split at h
  · rw [List.mem_singleton.mp h]
    decide
  · rw [List.mem_singleton.mp h]
    decide
  · exact (List.not_mem_nil h).elim

/-- **Whoever passes the guards** of a route had its permissions at the start. -/
theorem ActsFor.permitted {log : List (LogEntry τ)} (hacts : ActsFor env userId x r)
    (hlog : ∀ entry ∈ log, GivenSince env s₀ entry)
    (hgiven : (∃ now p, env.decode now r.token = some p) → ∃ entry ∈ log, entry.token = r.token)
    {p : String} (hp : p ∈ r.op.permissions) :
    p ∈ flatten permissionsOf (s₀.accounts.assigned userId) := by
  obtain ⟨user, huser, rfl⟩ := hacts
  obtain ⟨hcurrent, hrequired⟩ := authorize_eq_ok.mp huser
  obtain ⟨q, hdecode, hget, -⟩ := getCurrentUser_eq_ok.mp hcurrent
  -- Both guards decode the token, each at its own time.
  obtain ⟨q', hpermissions⟩ := hrequired (List.ne_nil_of_mem hp)
  obtain ⟨hdecode', hall⟩ := requirePermissions_eq_ok.mp hpermissions
  obtain ⟨⟨token, id, issued⟩, hmem, rfl⟩ :=
    hgiven ⟨_, q, (decodeAccessToken_eq_ok.mp hdecode).1⟩
  obtain ⟨s, owner, hsince, rfl, htoken⟩ := hlog _ hmem
  have htoken : r.token = issueSessionTokens env.toAuthEnv issued s.accounts owner := htoken
  rw [htoken, decode_issued] at hdecode hdecode'
  obtain ⟨-, -, rfl⟩ := hdecode
  obtain ⟨-, -, rfl⟩ := hdecode'
  have hid : user.id = owner.id := Table.key_of_get? hget
  rw [hid]
  -- They read the permissions of the state that the token is from.
  obtain ⟨scope, code, hrow, hcode⟩ := mem_issued_permissions.mp (hall p hp)
  rcases hsince.assigned hrow with hold | rfl
  · exact ⟨scope, code, hold, hcode⟩
  · exact absurd hcode (client_not_permitted hp)

/-! ## §3 The space -/

/-- The request acts for a user who had the permissions of its route in the accounts `s₀`. -/
def ByStaff (env : SessionEnv τ) (s₀ : AuthStore) (x : ApiState) (e : ApiEvent τ) : Prop :=
  ∃ r userId, e = .request r ∧ ActsFor env userId x r ∧ r.op.permissions ≠ [] ∧
    ∀ p ∈ r.op.permissions, p ∈ flatten permissionsOf (s₀.accounts.assigned userId)

/-- **One request.** -/
theorem ApiStep.sameSpace (h : ApiStep env rt x e y) :
    SameSpace x.store y.store ∨
      ∃ r userId, e = .request r ∧ ActsFor env userId x r ∧ r.op.permissions ≠ [] := by
  cases h with
  | auth => exact .inl (.refl _)
  | @request r =>
    show SameSpace x.store (r.leaves env rt x) ∨ _
    rcases r.leaves_cases env rt x with ⟨userId, hacts, hstep⟩ | hsame
    · by_cases hpermissions : r.op.permissions = []
      · rw [hstep]
        left
        unfold step
        cases hok : exec rt { r.call with user := userId } x.store r.op with
        | error err => exact .refl _
        | ok s' =>
          -- The two operations that could change it are behind permissions.
          apply exec_sameSpace hok
          · intro payload hop
            simp [hop, Op.permissions] at hpermissions
          · intro roomId payload hop
            simp [hop, Op.permissions] at hpermissions
      · exact .inr ⟨r, userId, rfl, hacts, hpermissions⟩
    · rw [hsame]
      exact .inl (.refl _)

/-- **The space is changed by staff.**  However long the interface runs, and whoever registers, logs
in and asks for what: as long as no access token is forged, every request that changes a venue, a
room, a seat, a feature, opening hours or a booking rule acts for a user who had, when the run
began, a role with the permission that the route asks for. -/
theorem space_changed_by_staff (hrun : Run (ApiStep env rt) x es y)
    (hforged : Unforged env x.auth es) :
    Run (fun u e v => ApiStep env rt u e v ∧
      (SameSpace u.store v.store ∨ ByStaff env x.auth u e)) x es y := by
  induction hrun with
  | nil => exact .nil _
  | @snoc u v es e hprefix hlast ih =>
    refine .snoc (ih hforged.of_append) ⟨hlast, ?_⟩
    rcases hlast.sameSpace with hsame | ⟨r, userId, rfl, hacts, hpermissions⟩
    · exact .inl hsame
    · refine .inr ⟨r, userId, rfl, hacts, hpermissions, fun p hp => ?_⟩
      exact hacts.permitted (givenSince_run hprefix)
        (fun hdecodes => hforged es r [] rfl hdecodes) hp

/-- The accounts of user 7, who owns the place. -/
def staffAuth : AuthStore :=
  { smallAuth with
    roles := ⟨[⟨1, "owner"⟩], by decide⟩
    userRoleAssignments := ⟨[⟨1, 7, 1, none⟩], by decide⟩ }

/-- Nothing has happened yet. -/
def staffState : ApiState := ⟨0, staffAuth, smallStore⟩

/-- The access token of the owner's first login. -/
def staffToken : AccessTokenPayload :=
  issueSessionTokens .plain 0 staffAuth.accounts smallAccount.toUser

/-- A request with it to create a venue. -/
def staffRequest : ApiRequest AccessTokenPayload :=
  ⟨staffToken, .at 0, .plain 7 0,
    .createVenue ⟨"Cellar", by decide, "Quay 3", by decide, "UTC", []⟩⟩

/-- User 7 logs in and creates a venue, as an owner may. -/
theorem space_changed_by_staff_owner :
    ∃ u, ByStaff .plain staffAuth u (.request staffRequest) := by
  have hlogin : (.auth smallLogin : ApiEvent AccessTokenPayload).Starts staffState.now := le_rfl
  have hrequest : (.request staffRequest : ApiEvent AccessTokenPayload).Starts 0 := ⟨le_rfl, le_rfl⟩
  have hrun : Run (ApiStep .plain .plain) staffState
      ([.auth smallLogin] ++ [.request staffRequest]) _ :=
    (Run.single (hlogin.step _ _)).append (Run.single (ApiEvent.Starts.step hrequest _ _))
  have hforged : Unforged .plain staffState.auth
      ([.auth smallLogin] ++ [.request staffRequest]) := by
    have hgiven : (⟨staffToken, 7, 0⟩ : LogEntry AccessTokenPayload) ∈
        (ApiEvent.auth smallLogin).given .plain staffState.auth := List.mem_singleton_self _
    apply Unforged.of_given hgiven
    intro r hr
    obtain rfl := ApiEvent.request.inj (List.mem_singleton.mp hr)
    rfl
  obtain ⟨u, hprefix, -, hlast⟩ := (space_changed_by_staff hrun hforged).last
  refine ⟨u, hlast.resolve_left fun hsame => ?_⟩
  have hstore : u.store = smallStore := by
    cases hprefix.of_single.1 with
    | auth => rfl
  have hvenues := hsame.venues
  rw [hstore] at hvenues
  exact absurd (congrArg (fun t => t.rows.length) hvenues) (by decide)

end Coworking
