import Coworking.Foundation.UnitOfWork
import Coworking.System.AuthOperation

/-!
# Registration

`register_user` answers an address that is in use from a handler around its commit, but it flushes
the row before.

- `registerUserInSession`: the function, call by call on its database session;
- `registerUserInSession_eq`: what it leaves and answers is what `registerUser` does;
- `emails_run`: the addresses after a run are those of its start and of its registrations;
- `clean_registration_iff`: which registrations end as they should.
-/

namespace Coworking

open Foundation Foundation.UnitOfWork

variable {τ : Type} {env : SessionEnv τ} {c : AuthCall} {s s' : AuthStore}
  {payload : RegisterRequest}

/-! ## §1 On the session -/

/-- An `INSERT` that a registration emits. -/
inductive AuthInsert
  | user (row : Account)
  | userRoleAssignment (row : UserRoleAssignment)

/-- The addresses of `users`. -/
def AuthStore.emails (s : AuthStore) : List String := s.users.rows.map fun user => user.email

/-- The values fit the columns of `users`. -/
def Account.fits (user : Account) : Bool :=
  fitsVarchar 255 user.email && fitsVarchar 255 user.passwordHash && fitsVarchar 255 user.name &&
    user.phone.all (fitsVarchar 32)

/-- `INSERT INTO users`. -/
def AuthStore.insertUser (s : AuthStore) (row : Account) : Except AuthError AuthStore :=
  if !row.fits then .error .data
  else if hemail : row.email ∈ s.emails then .error .integrity
  else if hid : Keyed.key row ∈ s.users.keys then .error .integrity
  else .ok (s.addUser row hid hemail)

/-- `INSERT INTO user_role_assignments` of a global role.  The index on the scope takes rows
without a venue as distinct. -/
def AuthStore.insertAssignment (s : AuthStore) (row : UserRoleAssignment) :
    Except AuthError AuthStore :=
  if hid : Keyed.key row ∈ s.userRoleAssignments.keys then .error .integrity
  else .ok { s with userRoleAssignments := s.userRoleAssignments.insert row hid }

/-- What the database makes of an `INSERT`. -/
def AuthStore.emit (s : AuthStore) : AuthInsert → Except AuthError AuthStore
  | .user row => s.insertUser row
  | .userRoleAssignment row => s.insertAssignment row

/-- The row of a registration. -/
def newAccount (env : SessionEnv τ) (c : AuthCall) (s : AuthStore) (payload : RegisterRequest) :
    Account where
  id := env.runtime.fresh s.users
  email := env.lower payload.email
  status := .active
  passwordHash := env.hashPassword c.salt payload.password
  name := payload.name
  phone := payload.phone

/-- The row that gives a user a role everywhere. -/
def clientAssignment (env : SessionEnv τ) (s : AuthStore) (user : Account) (role : Role) :
    UserRoleAssignment :=
  ⟨env.runtime.fresh s.userRoleAssignments, user.id, role.id, none⟩

/-- The `except` clause of `register_user`. -/
def onCommitError : AuthError → InSession AuthError AuthStore AuthInsert Unit
  | .integrity => do
    rollback
    throw (.conflict "User with this email already exists.")
  | e => throw e

/-- `register_user`, call by call. -/
def registerUserInSession (env : SessionEnv τ) (c : AuthCall) (payload : RegisterRequest) :
    InSession AuthError AuthStore AuthInsert UserPublic := do
  let user := newAccount env c (← get).seen payload
  add (.user user)
  flush AuthStore.emit
  let clientRole ← select AuthStore.emit fun s => s.roles.rows.find? (·.code = "client")
  match clientRole with
  | some role => add (.userRoleAssignment (clientAssignment env (← get).seen user role))
  | none => pure ()
  tryCatch (commit AuthStore.emit) onCommitError
  return user.toPublic

theorem insertUser_eq_ok {row : Account} (hfits : row.fits) (hemail : row.email ∉ s.emails)
    (hid : Keyed.key row ∉ s.users.keys) : s.insertUser row = .ok (s.addUser row hid hemail) := by
  simp [AuthStore.insertUser, hfits, hemail, hid]

theorem insertUser_of_not_fits {row : Account} (hfits : row.fits = false) :
    s.insertUser row = .error .data := by
  simp [AuthStore.insertUser, hfits]

theorem insertUser_of_mem_emails {row : Account} (hfits : row.fits)
    (hemail : row.email ∈ s.emails) : s.insertUser row = .error .integrity := by
  simp [AuthStore.insertUser, hfits, hemail]

theorem insertAssignment_eq_ok {row : UserRoleAssignment}
    (hid : Keyed.key row ∉ s.userRoleAssignments.keys) :
    s.insertAssignment row =
      .ok { s with userRoleAssignments := s.userRoleAssignments.insert row hid } := by
  simp [AuthStore.insertAssignment, hid]

/-- What the first flush raises is what the registration ends in. -/
theorem registerUserInSession_error {e : AuthError}
    (h : s.insertUser (newAccount env c s payload) = .error e) :
    inSession s (registerUserInSession env c payload) = (s, .error e) := by
  have hemit : s.emit (.user (newAccount env c s payload)) = .error e := h
  have hrun : (registerUserInSession env c payload).run ⟨s, s, []⟩ =
      .error e ⟨s, s, [.user (newAccount env c s payload)]⟩ := run_flush_bind_error hemit
  rw [inSession, hrun]

/-- What a registration leaves once its row is inserted. -/
def withClientRole (env : SessionEnv τ) (s : AuthStore) (user : Account) : AuthStore :=
  match s.roles.rows.find? (·.code = "client") with
  | some role =>
    { s with
      userRoleAssignments := s.userRoleAssignments.insert (clientAssignment env s user role)
        (env.runtime.fresh_notMem s.userRoleAssignments) }
  | none => s

theorem withClientRole_of_none {user : Account}
    (h : s.roles.rows.find? (·.code = "client") = none) : withClientRole env s user = s := by
  simp only [withClientRole, h]

theorem withClientRole_of_some {user : Account} {role : Role}
    (h : s.roles.rows.find? (·.code = "client") = some role) :
    withClientRole env s user = { s with
      userRoleAssignments := s.userRoleAssignments.insert (clientAssignment env s user role)
        (env.runtime.fresh_notMem s.userRoleAssignments) } := by
  simp only [withClientRole, h]

/-- Once its row is inserted, nothing stops a registration. -/
theorem registerUserInSession_ok (h : s.insertUser (newAccount env c s payload) = .ok s') :
    inSession s (registerUserInSession env c payload) =
      (withClientRole env s' (newAccount env c s payload),
        .ok (newAccount env c s payload).toPublic) := by
  have hemit : s.emit (.user (newAccount env c s payload)) = .ok s' := h
  have hget : (get : InSession AuthError AuthStore AuthInsert _).run ⟨s, s, []⟩ =
      .ok ⟨s, s, []⟩ ⟨s, s, []⟩ := rfl
  have hflush : (flush AuthStore.emit).run
      ⟨s, s, [.user (newAccount env c s payload)]⟩ = .ok () ⟨s, s', []⟩ := run_flush_ok hemit
  -- Without the role of clients, only the user is inserted.
  cases hrole : s'.roles.rows.find? (·.code = "client") with
  | none =>
    have hcommit : (tryCatch (commit AuthStore.emit) onCommitError).run ⟨s, s', []⟩ =
        .ok () ⟨s', s', []⟩ := run_catching_ok run_commit_nil
    simp only [inSession, registerUserInSession, EStateM.run_bind, hget, run_add, List.nil_append,
      hflush, run_select, hrole, withClientRole, hcommit]
    rfl
  | some role =>
    have hassign : s'.emit (.userRoleAssignment
        (clientAssignment env s' (newAccount env c s payload) role)) = .ok _ :=
      insertAssignment_eq_ok (env.runtime.fresh_notMem s'.userRoleAssignments)
    have hget' : (get : InSession AuthError AuthStore AuthInsert _).run ⟨s, s', []⟩ =
        .ok ⟨s, s', []⟩ ⟨s, s', []⟩ := rfl
    have hcommit : (tryCatch (commit AuthStore.emit) onCommitError).run
        ⟨s, s', [.userRoleAssignment
          (clientAssignment env s' (newAccount env c s payload) role)]⟩ =
        .ok () ⟨_, _, []⟩ := run_catching_ok (run_commit_ok hassign)
    simp only [inSession, registerUserInSession, EStateM.run_bind, hget, run_add, List.nil_append,
      hflush, run_select, hrole, hget', withClientRole, hcommit]
    rfl

/-- The values of a registration fit the columns of `users`. -/
def FitsColumns (env : SessionEnv τ) (c : AuthCall) (payload : RegisterRequest) : Bool :=
  fitsVarchar 255 (env.lower payload.email) &&
    fitsVarchar 255 (env.hashPassword c.salt payload.password) &&
    fitsVarchar 255 payload.name && payload.phone.all (fitsVarchar 32)

/-- **What a registration ends in.** -/
theorem insertUser_cases (env : SessionEnv τ) (c : AuthCall) (s : AuthStore)
    (payload : RegisterRequest) :
    (FitsColumns env c payload = false ∧
      s.insertUser (newAccount env c s payload) = .error .data) ∨
    (FitsColumns env c payload = true ∧ env.lower payload.email ∈ s.emails ∧
      s.insertUser (newAccount env c s payload) = .error .integrity) ∨
    FitsColumns env c payload = true ∧ ∃ hemail : env.lower payload.email ∉ s.emails,
      s.insertUser (newAccount env c s payload) =
        .ok (s.addUser (newAccount env c s payload) (env.runtime.fresh_notMem s.users) hemail) := by
  have hrow : (newAccount env c s payload).fits = FitsColumns env c payload := rfl
  rw [← hrow]
  cases hfits : (newAccount env c s payload).fits with
  | false => exact .inl ⟨rfl, insertUser_of_not_fits hfits⟩
  | true =>
    by_cases hemail : (newAccount env c s payload).email ∈ s.emails
    · exact .inr (.inl ⟨rfl, hemail, insertUser_of_mem_emails hfits hemail⟩)
    · exact .inr (.inr ⟨rfl, hemail,
        insertUser_eq_ok hfits hemail (env.runtime.fresh_notMem s.users)⟩)

/-- The length checks of a registration. -/
theorem not_fitsColumns :
    (!fitsVarchar 255 (env.lower payload.email) ||
      !fitsVarchar 255 (env.hashPassword c.salt payload.password) ||
      !fitsVarchar 255 payload.name || !payload.phone.all (fitsVarchar 32)) =
        !FitsColumns env c payload := by
  simp only [FitsColumns, Bool.not_and]

theorem registerUser_eq :
    registerUser env c s payload = (do
      raiseIf (!FitsColumns env c payload) .data
      if hemail : env.lower payload.email ∈ s.emails then throw .integrity
      else pure (withClientRole env (s.addUser (newAccount env c s payload)
        (env.runtime.fresh_notMem s.users) hemail) (newAccount env c s payload),
        (newAccount env c s payload).toPublic)) := by
  simp only [registerUser, not_fitsColumns]
  refine congrArg _ (funext fun _ => dite_congr rfl (fun _ => rfl) fun hemail => ?_)
  have hroles : ∀ user hid hemail, (s.addUser user hid hemail).roles = s.roles := fun _ _ _ => rfl
  cases hrole : s.roles.rows.find? (·.code = "client") with
  | none =>
    simp only [hroles, hrole]
    exact congrArg (fun s => pure (s, _)) (Eq.symm (withClientRole_of_none hrole))
  | some role =>
    simp only [hroles, hrole]
    exact congrArg (fun s => pure (s, _)) (Eq.symm (withClientRole_of_some hrole))

/-- **The session does what the call does.** -/
theorem registerUserInSession_eq :
    inSession s (registerUserInSession env c payload) =
      rolledBack s (registerUser env c s payload) := by
  rw [registerUser_eq]
  rcases insertUser_cases env c s payload with
    ⟨hfits, h⟩ | ⟨hfits, hemail, h⟩ | ⟨hfits, hemail, h⟩
  · rw [registerUserInSession_error h, hfits]
    rfl
  · rw [registerUserInSession_error h, hfits, dif_pos hemail]
    rfl
  · rw [registerUserInSession_ok h, hfits, dif_neg hemail]
    rfl

/-! ## §2 One registration -/

/-- An address in use is answered with a conflict that changes nothing, and any other gets one new
user. -/
def RegistersCleanly (env : SessionEnv τ) (c : AuthCall) (s : AuthStore)
    (payload : RegisterRequest) : Prop :=
  let r := inSession s (registerUserInSession env c payload)
  if env.lower payload.email ∈ s.emails then
    (∃ message, r.2 = .error (.conflict message)) ∧ r.1.users = s.users ∧
      r.1.userRoleAssignments = s.userRoleAssignments
  else ∃ user, user.email = env.lower payload.email ∧ r.1.users.rows = s.users.rows ++ [user] ∧
    r.2 = .ok user.toPublic

theorem withClientRole_users {user : Account} : (withClientRole env s user).users = s.users := by
  unfold withClientRole
  split <;> rfl

/-- From any store, a registration ends as it should when its address is new and its values fit. -/
theorem registersCleanly_iff :
    RegistersCleanly env c s payload ↔
      env.lower payload.email ∉ s.emails ∧ FitsColumns env c payload = true := by
  unfold RegistersCleanly
  rcases insertUser_cases env c s payload with
    ⟨hfits, h⟩ | ⟨hfits, hemail, h⟩ | ⟨hfits, hemail, h⟩
  · -- The insertion fails, and its error is no conflict.
    rw [registerUserInSession_error h, hfits]
    split <;> simp
  · rw [registerUserInSession_error h, if_pos hemail]
    simp [hemail]
  · rw [registerUserInSession_ok h, if_neg hemail, iff_true_right ⟨hemail, hfits⟩]
    exact ⟨newAccount env c s payload, rfl, congrArg Table.rows withClientRole_users, rfl⟩

/-! ## §3 Registrations along runs -/

/-- The address that a call registers. -/
def AuthEvent.registers (env : SessionEnv τ) (s : AuthStore) (e : AuthEvent) : Option String :=
  match e.op, e.answer env s with
  | .registerUser payload, .ok _ => some (env.lower payload.email)
  | _, _ => none

/-- The addresses that a list of calls registers. -/
def registeredEmails (env : SessionEnv τ) : AuthStore → List AuthEvent → List String
  | _, [] => []
  | s, e :: es => (e.registers env s).toList ++ registeredEmails env (authStep env s e) es

variable {x y : AuthState} {e : AuthEvent} {es : List AuthEvent} {op : AuthOp}
  {answer : Except AuthError (Answer τ)}

/-- A registration adds its address, or nothing when it fails. -/
theorem emails_registerUser (env : SessionEnv τ) (c : AuthCall) (s : AuthStore)
    (payload : RegisterRequest) :
    (∃ error, registerUser env c s payload = .error error) ∨
      ∃ r, registerUser env c s payload = .ok r ∧
        r.1.emails = s.emails ++ [env.lower payload.email] := by
  rw [registerUser_eq]
  cases hfits : FitsColumns env c payload with
  | false => exact .inl ⟨.data, rfl⟩
  | true =>
    by_cases hemail : env.lower payload.email ∈ s.emails
    · rw [dif_pos hemail]
      exact .inl ⟨.integrity, rfl⟩
    · rw [dif_neg hemail]
      refine .inr ⟨_, rfl, ?_⟩
      rw [AuthStore.emails, withClientRole_users]
      exact List.map_append

/-- The other calls leave the addresses as they are. -/
theorem AuthEffect.emails (h : AuthEffect env c s op s' answer)
    (hop : ∀ payload, op ≠ .registerUser payload) : s'.emails = s.emails := by
  have hadd : ∀ {t : AuthStore} {row}, t.addRefreshToken row = .ok s' → s'.emails = t.emails := by
    intro t row h
    obtain ⟨_, rfl⟩ := AuthStore.addRefreshToken_eq_ok.mp h
    rfl
  cases h with
  | failed => rfl
  | registered => exact absurd rfl (hop _)
  | loggedIn _ h => exact hadd h
  | expired => rfl
  | rotated _ h => exact (hadd h).trans rfl
  | loggedOut => rfl
  | resetRequested h =>
    rcases requestPasswordReset_eq_ok h with rfl | ⟨_, _, _, _, rfl⟩
    · rfl
    · rfl
  | @reset _ d =>
    have hmodify : (s.users.modify d.userId (Account.setPassword d.passwordHash)
        (Account.setPassword_key d.passwordHash)).rows.map (fun user => user.email) = s.emails :=
      Table.map_modify (Account.setPassword_email d.passwordHash)
    exact hmodify

/-- One call adds the address that it registers. -/
theorem emails_authStep (env : SessionEnv τ) (s : AuthStore) (e : AuthEvent) :
    (authStep env s e).emails = s.emails ++ (e.registers env s).toList := by
  by_cases hop : ∃ payload, e.op = .registerUser payload
  · obtain ⟨c, _⟩ := e
    obtain ⟨payload, rfl⟩ := hop
    rcases emails_registerUser env c s payload with ⟨error, h⟩ | ⟨r, h, hemails⟩
    · simp [authStep, AuthEvent.registers, AuthEvent.answer, authExec, h, rolledBack]
    · simp [authStep, AuthEvent.registers, AuthEvent.answer, authExec, h, rolledBack, hemails]
  · have hnone : e.registers env s = none := by
      unfold AuthEvent.registers
      split
      next payload _ hregister _ => exact absurd ⟨payload, hregister⟩ hop
      next => rfl
    rw [(authStep_effect env s e).emails (not_exists.mp hop), hnone, Option.toList_none,
      List.append_nil]

theorem emails_authReplay (env : SessionEnv τ) (s : AuthStore) (es : List AuthEvent) :
    (authReplay env s es).emails = s.emails ++ registeredEmails env s es := by
  induction es generalizing s with
  | nil => simp [authReplay, registeredEmails]
  | cons e es ih =>
    rw [registeredEmails, ← List.append_assoc, ← emails_authStep]
    exact ih (authStep env s e)

/-- **The addresses after a run** are those of its start and those that were registered since. -/
theorem emails_run (h : Run (AuthStep env) x es y) :
    y.store.emails = x.store.emails ++ registeredEmails env x.store es := by
  rw [authRun_store h]
  exact emails_authReplay env x.store es

/-- **Registrations end as they should** when their address is new to the store, since its start and
all that was registered since, and their values fit. -/
theorem clean_registration_iff (h : Run (AuthStep env) x es y) (c : AuthCall)
    (payload : RegisterRequest) :
    RegistersCleanly env c y.store payload ↔
      (env.lower payload.email ∉ x.store.emails ∧
        env.lower payload.email ∉ registeredEmails env x.store es) ∧
      FitsColumns env c payload = true := by
  rw [registersCleanly_iff, emails_run h, List.mem_append, not_or]

/-- A registration under the given address. -/
def registration (email : String) : RegisterRequest :=
  ⟨email, "first-password", by decide, "Bob", by decide, none⟩

/-- The small store, and a registration after it. -/
def registeredAuth : AuthStore :=
  authReplay .plain smallAuth [⟨.plain 0 "", .registerUser (registration "Bob@b.c")⟩]

theorem new_address_registers_cleanly :
    RegistersCleanly .plain (.plain 1 "") registeredAuth (registration "Eve@b.c") :=
  have horder : AuthInOrder 0 [⟨.plain 0 "", .registerUser (registration "Bob@b.c")⟩] := by decide
  have hrun : Run (AuthStep .plain) ⟨0, smallAuth⟩
      [⟨.plain 0 "", .registerUser (registration "Bob@b.c")⟩] ⟨0, registeredAuth⟩ :=
    horder.run smallAuth
  (clean_registration_iff hrun (.plain 1 "") (registration "Eve@b.c")).mpr (by decide)

/-- **The error of the database escapes** when an address is registered again in other letters. -/
theorem repeated_registration_escapes :
    (inSession registeredAuth
      (registerUserInSession .plain (.plain 1 "") (registration "BOB@b.c"))).2 =
        .error .integrity ∧
      ¬RegistersCleanly .plain (.plain 1 "") registeredAuth (registration "BOB@b.c") := by
  have hemail : SessionEnv.plain.lower (registration "BOB@b.c").email ∈ registeredAuth.emails := by
    decide
  refine ⟨by decide, fun h => ?_⟩
  exact (registersCleanly_iff.mp h).1 hemail

end Coworking
