import Coworking.Foundation.Transcript
import Coworking.System.AuthOperation

/-!
# Who Has an Account

Whoever does not know a user's password and has none of the user's tokens can still log in under
the address, ask for a reset and try tokens out.  What they are answered is compared with what a
store in which the user has never been would answer.

- `AuthStore.without`: the store without anything of the user;
- `checkLogin_without`, `checkRefresh_without`, …: reading past the user;
- `authExec_without`: a call by an outsider commutes with leaving the user out, unless it asks for
  a reset of the user's password;
- `unnoticed_iff`: when the answers to an outsider's calls do not depend on the user.
-/

namespace Coworking

open Foundation

variable {τ : Type} {env : SessionEnv τ} {c : AuthCall} {s : AuthStore} {v userId : Uuid}
  {email : String}

/-! ## §1 A store without a user -/

/-- The store as it would be without the user. -/
def AuthStore.without (s : AuthStore) (v : Uuid) : AuthStore where
  users := s.users.filter (·.id ≠ v)
  roles := s.roles
  userRoleAssignments := s.userRoleAssignments.filter (·.userId ≠ v)
  refreshTokens := s.refreshTokens.filter (·.userId ≠ v)
  passwordResetTokens := s.passwordResetTokens.filter (·.userId ≠ v)
  notifications := s.notifications.filter (·.userId ≠ v)
  emailsNodup := s.emailsNodup.sublist (List.filter_sublist.map _)

theorem filter_eq_of_forall {α : Type} {p : α → Bool} {o : Option α} (h : ∀ a ∈ o, p a) :
    o.filter p = o := by
  cases o with
  | none => rfl
  | some a => exact Option.filter_some_pos (h a rfl)

-- No second account has the address, so nobody else is found in the user's place.
theorem without_userByEmail? :
    (s.without v).userByEmail? email = (s.userByEmail? email).filter (·.id ≠ v) :=
  Table.find?_filter_of_unique fun _ ha _ hb hka hkb =>
    List.inj_on_of_nodup_map s.emailsNodup ha hb
      ((of_decide_eq_true hka).trans (of_decide_eq_true hkb).symm)

theorem without_user? (h : userId ≠ v) : (s.without v).users.get? userId = s.users.get? userId := by
  refine (Table.get?_filter userId).trans (filter_eq_of_forall fun user huser => ?_)
  have hid : user.id = userId := Table.key_of_get? huser
  simpa [hid] using h

theorem without_liveRefreshToken? {k : String} :
    (s.without v).liveRefreshToken? k = (s.liveRefreshToken? k).filter (·.userId ≠ v) := by
  rw [AuthStore.liveRefreshToken?, AuthStore.liveRefreshToken?, AuthStore.without,
    Table.get?_filter, Option.filter_filter, Option.filter_filter]
  simp only [Bool.and_comm]

theorem without_unusedResetToken? {k : String} :
    (s.without v).unusedResetToken? k = (s.unusedResetToken? k).filter (·.userId ≠ v) := by
  rw [AuthStore.unusedResetToken?, AuthStore.unusedResetToken?, AuthStore.without,
    Table.get?_filter, Option.filter_filter, Option.filter_filter]
  simp only [Bool.and_comm]

theorem without_sessionsOf (h : userId ≠ v) :
    (s.without v).sessionsOf userId = s.sessionsOf userId := by
  unfold AuthStore.sessionsOf AuthStore.without Table.filter
  rw [List.filter_filter]
  congr 1
  apply List.filter_congr
  intro row _
  by_cases hid : row.userId = userId
  · simp [hid, h]
  · simp [hid]

theorem without_roleRows (h : userId ≠ v) :
    roleRows (s.without v).accounts userId = roleRows s.accounts userId := by
  unfold roleRows
  congr 1
  show List.filter _ (List.filter _ _) = _
  rw [List.filter_filter]
  apply List.filter_congr
  intro assignment _
  by_cases hid : assignment.userId = userId
  · simp [hid, h]
  · simp [hid]

/-- A session of somebody else. -/
theorem without_issueSession {n : Nat} {user : Account} {deviceInfo : Option DeviceInfo}
    (h : user.id ≠ v) :
    issueSession env c n (s.without v) user deviceInfo =
      issueSession env c n s user deviceInfo := by
  have hrows : roleRows (s.without v).accounts user.toUser.id =
      roleRows s.accounts user.toUser.id := without_roleRows h
  rw [issueSession, issueSession, issueSessionTokens, issueSessionTokens, hrows]

/-! ## §2 Reading past the user -/

theorem checkLogin_without {payload : LoginRequest}
    (h : ∀ user ∈ s.userByEmail? (env.lower payload.email),
      env.verifyPassword payload.password user.passwordHash → user.id ≠ v) :
    checkLogin env c (s.without v) payload = checkLogin env c s payload := by
  unfold checkLogin
  rw [without_userByEmail?]
  cases hfound : s.userByEmail? (env.lower payload.email) with
  | none => rfl
  | some user =>
    by_cases hpassword : env.verifyPassword payload.password user.passwordHash
    · have hid : user.id ≠ v := h user hfound hpassword
      have hkept : (some user).filter (fun user : Account => decide (user.id ≠ v)) = some user :=
        Option.filter_some_pos (decide_eq_true hid)
      rw [hkept, Option.filter_some, if_pos hpassword]
      simp only [found, ok_bind, without_issueSession hid]
    · -- With another password an account is as good as none.
      rw [Option.filter_filter, Option.filter_some_neg (by simp [hpassword]),
        Option.filter_some_neg (by simpa using hpassword)]
      rfl

theorem checkRefresh_without {token : String}
    (h : ∀ row ∈ s.liveRefreshToken? (env.hashToken token), row.userId ≠ v) :
    checkRefresh env c (s.without v) token = checkRefresh env c s token := by
  unfold checkRefresh
  rw [without_liveRefreshToken?, filter_eq_of_forall fun row hrow => decide_eq_true (h row hrow)]
  cases hlive : s.liveRefreshToken? (env.hashToken token) with
  | none => rfl
  | some row =>
    have hrow : row.userId ≠ v := h row hlive
    simp only [found, ok_bind, without_user? hrow]
    split
    · rfl
    · cases huser : s.users.get? row.userId with
      | none => rfl
      | some user =>
        have hid : user.id ≠ v := fun he => hrow ((Table.key_of_get? huser).symm.trans he)
        simp only [ok_bind, without_issueSession hid]

theorem checkLogout_without {token : String}
    (h : ∀ row ∈ s.liveRefreshToken? (env.hashToken token), row.userId ≠ v) :
    checkLogout env c (s.without v) token = checkLogout env c s token := by
  unfold checkLogout
  rw [without_liveRefreshToken?, filter_eq_of_forall fun row hrow => decide_eq_true (h row hrow)]

theorem checkReset_without {payload : ResetPasswordRequest}
    (h : ∀ row ∈ s.unusedResetToken? (env.hashToken payload.token), row.userId ≠ v) :
    checkReset env c (s.without v) payload = checkReset env c s payload := by
  unfold checkReset
  rw [without_unusedResetToken?, filter_eq_of_forall fun row hrow => decide_eq_true (h row hrow)]
  cases hunused : s.unusedResetToken? (env.hashToken payload.token) with
  | none => rfl
  | some row =>
    have hrow : row.userId ≠ v := h row hunused
    rw [Option.filter_some]
    split
    · simp only [found, ok_bind, without_user? hrow]
      cases huser : s.users.get? row.userId with
      | none => rfl
      | some user =>
        have hid : user.id ≠ v := fun he => hrow ((Table.key_of_get? huser).symm.trans he)
        by_cases hactive : user.status = .active
        · rw [Option.filter_some, if_pos (decide_eq_true hactive)]
          simp only [ok_bind, without_sessionsOf hid]
        · rw [Option.filter_some, if_neg (by simpa using hactive)]
          rfl
    · rfl

/-! ## §3 Writing past the user -/

theorem without_addRefreshToken (row : RefreshToken) (huser : row.userId ≠ v)
    (hnew : row.tokenHash ∉ s.refreshTokens.keys) : ∃ s', s.addRefreshToken row = .ok s' ∧
      (s.without v).addRefreshToken row = .ok (s'.without v) := by
  refine ⟨_, dif_neg hnew, (dif_neg (Table.notMem_keys_filter hnew)).trans ?_⟩
  have hinsert : (s.refreshTokens.insert row hnew).filter (fun r => decide (r.userId ≠ v)) = _ :=
    Table.filter_insert_of_pos (decide_eq_true huser)
  simp only [AuthStore.without, hinsert]

theorem without_addResetToken (row : PasswordResetToken) (huser : row.userId ≠ v)
    (hnew : row.tokenHash ∉ s.passwordResetTokens.keys) : ∃ s', s.addResetToken row = .ok s' ∧
      (s.without v).addResetToken row = .ok (s'.without v) := by
  refine ⟨_, dif_neg hnew, (dif_neg (Table.notMem_keys_filter hnew)).trans ?_⟩
  have hinsert : (s.passwordResetTokens.insert row hnew).filter (fun r => decide (r.userId ≠ v)) =
      _ := Table.filter_insert_of_pos (decide_eq_true huser)
  simp only [AuthStore.without, hinsert]

theorem without_revokeRefreshTokens (hashes : List String) (now : Instant) :
    (s.revokeRefreshTokens hashes now).without v =
      (s.without v).revokeRefreshTokens hashes now := by
  have hrows : (s.refreshTokens.mapRows (RefreshToken.revoke hashes now)
      (RefreshToken.revoke_key hashes now)).filter (fun r => decide (r.userId ≠ v)) = _ :=
    Table.filter_mapRows fun row => by rw [RefreshToken.revoke_userId]
  simp only [AuthStore.without, AuthStore.revokeRefreshTokens, hrows]

theorem without_addNotification (now : Instant) {templateCode : String}
    {payload : List (String × PayloadValue)} (h : userId ≠ v) :
    (s.addNotification now userId templateCode payload).without v =
      (s.without v).addNotification now userId templateCode payload := by
  simp [AuthStore.without, AuthStore.addNotification, h]

theorem without_commitReset (later : Instant) {d : ResetDraft} (h : d.userId ≠ v) :
    (commitReset later s d).without v = commitReset later (s.without v) d := by
  have husers : (s.users.modify d.userId (Account.setPassword d.passwordHash)
      (Account.setPassword_key d.passwordHash)).filter (fun r => decide (r.id ≠ v)) = _ :=
    Table.filter_modify fun _ => rfl
  have htokens : (s.passwordResetTokens.modify d.tokenHash (PasswordResetToken.use d.now)
      (PasswordResetToken.use_key d.now)).filter (fun r => decide (r.userId ≠ v)) = _ :=
    Table.filter_modify fun _ => rfl
  rw [commitReset, without_addNotification later h, without_revokeRefreshTokens]
  simp only [commitReset, AuthStore.setPassword, AuthStore.useResetToken, AuthStore.without, husers,
    htokens]

/-- Everything that is written about the user is left out. -/
theorem without_addResetToken_self (row : PasswordResetToken) (huser : row.userId = v)
    (hnew : row.tokenHash ∉ s.passwordResetTokens.keys) : ∃ s', s.addResetToken row = .ok s' ∧
      s'.without v = s.without v := by
  refine ⟨_, dif_neg hnew, ?_⟩
  have hinsert : (s.passwordResetTokens.insert row hnew).filter (fun r => decide (r.userId ≠ v)) =
      _ := Table.filter_insert_of_neg (by simp [huser])
  simp only [AuthStore.without, hinsert]

theorem without_addNotification_self (now : Instant) {templateCode : String}
    {payload : List (String × PayloadValue)} :
    (s.addNotification now v templateCode payload).without v = s.without v := by
  simp [AuthStore.without, AuthStore.addNotification]

/-! ## §4 Calls -/

/-- The call is made by somebody who has nothing of the user's; the token drawn for it is new. -/
def Outside (env : SessionEnv τ) (v : Uuid) (s : AuthStore) (e : AuthEvent) : Prop :=
  (env.hashToken e.call.secret ∉ s.refreshTokens.keys ∧
    env.hashToken e.call.secret ∉ s.passwordResetTokens.keys) ∧
  match e.op with
  -- A registration answers whether an address is in use.
  | .registerUser _ => False
  | .loginUser payload => ∀ user ∈ s.userByEmail? (env.lower payload.email),
      env.verifyPassword payload.password user.passwordHash → user.id ≠ v
  | .refreshUserSession refreshToken | .logoutUserSession refreshToken =>
    ∀ row ∈ s.liveRefreshToken? (env.hashToken refreshToken), row.userId ≠ v
  | .requestPasswordReset _ => True
  | .resetPassword payload =>
    ∀ row ∈ s.unusedResetToken? (env.hashToken payload.token), row.userId ≠ v

/-- The call asks for a reset of the password of the address. -/
def AsksReset (env : SessionEnv τ) (email : String) (e : AuthEvent) : Prop :=
  ∃ address, e.op = .requestPasswordReset address ∧ env.lower address = email

/-- The user has an account that can be used, under the address. -/
def Enrolled (v : Uuid) (email : String) (s : AuthStore) : Prop :=
  ∃ user ∈ s.users, user.id = v ∧ user.email = email ∧ user.status = .active

theorem Enrolled.userByEmail? (h : Enrolled v email s) :
    ∃ user, s.userByEmail? email = some user ∧ user.id = v ∧ user.status = .active := by
  obtain ⟨user, huser, hid, hemail, hactive⟩ := h
  cases hfound : s.userByEmail? email with
  | none =>
    have hnone := List.find?_eq_none.mp hfound user huser
    simp [hemail] at hnone
  | some found =>
    have hfoundEmail : found.email = email := by simpa using List.find?_some hfound
    obtain rfl : found = user := List.inj_on_of_nodup_map s.emailsNodup
      (List.mem_of_find?_eq_some hfound) huser (hfoundEmail.trans hemail.symm)
    exact ⟨found, rfl, hid, hactive⟩

/-- A reset that is asked for another address is not for the user. -/
theorem Enrolled.other {user : Account} (h : Enrolled v email s) {address : String}
    (haddress : address ≠ email) (hfound : s.userByEmail? address = some user) : user.id ≠ v := by
  intro hid
  obtain ⟨enrolled, henrolled, henrolledId, hemail, -⟩ := h
  obtain rfl : user = enrolled := Table.key_injective (List.mem_of_find?_eq_some hfound) henrolled
    (hid.trans henrolledId.symm)
  have huserEmail : user.email = address := by simpa using List.find?_some hfound
  exact haddress (huserEmail.symm.trans hemail)

/-- **A call without the user.**  It leaves and answers what it would leave and answer if the user
had never been there. -/
theorem authExec_without {e : AuthEvent} (h : Outside env v s e) (hknown : Enrolled v email s)
    (hreset : ¬ AsksReset env email e) :
    authExec env e.call (s.without v) e.op =
      Prod.map (·.without v) id (authExec env e.call s e.op) := by
  obtain ⟨c, op⟩ := e
  obtain ⟨⟨hrefreshNew, hresetNew⟩, h⟩ := h
  cases op with
  | registerUser payload => exact h.elim
  | loginUser payload =>
    rw [authExec, authExec, loginUser, loginUser, checkLogin_without h]
    cases hlogin : checkLogin env c s payload with
    | error err => rfl
    | ok issued =>
      -- Whoever has logged in is somebody else, and the new session is kept.
      obtain ⟨user, hfound, hpassword, -, rfl⟩ := checkLogin_eq_ok.mp hlogin
      obtain ⟨s', hs', hwithout⟩ := without_addRefreshToken (s := s)
        (issueSession env c 0 s user none).2 (h user hfound hpassword) hrefreshNew
      simp only [ok_bind, hs', hwithout]
      rfl
  | refreshUserSession refreshToken =>
    rw [authExec, authExec, refreshUserSession, refreshUserSession, checkRefresh_without h]
    cases hrefresh : checkRefresh env c s refreshToken with
    | error err => rfl
    | ok d =>
      cases d with
      | expired tokenHash now =>
        -- The answer is an error, but the token is revoked and that is committed.
        simp only [commitRefresh, ← without_revokeRefreshTokens]
        rfl
      | rotate tokenHash now response row =>
        obtain ⟨record, user, hrecord, hlive, -, huser, -, -, -, rfl⟩ :=
          checkRefresh_rotates hrefresh
        have hid : user.id ≠ v := fun he => h record
          (AuthStore.liveRefreshToken?_eq_some.mpr ⟨hrecord, hlive⟩)
          ((Table.key_of_get? huser).symm.trans he)
        -- Revoking a token does not free its hash.
        have hnew : env.hashToken c.secret ∉
            (s.revokeRefreshTokens [tokenHash] now).refreshTokens.keys := by
          rw [← Table.get?_eq_none] at hrefreshNew ⊢
          rw [AuthStore.revokeRefreshTokens, Table.get?_mapRows, hrefreshNew, Option.map_none]
        obtain ⟨s', hs', hwithout⟩ := without_addRefreshToken
          (issueSession env c 1 s user record.deviceInfo).2 hid hnew
        simp only [commitRefresh, ← without_revokeRefreshTokens, hs', hwithout]
        rfl
  | logoutUserSession refreshToken =>
    rw [authExec, authExec, logoutUserSession, logoutUserSession, checkLogout_without h]
    cases hlogout : checkLogout env c s refreshToken with
    | error err => rfl
    | ok record =>
      simp only [ok_bind, ← without_revokeRefreshTokens]
      rfl
  | requestPasswordReset address =>
    rw [authExec, authExec, requestPasswordReset, requestPasswordReset, without_userByEmail?]
    cases hfound : s.userByEmail? (env.lower address) with
    | none => rfl
    | some user =>
      have hid : user.id ≠ v := hknown.other (fun he => hreset ⟨address, rfl, he⟩) hfound
      have hkept : (some user).filter (fun user : Account => decide (user.id ≠ v)) = some user :=
        Option.filter_some_pos (decide_eq_true hid)
      rw [hkept]
      -- An account that is not active is answered like none.
      by_cases hactive : user.status = .active
      · obtain ⟨s', hs', hwithout⟩ := without_addResetToken (s := s)
          (issueResetToken env c user) hid hresetNew
        simp only [Option.filter_some, hactive, decide_true, if_true, hs', hwithout, ok_bind,
          ← without_addNotification _ hid]
        rfl
      · simp only [Option.filter_some, hactive, decide_false, Bool.false_eq_true, if_false]
        rfl
  | resetPassword payload =>
    rw [authExec, authExec, resetPassword, resetPassword, checkReset_without h]
    cases hcheck : checkReset env c s payload with
    | error err => rfl
    | ok d =>
      obtain ⟨row, user, hunused, -, huser, -, rfl⟩ := checkReset_eq_ok.mp hcheck
      simp only [ok_bind]
      rw [← without_commitReset]
      · rfl
      · exact h row hunused

/-- What `forgot-password` says to everybody. -/
def resetMessage : String := "If the account exists, password reset instructions were created."

/-- **Asking for a reset of the user's password.**  It leaves nothing that is not the user's, and
what it answers is what it answers to everybody, with the token outside of production. -/
theorem authExec_asksReset {address : String} (hknown : Enrolled v email s)
    (haddress : env.lower address = email)
    (hnew : env.hashToken c.secret ∉ s.passwordResetTokens.keys) :
    ((authExec env c s (.requestPasswordReset address)).1.without v = s.without v ∧
      (authExec env c s (.requestPasswordReset address)).2 =
        .ok (.message ⟨resetMessage, if env.production then none else some c.secret⟩)) ∧
    authExec env c (s.without v) (.requestPasswordReset address) =
      (s.without v, .ok (.message ⟨resetMessage, none⟩)) := by
  obtain ⟨user, hfound, rfl, hactive⟩ := hknown.userByEmail?
  constructor
  · obtain ⟨s', hs', hwithout⟩ := without_addResetToken_self (s := s)
      (issueResetToken env c user) rfl hnew
    rw [authExec, requestPasswordReset, haddress, hfound]
    simp only [Option.filter_some, hactive, decide_true, if_true, hs', ok_bind]
    exact ⟨(without_addNotification_self _).trans hwithout, rfl⟩
  · rw [authExec, requestPasswordReset, without_userByEmail?, haddress, hfound]
    simp only [Option.filter_some, ne_eq, not_true_eq_false, decide_false, Bool.false_eq_true,
      if_false]
    rfl

/-- Nobody but the user changes the account, and the user no more than the password. -/
theorem Enrolled.effect {op : AuthOp} {s' : AuthStore} {answer : Except AuthError (Answer τ)}
    (h : Enrolled v email s) (heffect : AuthEffect env c s op s' answer) : Enrolled v email s' := by
  obtain ⟨user, huser, hid, hemail, hactive⟩ := h
  have hsame : ∀ s' : AuthStore, s'.users = s.users → Enrolled v email s' := by
    intro s' husers
    exact ⟨user, husers ▸ huser, hid, hemail, hactive⟩
  cases heffect with
  | failed => exact hsame s rfl
  | @registered payload userPublic added hnew hemail' assignments =>
    have husers : ∀ r, r ∈ s.users.insert added hnew ↔ r ∈ s.users ∨ r = added :=
      fun _ => Table.mem_insert
    exact ⟨user, (husers user).mpr (.inl huser), hid, hemail, hactive⟩
  | loggedIn _ hs' =>
    obtain ⟨-, rfl⟩ := AuthStore.addRefreshToken_eq_ok.mp hs'
    exact hsame _ rfl
  | expired => exact hsame _ rfl
  | rotated _ hs' =>
    obtain ⟨-, rfl⟩ := AuthStore.addRefreshToken_eq_ok.mp hs'
    exact hsame _ rfl
  | loggedOut => exact hsame _ rfl
  | resetRequested hr =>
    rcases requestPasswordReset_eq_ok hr with rfl | ⟨_, -, -, -, rfl⟩
    · exact hsame _ rfl
    · exact hsame _ rfl
  | @reset payload d hd =>
    have husers : ∀ r, r ∈ s.users.modify d.userId (Account.setPassword d.passwordHash)
        (Account.setPassword_key d.passwordHash) ↔ _ := fun _ => Table.mem_modify
    refine ⟨_, (husers _).mpr ⟨user, huser, rfl⟩, ?_⟩
    -- Only the password of the account can be another one.
    split
    · exact ⟨hid, hemail, hactive⟩
    · exact ⟨hid, hemail, hactive⟩

/-! ## §5 All calls -/

/-- The auth routes as a machine. -/
def authMachine (env : SessionEnv τ) :
    Machine AuthStore AuthEvent (Except AuthError (Answer τ)) where
  step := authStep env
  answer s e := e.answer env s

/-- **Who has an account does not show.**  Let the calls be made by somebody who does not know the
user's password, has none of the user's tokens and registers nobody.  They are all answered as if
the user had never been there if and only if the service runs in production, or none of them asks
for a reset of the user's password: what gives an account away is the token that is handed out for
development. -/
theorem unnoticed_iff {es : List AuthEvent} (hknown : Enrolled v email s)
    (hes : (authMachine env).Admitted (Outside env v) s es) :
    (authMachine env).transcript s es = (authMachine env).transcript (s.without v) es ↔
      env.production = true ∨ ∀ e ∈ es, ¬ AsksReset env email e := by
  rw [Machine.transcript_eq_iff (R := fun s t => t = s.without v ∧ Enrolled v email s)
    (fun e => env.production = true ∨ ¬ AsksReset env email e) ?_ ?_ ⟨rfl, hknown⟩ hes]
  · -- Whether it is production does not depend on the call.
    by_cases hproduction : env.production = true
    · simp [hproduction]
    · simp [hproduction]
  · -- The store without the user stays the store without the user.
    rintro s _ e ⟨rfl, hknown⟩ he
    refine ⟨?_, hknown.effect (authStep_effect env s e)⟩
    by_cases hasks : AsksReset env email e
    · obtain ⟨c, op⟩ := e
      obtain ⟨address, hop, haddress⟩ := hasks
      obtain rfl : op = .requestPasswordReset address := hop
      obtain ⟨⟨hself, -⟩, hwithout⟩ := authExec_asksReset hknown haddress he.1.2
      exact (congrArg Prod.fst hwithout).trans hself.symm
    · exact congrArg Prod.fst (authExec_without he hknown hasks)
  · rintro s _ e ⟨rfl, hknown⟩ he
    show (authExec env e.call s e.op).2 = (authExec env e.call (s.without v) e.op).2 ↔ _
    by_cases hasks : AsksReset env email e
    · rw [or_iff_left (not_not.mpr hasks)]
      obtain ⟨c, op⟩ := e
      obtain ⟨address, hop, haddress⟩ := hasks
      obtain rfl : op = .requestPasswordReset address := hop
      obtain ⟨⟨-, hanswer⟩, hwithout⟩ := authExec_asksReset hknown haddress he.1.2
      -- The two answers differ in the token.
      rw [hanswer, hwithout]
      by_cases hproduction : env.production = true
      · simp [hproduction]
      · simp [hproduction]
    · rw [authExec_without he hknown hasks]
      simp [hasks]

/-- A guess at the password, and a request for a reset. -/
def enquiry : List AuthEvent :=
  [⟨.plain 1 "refresh-token-01", .loginUser ⟨"a@b.c", "no-password", by decide⟩⟩,
    smallReset "reset-token-0001"]

/-- The token in the second answer shows that there is somebody. -/
theorem unnoticed_iff_enquiry :
    (authMachine .plain).transcript smallAuth enquiry ≠
      (authMachine .plain).transcript (smallAuth.without 7) enquiry := by
  have hknown : Enrolled 7 "a@b.c" smallAuth :=
    ⟨smallAccount, List.mem_singleton_self _, rfl, rfl, rfl⟩
  have hes : (authMachine .plain).Admitted (Outside .plain 7) smallAuth enquiry := by
    refine ⟨⟨⟨by decide, by decide⟩, fun user huser hpassword => ?_⟩,
      ⟨⟨by decide, by decide⟩, trivial⟩, trivial⟩
    obtain rfl : smallAccount = user := Option.some.inj huser
    exact absurd hpassword (by decide)
  intro hsame
  rcases (unnoticed_iff hknown hes).mp hsame with hproduction | hnever
  · exact absurd hproduction (by decide)
  · exact hnever _ (List.mem_cons_of_mem _ (List.mem_singleton_self _)) ⟨"a@b.c", rfl, by decide⟩

end Coworking
