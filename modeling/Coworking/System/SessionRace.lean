import Coworking.Foundation.Interleaving
import Coworking.System.Sessions

/-!
# Sessions that Race

Logins, refreshes, logouts and resets run against each other.  No row is locked: a request reads
the committed rows and, any time later, revokes what it has read and adds what it has drawn, be
that still what the table says or not.

- `authRequests`: the protocol, assembled from the `check…` and `commit…` halves;
- `AuthStep.run_request`: a serial call is a request that nobody interrupts;
- `TokenCommit`, `AuthCommits.change`: what a commit does to the refresh tokens;
- `token_spent_once`: rotations when each refresh finds its token as it read it;
- `sessions_end_at_reset`: resets when each reset has read all there is to revoke;
- `token_spent_twice`, `session_survives_reset`: what happens otherwise.
-/

namespace Coworking

open Foundation

/-! ## §1 Requests -/

inductive AuthRequestBody
  | loginUser (payload : LoginRequest)
  | refreshUserSession (refreshToken : String)
  | logoutUserSession (refreshToken : String)
  | resetPassword (payload : ResetPasswordRequest)

structure AuthRequest where
  call : AuthCall
  body : AuthRequestBody

/-- The same request as a serial call. -/
def AuthRequestBody.op : AuthRequestBody → AuthOp
  | .loginUser payload => .loginUser payload
  | .refreshUserSession refreshToken => .refreshUserSession refreshToken
  | .logoutUserSession refreshToken => .logoutUserSession refreshToken
  | .resetPassword payload => .resetPassword payload

variable {τ : Type}

/-- What a request is about to write. -/
inductive AuthDraft (τ : Type)
  | login (issued : LoginResponse τ × RefreshToken)
  | refresh (d : RefreshDraft τ)
  | logout (tokenHash : String) (now : Instant)
  | reset (d : ResetDraft)

/-- The reading half of a request. -/
def AuthRequestBody.check (env : SessionEnv τ) (c : AuthCall) (s : AuthStore) :
    AuthRequestBody → Except AuthError (AuthDraft τ)
  | .loginUser payload => .login <$> checkLogin env c s payload
  | .refreshUserSession refreshToken => .refresh <$> checkRefresh env c s refreshToken
  | .logoutUserSession refreshToken =>
    (fun record => .logout record.tokenHash (c.now 0)) <$> checkLogout env c s refreshToken
  | .resetPassword payload => .reset <$> checkReset env c s payload

/-- The writing half of a request. -/
def AuthDraft.commit (later : Instant) (s : AuthStore) : AuthDraft τ → Except AuthError AuthStore
  | .login issued => s.addRefreshToken issued.2
  | .refresh d => commitRefresh s d
  | .logout tokenHash now => .ok (s.revokeRefreshTokens [tokenHash] now)
  | .reset d => .ok (commitReset later s d)

/-- A request has read `x` and computed `d`. -/
structure AuthReads (env : SessionEnv τ) (x : AuthState) (r : AuthRequest) (d : AuthDraft τ)
    (y : AuthState) : Prop where
  starts : x.now ≤ r.call.now 0
  ends : r.call.now 0 ≤ y.now
  check : r.body.check env r.call x.store = .ok d
  store : y.store = x.store

/-- A request writes what it has computed to the store as it is now; its readings of the clock
are in the past. -/
structure AuthCommits (x : AuthState) (r : AuthRequest) (d : AuthDraft τ) (y : AuthState) :
    Prop where
  now_le : x.now ≤ y.now
  ends : r.call.now 2 ≤ y.now
  commit : d.commit (r.call.now 1) x.store = .ok y.store

/-- The protocol of the session requests. -/
def authRequests (env : SessionEnv τ) : Protocol AuthState AuthRequest (AuthDraft τ) :=
  ⟨AuthReads env, AuthCommits⟩

abbrev AuthTicket (τ : Type) := Ticket AuthState AuthRequest (AuthDraft τ)

abbrev AuthConfig (τ : Type) := Config AuthState AuthRequest (AuthDraft τ)

abbrev AuthMove (τ : Type) := Move AuthState AuthRequest (AuthDraft τ)

variable {env : SessionEnv τ} {c : AuthCall} {s s' : AuthStore} {x y : AuthState}
  {t : AuthTicket τ} {k k' : AuthConfig τ} {m : AuthMove τ} {ms : List (AuthMove τ)}

/-- The store after a commit, which an exception undoes. -/
def committedOr (s : AuthStore) : Except AuthError AuthStore → AuthStore
  | .ok s' => s'
  | .error _ => s

/-- **The two halves make up the call.** -/
theorem authExec_op (body : AuthRequestBody) :
    (authExec env c s body.op).1 =
      committedOr s (body.check env c s >>= AuthDraft.commit (c.now 1) s) := by
  -- Case by case, the service is the two halves under one roll-back.
  cases body with
  | loginUser payload =>
    show (authExec env c s (.loginUser payload)).1 = _
    simp only [authExec, loginUser, AuthRequestBody.check]
    cases checkLogin env c s payload with
    | error => rfl
    | ok issued =>
      show (rolledBack s (Prod.map id _ <$> (s.addRefreshToken issued.2 >>= _))).1 =
        committedOr s (s.addRefreshToken issued.2)
      cases s.addRefreshToken issued.2 <;> rfl
  | refreshUserSession refreshToken =>
    show (authExec env c s (.refreshUserSession refreshToken)).1 = _
    rw [authExec, refreshUserSession, AuthRequestBody.check]
    cases checkRefresh env c s refreshToken with
    | error => rfl
    | ok d =>
      dsimp only
      show _ = committedOr s (commitRefresh s d)
      cases commitRefresh s d <;> rfl
  | logoutUserSession refreshToken =>
    show (authExec env c s (.logoutUserSession refreshToken)).1 = _
    simp only [authExec, logoutUserSession, AuthRequestBody.check]
    cases checkLogout env c s refreshToken <;> rfl
  | resetPassword payload =>
    show (authExec env c s (.resetPassword payload)).1 = _
    simp only [authExec, resetPassword, AuthRequestBody.check]
    cases checkReset env c s payload <;> rfl

/-- **A serial call is a request that nobody interrupts.** -/
theorem AuthStep.run_request {call : AuthCall} {body : AuthRequestBody}
    (h : AuthStep env x ⟨call, body.op⟩ y) (q l : List (AuthTicket τ)) :
    y.store = x.store ∨ ∃ d, Run (authRequests env).Step ⟨x, q, l⟩
      [.read ⟨⟨call, body⟩, x, d⟩, .commit ⟨⟨call, body⟩, x, d⟩]
      ⟨y, q, ⟨⟨call, body⟩, x, d⟩ :: l⟩ := by
  have hstore : y.store = _ := h.store.trans (authExec_op body)
  -- A call that fails in either half leaves no trace; any other is a read and then a commit.
  cases hd : body.check env call x.store with
  | error err =>
    rw [hd] at hstore
    exact .inl hstore
  | ok d =>
    rw [hd] at hstore
    have hcommitted : y.store = committedOr x.store (d.commit (call.now 1) x.store) := hstore
    cases hs' : d.commit (call.now 1) x.store with
    | error err =>
      rw [hs'] at hcommitted
      exact .inl hcommitted
    | ok s' =>
      rw [hs'] at hcommitted
      have hy : y.store = s' := hcommitted
      have hread : (authRequests env).reads x ⟨call, body⟩ d ⟨call.now 0, x.store⟩ :=
        ⟨h.starts, le_rfl, hd, rfl⟩
      have hcommit : (authRequests env).commits ⟨call.now 0, x.store⟩ ⟨call, body⟩ d y :=
        ⟨(call.now_mono (Nat.zero_le 2)).trans h.ends, h.ends, hy ▸ hs'⟩
      exact .inr ⟨d, Protocol.run_atomic q l hread hcommit⟩

/-! ## §2 What lasts from a read to the present -/

/-- No refresh token is gone or has another owner. -/
def KeepsTokens (x y : AuthState) : Prop :=
  ∀ k row, x.store.refreshTokens.get? k = some row →
    ∃ row', y.store.refreshTokens.get? k = some row' ∧ row'.userId = row.userId

theorem KeepsTokens.refl (x : AuthState) : KeepsTokens x x := fun _ row h => ⟨row, h, rfl⟩

theorem KeepsTokens.trans {x y z : AuthState} (h₁ : KeepsTokens x y) (h₂ : KeepsTokens y z) :
    KeepsTokens x z := by
  intro k row hget
  obtain ⟨row', hget', huser⟩ := h₁ k row hget
  obtain ⟨row'', hget'', huser'⟩ := h₂ k row' hget'
  exact ⟨row'', hget'', huser'.trans huser⟩

theorem KeepsTokens.of_store (h : y.store = x.store) : KeepsTokens x y :=
  fun _ row hget => ⟨row, h ▸ hget, rfl⟩

theorem Turns.keepsTokens {revoked : List String} {now : Instant} {added : Option RefreshToken}
    (h : Turns x.store.refreshTokens revoked now added y.store.refreshTokens) : KeepsTokens x y :=
  fun _ row hget => ⟨_, h.get?_of_some hget, row.revoke_userId revoked now⟩

/-- What a commit does to the refresh tokens. -/
theorem AuthDraft.commit_turns {d : AuthDraft τ} {later : Instant}
    (h : d.commit later s = .ok s') :
    ∃ revoked now added, Turns s.refreshTokens revoked now added s'.refreshTokens := by
  cases d with
  | login issued => exact ⟨[], later, _, (Turns.refl s.refreshTokens _).add h⟩
  | refresh d =>
    cases d with
    | expired tokenHash now =>
      obtain rfl := Except.ok.inj h
      exact ⟨_, _, _, turns_revokeRefreshTokens s _ _⟩
    | rotate tokenHash now response row =>
      exact ⟨_, _, _, (turns_revokeRefreshTokens s _ _).add h⟩
  | logout tokenHash now =>
    obtain rfl := Except.ok.inj h
    exact ⟨_, _, _, turns_revokeRefreshTokens s _ _⟩
  | reset d =>
    obtain rfl := Except.ok.inj h
    exact ⟨_, _, _, turns_revokeRefreshTokens s _ _⟩

theorem AuthCommits.keepsTokens {r : AuthRequest} {d : AuthDraft τ} (h : AuthCommits x r d y) :
    KeepsTokens x y := by
  obtain ⟨revoked, now, added, hturns⟩ := AuthDraft.commit_turns h.commit
  exact hturns.keepsTokens

/-- A ticket whose rows are still there. -/
abbrev StandingAuth (env : SessionEnv τ) (t : AuthTicket τ) (x : AuthState) : Prop :=
  (authRequests env).Standing KeepsTokens t x

theorem StandingAuth.check (h : StandingAuth env t x) :
    t.request.body.check env t.request.call t.seen.store = .ok t.plan := by
  obtain ⟨s₀, hread, -⟩ := h
  exact hread.check

theorem StandingAuth.keepsTokens (h : StandingAuth env t x) : KeepsTokens t.seen x := by
  obtain ⟨s₀, hread, hlater⟩ := h
  exact (KeepsTokens.of_store hread.store).trans hlater

theorem standingAuth_step (h : (authRequests env).AllStanding KeepsTokens k)
    (hstep : (authRequests env).Step k m k') : (authRequests env).AllStanding KeepsTokens k' :=
  Protocol.allStanding_step KeepsTokens.refl (fun _ _ _ => KeepsTokens.trans)
    (fun _ _ _ _ hread => .of_store hread.store) (fun _ _ _ _ hcommit => hcommit.keepsTokens)
    h hstep

/-! ## §3 What a commit does -/

/-- The hash a refresh presented and the hash it drew. -/
def rotationOf (env : SessionEnv τ) (t : AuthTicket τ) : Option (String × String) :=
  match t.request.body, t.plan with
  | .refreshUserSession refreshToken, .refresh (.rotate _ _ _ row) =>
    some (env.hashToken refreshToken, row.tokenHash)
  | _, _ => none

/-- The rotations that have committed, latest first. -/
def committedRotations (env : SessionEnv τ) (k : AuthConfig τ) : List (String × String) :=
  k.committed.filterMap (rotationOf env)

/-- What the commit of a request does to the refresh tokens. -/
inductive TokenCommit (env : SessionEnv τ) (t : AuthTicket τ) (s s' : AuthStore) : Prop
  | opened {now : Instant} {row : RefreshToken} :
      rotationOf env t = none → Turns s.refreshTokens [] now (some row) s'.refreshTokens →
      TokenCommit env t s s'
  | rotated {a : String} {now : Instant} {record row : RefreshToken} :
      rotationOf env t = some (a, row.tokenHash) →
      t.seen.store.refreshTokens.get? a = some record → row.userId = record.userId →
      Turns s.refreshTokens [a] now (some row) s'.refreshTokens → TokenCommit env t s s'
  | closed {revoked : List String} {now : Instant} :
      rotationOf env t = none → Turns s.refreshTokens revoked now none s'.refreshTokens →
      TokenCommit env t s s'

/-- **Inversion of a commit.** -/
theorem AuthCommits.change (ht : StandingAuth env t x)
    (hcommit : AuthCommits x t.request t.plan y) : TokenCommit env t x.store y.store := by
  obtain ⟨⟨call, body⟩, seen, plan⟩ := t
  have hcheck : body.check env call seen.store = .ok plan := ht.check
  have hwrite : plan.commit (call.now 1) x.store = .ok y.store := hcommit.commit
  cases body with
  | loginUser payload =>
    obtain ⟨issued, -, rfl⟩ := (map_eq_ok _ _ _).mp hcheck
    exact .opened rfl ((Turns.refl x.store.refreshTokens (call.now 1)).add hwrite)
  | refreshUserSession refreshToken =>
    obtain ⟨d, hd, rfl⟩ := (map_eq_ok _ _ _).mp hcheck
    obtain ⟨record, hrecord, ⟨-, rfl⟩ | ⟨-, user, huser, -, rfl⟩⟩ := checkRefresh_eq_ok.mp hd
    · have hy := Except.ok.inj hwrite
      exact .closed rfl (hy ▸ turns_revokeRefreshTokens x.store _ _)
    · obtain ⟨hget, -⟩ := AuthStore.liveRefreshToken?_eq_some.mp hrecord
      -- The new row is for the user that was loaded for the old one.
      have howner : user.id = record.userId := Table.key_of_get? huser
      exact .rotated rfl hget howner ((turns_revokeRefreshTokens x.store _ _).add hwrite)
  | logoutUserSession refreshToken =>
    obtain ⟨record, -, rfl⟩ := (map_eq_ok _ _ _).mp hcheck
    have hy := Except.ok.inj hwrite
    exact .closed rfl (hy ▸ turns_revokeRefreshTokens x.store _ _)
  | resetPassword payload =>
    obtain ⟨d, hd, rfl⟩ := (map_eq_ok _ _ _).mp hcheck
    have hy := Except.ok.inj hwrite
    exact .closed rfl (hy ▸ turns_commitReset _ x.store d)

/-- A reset revokes what it has read. -/
theorem AuthCommits.reset_turns {r : AuthRequest} {d : ResetDraft}
    (h : AuthCommits (τ := τ) x r (.reset d) y) :
    Turns x.store.refreshTokens d.sessions d.now none y.store.refreshTokens := by
  have hy : commitReset (r.call.now 1) x.store d = y.store := Except.ok.inj h.commit
  exact hy ▸ turns_commitReset _ x.store d

/-! ## §4 A token is spent once -/

/-- A refresh that commits finds the token it presented unrevoked. -/
def CommitsLive (env : SessionEnv τ) (k : AuthConfig τ) (m : AuthMove τ) : Prop :=
  ∀ t a b, m = .commit t → rotationOf env t = some (a, b) → k.shared.store.Unrevoked a

/-- No two refreshes that succeeded presented one token, and no chain of rotations has two
unrevoked tokens. -/
structure SpentOnce (env : SessionEnv τ) (k : AuthConfig τ) : Prop where
  once : ((committedRotations env k).map Prod.fst).Nodup
  chain : ∀ root a b, Descends (committedRotations env k) root a →
    Descends (committedRotations env k) root b →
    k.shared.store.Unrevoked a → k.shared.store.Unrevoked b → a = b

/-- What keeps the chains in order: rotated tokens are revoked, and what replaced them is stored. -/
structure Chained (env : SessionEnv τ) (k : AuthConfig τ) : Prop where
  standing : (authRequests env).AllStanding KeepsTokens k
  rotated : Rotated k.shared.store (committedRotations env k)
  known : ∀ a b, (a, b) ∈ committedRotations env k → b ∈ k.shared.store.refreshTokens.keys

theorem chained_start (x : AuthState) : Chained env (.start x) where
  standing := Protocol.allStanding_start x
  rotated := ⟨fun _ _ => nofun, List.nodup_nil⟩
  known := fun _ _ => nofun

theorem Turns.mem_keys {revoked : List String} {now : Instant} {added : Option RefreshToken}
    {a : String} (h : Turns s.refreshTokens revoked now added s'.refreshTokens)
    (ha : a ∈ s.refreshTokens.keys) : a ∈ s'.refreshTokens.keys := by
  obtain ⟨row, hrow, hkey⟩ := Table.mem_keys.mp ha
  have hget := h.get?_of_some (Table.get?_eq_some.mpr ⟨hrow, hkey⟩)
  exact Table.mem_keys.mpr ⟨_, Table.get?_eq_some.mp hget⟩

theorem Turns.mem_keys_added {revoked : List String} {now : Instant} {row : RefreshToken}
    (h : Turns s.refreshTokens revoked now (some row) s'.refreshTokens) :
    row.tokenHash ∈ s'.refreshTokens.keys :=
  Table.mem_keys.mpr ⟨_, Table.get?_eq_some.mp (h.inserted row rfl)⟩

/-- The rotations after a commit that is none. -/
theorem rotations_commit_none {s : AuthState} {q l : List (AuthTicket τ)}
    (h : rotationOf env t = none) :
    committedRotations env ⟨s, q, t :: l⟩ = l.filterMap (rotationOf env) :=
  List.filterMap_cons_none h

/-- The rotations after a commit that is one. -/
theorem rotations_commit_some {s : AuthState} {q l : List (AuthTicket τ)} {p : String × String}
    (h : rotationOf env t = some p) :
    committedRotations env ⟨s, q, t :: l⟩ = p :: l.filterMap (rotationOf env) :=
  List.filterMap_cons_some h

/-- A commit that rotates nothing leaves the chains as they are. -/
theorem Chained.unrotated {q q' l : List (AuthTicket τ)} {revoked : List String} {now : Instant}
    {added : Option RefreshToken} (h : Chained env ⟨x, q, l⟩)
    (hstanding : (authRequests env).AllStanding KeepsTokens ⟨y, q', t :: l⟩)
    (hnone : rotationOf env t = none)
    (hturns : Turns x.store.refreshTokens revoked now added y.store.refreshTokens) :
    Chained env ⟨y, q', t :: l⟩ := by
  refine ⟨hstanding, ?_, ?_⟩
  · rw [rotations_commit_none hnone]
    exact h.rotated.later fun _ => hturns.keeps
  · rw [rotations_commit_none hnone]
    exact fun a b hab => hturns.mem_keys (h.known a b hab)

/-- **One move and the chains.** -/
theorem Chained.step (h : Chained env k)
    (hstep : Guarded (CommitsLive env) (authRequests env).Step k m k') : Chained env k' := by
  obtain ⟨hguard, hstep⟩ := hstep
  have hstanding := standingAuth_step h.standing hstep
  cases hstep with
  | read hread =>
    refine ⟨hstanding, ?_, ?_⟩
    · exact hread.store ▸ h.rotated
    · exact hread.store ▸ h.known
  | abort => exact ⟨hstanding, h.rotated, h.known⟩
  | commit hcommit =>
    cases hcommit.change h.standing.inFlight with
    | opened hnone hturns => exact h.unrotated hstanding hnone hturns
    | closed hnone hturns => exact h.unrotated hstanding hnone hturns
    | rotated hsome _ _ hturns =>
      -- The guard is what makes the new rotation the first one of its token.
      have hlive := hguard _ _ _ rfl hsome
      have ⟨record, hget, _⟩ := hlive
      refine ⟨hstanding, ?_, ?_⟩
      · rw [rotations_commit_some hsome]
        exact h.rotated.cons (fun _ => hturns.keeps) hlive
          (hturns.revoked hget (List.mem_singleton_self _))
      · rw [rotations_commit_some hsome]
        intro a b hab
        rcases List.mem_cons.mp hab with he | hab
        · obtain ⟨rfl, rfl⟩ := Prod.mk.inj he
          exact hturns.mem_keys_added
        · exact hturns.mem_keys (h.known a b hab)

theorem chained_run (h : Chained env k)
    (hrun : Run (Guarded (CommitsLive env) (authRequests env).Step) k ms k') : Chained env k' :=
  hrun.invariant (fun _ _ _ h hstep => h.step hstep) h

/-- **Single use, when nobody is overtaken.**  Let logins, refreshes, logouts and resets interleave
in any way in which each refresh that commits finds the token it presented unrevoked.  Then no two
refreshes of one token succeed, and each chain has at most one unrevoked token. -/
theorem token_spent_once
    (hrun : Run (Guarded (CommitsLive env) (authRequests env).Step) (.start x) ms k) :
    SpentOnce env k := by
  have h := chained_run (chained_start x) hrun
  exact ⟨h.rotated.once, fun root a b => h.rotated.chain_unique⟩

/-! ## §5 A reset ends every session -/

/-- A reset that commits has read every unrevoked token of its user. -/
def CommitsReadAll (k : AuthConfig τ) (m : AuthMove τ) : Prop :=
  ∀ t d, m = .commit t → t.plan = .reset d →
    ∀ a ∈ k.shared.store.sessionsOf d.userId, a ∈ d.sessions

/-- Neither a refresh nor a reset is overtaken. -/
def CommitsCurrent (env : SessionEnv τ) (k : AuthConfig τ) (m : AuthMove τ) : Prop :=
  CommitsLive env k m ∧ CommitsReadAll k m

/-- No unrevoked token of the user comes out of one of the old tokens. -/
def SessionsEnded (env : SessionEnv τ) (old : List String) (userId : Uuid) (k : AuthConfig τ) :
    Prop :=
  ∀ a ∈ old, ∀ b row, Descends (committedRotations env k) a b →
    k.shared.store.refreshTokens.get? b = some row → row.userId = userId → row.revokedAt ≠ none

/-- The old tokens are stored. -/
def Stored (old : List String) (k : AuthConfig τ) : Prop :=
  ∀ a ∈ old, a ∈ k.shared.store.refreshTokens.keys

variable {old : List String} {userId : Uuid}

theorem Chained.descends_mem (h : Chained env k) {a b : String}
    (hd : Descends (committedRotations env k) a b)
    (ha : a ∈ k.shared.store.refreshTokens.keys) : b ∈ k.shared.store.refreshTokens.keys := by
  rcases hd.cases_tail with rfl | ⟨z, -, hz⟩
  · exact ha
  · exact h.known z b hz

/-- Tokens stay stored. -/
theorem Stored.step (h : Stored old k) (hstep : (authRequests env).Step k m k') :
    Stored old k' := by
  cases hstep with
  | read hread =>
    intro a ha
    rw [hread.store]
    exact h a ha
  | abort => exact h
  | commit hcommit =>
    obtain ⟨revoked, now, added, hturns⟩ := AuthDraft.commit_turns hcommit.commit
    exact fun a ha => hturns.mem_keys (h a ha)

/-- Down the chains that were there, a commit brings no token to life. -/
theorem SessionsEnded.later {revoked : List String} {now : Instant} {added : Option RefreshToken}
    {a b : String} {row : RefreshToken} (h : SessionsEnded env old userId k) (hk : Chained env k)
    (hold : Stored old k)
    (hturns : Turns k.shared.store.refreshTokens revoked now added s'.refreshTokens)
    (ha : a ∈ old) (hd : Descends (committedRotations env k) a b)
    (hget : s'.refreshTokens.get? b = some row) (huser : row.userId = userId) :
    row.revokedAt ≠ none := by
  intro hlive
  rcases hturns.unrevoked hget hlive with hnew | ⟨hget, -⟩
  · -- A token that is added is not one that was stored, so it is not in the chain.
    have hkey : row.tokenHash = b := Table.key_of_get? hget
    exact hturns.fresh row hnew (hkey ▸ hk.descends_mem hd (hold a ha))
  · exact h a ha b row hd hget huser hlive

/-- **One move after the reset.** -/
theorem SessionsEnded.step (h : SessionsEnded env old userId k) (hk : Chained env k)
    (hold : Stored old k)
    (hstep : Guarded (CommitsLive env) (authRequests env).Step k m k') :
    SessionsEnded env old userId k' := by
  obtain ⟨hguard, hstep⟩ := hstep
  cases hstep with
  | read hread =>
    intro a ha b row hd hget
    rw [hread.store] at hget
    exact h a ha b row hd hget
  | abort => exact h
  | @commit _ _ _ _ l _ hcommit =>
    intro a ha b row hd hget huser
    cases hcommit.change hk.standing.inFlight with
    | opened hnone hturns =>
      rw [rotations_commit_none hnone] at hd
      exact h.later hk hold hturns ha hd hget huser
    | closed hnone hturns =>
      rw [rotations_commit_none hnone] at hd
      exact h.later hk hold hturns ha hd hget huser
    | @rotated a₀ now record new hsome hseen howner hturns =>
      rw [rotations_commit_some hsome] at hd
      obtain ⟨record', hrecord, hrecordlive⟩ := hguard _ _ _ rfl hsome
      have hfresh := hturns.fresh new rfl
      have hmem : a₀ ∈ _ := Table.mem_keys.mpr ⟨record', Table.get?_eq_some.mp hrecord⟩
      -- The new token has not been rotated, and is not the one that it replaces.
      have hunused : ∀ z, (new.tokenHash, z) ∉ l.filterMap (rotationOf env) := fun z hz => by
        obtain ⟨old, hold, -⟩ := hk.rotated.spent _ _ hz
        exact hfresh (Table.mem_keys.mpr ⟨old, Table.get?_eq_some.mp hold⟩)
      have hne : a₀ ≠ new.tokenHash := fun he => hfresh (he ▸ hmem)
      rcases descends_cons hunused hne hd with hd | ⟨rfl, hfrom⟩
      · exact h.later hk hold hturns ha hd hget huser
      · -- The token that was rotated was unrevoked, so it is not one of the user's old ones.
        obtain rfl : new = row := Option.some.inj ((hturns.inserted new rfl).symm.trans hget)
        have hkeeps := StandingAuth.keepsTokens hk.standing.inFlight
        obtain ⟨record'', hrecord'', hsame⟩ := hkeeps a₀ record hseen
        obtain rfl : record' = record'' := Option.mem_unique hrecord hrecord''
        have hrevoked := h a ha a₀ record' hfrom hrecord (hsame.trans (howner.symm.trans huser))
        exact absurd hrecordlive hrevoked

/-- **Resets end sessions, when nobody is overtaken.**  Let requests interleave in any way in which
each refresh that commits finds the token it presented unrevoked, and each reset has read every
unrevoked token of its user.  Once a reset has committed, no unrevoked token of its user ever
again comes out of a token that was issued before. -/
theorem sessions_end_at_reset {k₁ k₂ k₃ : AuthConfig τ} {ms₁ ms₂ : List (AuthMove τ)}
    {d : ResetDraft}
    (hbefore : Run (Guarded (CommitsCurrent env) (authRequests env).Step) (.start x) ms₁ k₁)
    (hreset : Guarded (CommitsCurrent env) (authRequests env).Step k₁ (.commit t) k₂)
    (hplan : t.plan = .reset d)
    (hafter : Run (Guarded (CommitsCurrent env) (authRequests env).Step) k₂ ms₂ k₃) :
    SessionsEnded env k₁.shared.store.refreshTokens.keys d.userId k₃ := by
  have hguard : ∀ (k : AuthConfig τ) m k',
      Guarded (CommitsCurrent env) (authRequests env).Step k m k' →
        Guarded (CommitsLive env) (authRequests env).Step k m k' :=
    fun _ _ _ hstep => ⟨hstep.1.1, hstep.2⟩
  have h₁ : Chained env k₁ := chained_run (chained_start x) (hbefore.mono hguard)
  have h₂ : Chained env k₂ := h₁.step (hguard _ _ _ hreset)
  -- Right after the reset every token of the user is revoked.
  have hended : Stored k₁.shared.store.refreshTokens.keys k₂ ∧
      SessionsEnded env k₁.shared.store.refreshTokens.keys d.userId k₂ := by
    obtain ⟨⟨-, hall⟩, hstep⟩ := hreset
    cases hstep with
    | commit hcommit =>
      have hcommit' : AuthCommits _ t.request t.plan _ := hcommit
      rw [hplan] at hcommit'
      have hturns := hcommit'.reset_turns
      refine ⟨fun a => hturns.mem_keys, fun a _ b row _ hget huser hlive => ?_⟩
      rcases hturns.unrevoked hget hlive with hnew | ⟨hold, hnot⟩
      · cases hnew
      · exact hnot (hall _ d rfl hplan b (AuthStore.mem_sessionsOf.mpr ⟨row, hold, huser, hlive⟩))
  suffices h : Chained env k₃ ∧ Stored k₁.shared.store.refreshTokens.keys k₃ ∧
      SessionsEnded env k₁.shared.store.refreshTokens.keys d.userId k₃ from h.2.2
  exact hafter.invariant (I := fun k => Chained env k ∧ Stored _ k ∧ SessionsEnded env _ d.userId k)
    (fun k m k' ⟨hk, hold, h⟩ hstep => ⟨hk.step (hguard _ _ _ hstep), hold.step hstep.2,
      h.step hk hold (hguard _ _ _ hstep)⟩) ⟨h₂, hended⟩

/-! ## §6 Requests that overtake each other -/

/-- The user has a session, and a reset token in the mail. -/
def smallSession : AuthStore :=
  authReplay .plain smallAuth [smallLogin, smallReset "reset-token-0001"]

/-- What a refresh of the session answers and adds. -/
def smallIssued (secret : String) : LoginResponse AccessTokenPayload × RefreshToken :=
  issueSession .plain (.plain 1 secret) 1 smallSession smallAccount (some [("provider", "mock")])

/-- A refresh of the session that draws the given token. -/
def refreshTicket (secret : String) : AuthTicket AccessTokenPayload :=
  ⟨⟨.plain 1 secret, .refreshUserSession "refresh-token-01"⟩, ⟨1, smallSession⟩,
    .refresh (.rotate "refresh-token-01" 1 (smallIssued secret).1 (smallIssued secret).2)⟩

/-- What the reset writes. -/
def smallResetDraft : ResetDraft :=
  ⟨"reset-token-0001", 1, 7, "a@b.c", "new-password", ["refresh-token-01"]⟩

/-- The reset of the password with the token from the mail. -/
def resetTicket : AuthTicket AccessTokenPayload :=
  ⟨⟨.plain 1 "", .resetPassword firstLink⟩,
    ⟨1, smallSession⟩, .reset smallResetDraft⟩

theorem refreshTicket_reads (secret : String) : (authRequests .plain).reads ⟨1, smallSession⟩
    (refreshTicket secret).request (refreshTicket secret).plan ⟨1, smallSession⟩ :=
  ⟨le_rfl, le_rfl, rfl, rfl⟩

theorem resetTicket_reads : (authRequests .plain).reads ⟨1, smallSession⟩ resetTicket.request
    resetTicket.plan ⟨1, smallSession⟩ :=
  ⟨le_rfl, le_rfl, rfl, rfl⟩

/-- The store after the commit of a ticket, at the standing clock. -/
def written (t : AuthTicket AccessTokenPayload) (s : AuthStore) : AuthStore :=
  committedOr s (t.plan.commit 1 s)

theorem written_commits {t : AuthTicket AccessTokenPayload} {s : AuthStore}
    (h : t.plan.commit 1 s = .ok (written t s)) (hnow : t.request.call.now 2 ≤ 1)
    (hlater : t.request.call.now 1 = 1) :
    (authRequests .plain).commits ⟨1, s⟩ t.request t.plan ⟨1, written t s⟩ :=
  ⟨le_rfl, hnow, hlater ▸ h⟩

/-- The user logs in from elsewhere. -/
def loginTicket : AuthTicket AccessTokenPayload :=
  ⟨⟨.plain 1 "refresh-token-09", .loginUser smallCredentials⟩, ⟨1, smallSession⟩,
    .login (issueSession .plain (.plain 1 "refresh-token-09") 0 smallSession smallAccount none)⟩

theorem loginTicket_reads : (authRequests .plain).reads ⟨1, smallSession⟩ loginTicket.request
    loginTicket.plan ⟨1, smallSession⟩ :=
  ⟨le_rfl, le_rfl, rfl, rfl⟩

/-- A login and a refresh both read before either commits. -/
theorem token_spent_once_login :
    Run (Guarded (CommitsLive .plain) (authRequests .plain).Step) (.start ⟨1, smallSession⟩)
      [.read (refreshTicket "refresh-token-02"), .read loginTicket, .commit loginTicket,
        .commit (refreshTicket "refresh-token-02")]
      ⟨⟨1, written (refreshTicket "refresh-token-02") (written loginTicket smallSession)⟩, [],
        [refreshTicket "refresh-token-02", loginTicket]⟩ ∧
    (written (refreshTicket "refresh-token-02") (written loginTicket smallSession)).sessionsOf 7 =
      ["refresh-token-09", "refresh-token-02"] ∧
    SpentOnce .plain
      ⟨⟨1, written (refreshTicket "refresh-token-02") (written loginTicket smallSession)⟩, [],
        [refreshTicket "refresh-token-02", loginTicket]⟩ := by
  have hrun : Run (Guarded (CommitsLive .plain) (authRequests .plain).Step)
      (.start ⟨1, smallSession⟩)
      [.read (refreshTicket "refresh-token-02"), .read loginTicket, .commit loginTicket,
        .commit (refreshTicket "refresh-token-02")]
      ⟨⟨1, written (refreshTicket "refresh-token-02") (written loginTicket smallSession)⟩, [],
        [refreshTicket "refresh-token-02", loginTicket]⟩ := by
    have hreads : Run (Guarded (CommitsLive .plain) (authRequests .plain).Step)
        (.start ⟨1, smallSession⟩)
        [.read (refreshTicket "refresh-token-02"), .read loginTicket]
        ⟨⟨1, smallSession⟩, [loginTicket, refreshTicket "refresh-token-02"], []⟩ :=
      .snoc (.single ⟨fun _ _ _ => nofun, .read (refreshTicket_reads _)⟩)
        ⟨fun _ _ _ => nofun, .read loginTicket_reads⟩
    have hlogin : (authRequests .plain).Step
        ⟨⟨1, smallSession⟩, [loginTicket, refreshTicket "refresh-token-02"], []⟩
        (.commit loginTicket)
        ⟨⟨1, written loginTicket smallSession⟩, [refreshTicket "refresh-token-02"],
          [loginTicket]⟩ :=
      .commit_last (written_commits rfl le_rfl rfl)
    refine .snoc (.snoc hreads ⟨?_, hlogin⟩)
      ⟨?_, .commit_last (written_commits rfl le_rfl rfl)⟩
    · rintro _ _ _ ⟨⟩ ⟨⟩
    · -- The login has added a session, and the token of the refresh is as it was.
      rintro _ _ _ ⟨⟩ ⟨⟩
      exact ⟨⟨"refresh-token-01", 7, days 30, none, some [("provider", "mock")]⟩, by decide, rfl⟩
  exact ⟨hrun, by decide, token_spent_once hrun⟩

/-- Whoever has the token and whoever stole it both find it unrevoked. -/
def twiceMoves : List (AuthMove AccessTokenPayload) :=
  [.read (refreshTicket "refresh-token-02"), .read (refreshTicket "refresh-token-03"),
    .commit (refreshTicket "refresh-token-03"), .commit (refreshTicket "refresh-token-02")]

def spentTwice : AuthConfig AccessTokenPayload :=
  ⟨⟨1, written (refreshTicket "refresh-token-02")
      (written (refreshTicket "refresh-token-03") smallSession)⟩, [],
    [refreshTicket "refresh-token-02", refreshTicket "refresh-token-03"]⟩

/-- Both refreshes succeed, and both of the new tokens are good. -/
theorem token_spent_twice :
    Run (authRequests .plain).Step (.start ⟨1, smallSession⟩) twiceMoves spentTwice ∧
    committedRotations .plain spentTwice =
      [("refresh-token-01", "refresh-token-02"), ("refresh-token-01", "refresh-token-03")] ∧
    spentTwice.shared.store.sessionsOf 7 = ["refresh-token-03", "refresh-token-02"] ∧
    ¬ SpentOnce .plain spentTwice := by
  refine ⟨?_, by decide, by decide, fun h => ?_⟩
  · have hreads : Run (authRequests .plain).Step (.start ⟨1, smallSession⟩)
        [.read (refreshTicket "refresh-token-02"), .read (refreshTicket "refresh-token-03")]
        ⟨⟨1, smallSession⟩,
          [refreshTicket "refresh-token-03", refreshTicket "refresh-token-02"], []⟩ :=
      .snoc (.single (.read (refreshTicket_reads _))) (.read (refreshTicket_reads _))
    exact .snoc (.snoc hreads (.commit_last (written_commits rfl le_rfl rfl)))
      (.commit_last (written_commits rfl le_rfl rfl))
  · exact absurd h.once (by decide)

/-- The reset and the login have read. -/
def loginConfig : AuthConfig AccessTokenPayload :=
  ⟨⟨1, smallSession⟩, [resetTicket, loginTicket], []⟩

/-- The reset has committed, and then the login. -/
def loggedInConfig : AuthConfig AccessTokenPayload :=
  ⟨⟨1, written loginTicket (written resetTicket smallSession)⟩, [], [loginTicket, resetTicket]⟩

/-- The login has read before the reset commits; the session that it opens is not an old one. -/
theorem sessions_end_at_reset_login :
    Run (Guarded (CommitsCurrent .plain) (authRequests .plain).Step) (.start ⟨1, smallSession⟩)
      [.read loginTicket, .read resetTicket] loginConfig ∧
    Run (Guarded (CommitsCurrent .plain) (authRequests .plain).Step) loginConfig
      [.commit resetTicket, .commit loginTicket] loggedInConfig ∧
    loggedInConfig.shared.store.sessionsOf 7 = ["refresh-token-09"] ∧
    SessionsEnded .plain loginConfig.shared.store.refreshTokens.keys 7 loggedInConfig := by
  have hreads : Run (Guarded (CommitsCurrent .plain) (authRequests .plain).Step)
      (.start ⟨1, smallSession⟩) [.read loginTicket, .read resetTicket] loginConfig :=
    .snoc (.single ⟨⟨fun _ _ _ => nofun, fun _ _ => nofun⟩, .read loginTicket_reads⟩)
      ⟨⟨fun _ _ _ => nofun, fun _ _ => nofun⟩, .read resetTicket_reads⟩
  have hreset : Guarded (CommitsCurrent .plain) (authRequests .plain).Step loginConfig
      (.commit resetTicket)
      ⟨⟨1, written resetTicket smallSession⟩, [loginTicket], [resetTicket]⟩ := by
    refine ⟨⟨?_, ?_⟩, .commit_last (written_commits rfl le_rfl rfl)⟩
    · rintro _ _ _ ⟨⟩ ⟨⟩
    · rintro _ _ ⟨⟩ ⟨⟩
      exact fun a ha => ha
  have hlogin : Guarded (CommitsCurrent .plain) (authRequests .plain).Step
      ⟨⟨1, written resetTicket smallSession⟩, [loginTicket], [resetTicket]⟩
      (.commit loginTicket) loggedInConfig := by
    refine ⟨⟨?_, ?_⟩, .commit_last (written_commits rfl le_rfl rfl)⟩
    · rintro _ _ _ ⟨⟩ ⟨⟩
    · rintro _ _ ⟨⟩ ⟨⟩
  exact ⟨hreads, .snoc (.single hreset) hlogin, by decide,
    sessions_end_at_reset hreads hreset rfl (.single hlogin)⟩

/-- The refresh has read when the reset commits. -/
def resetConfig : AuthConfig AccessTokenPayload :=
  ⟨⟨1, smallSession⟩, [resetTicket, refreshTicket "refresh-token-02"], []⟩

/-- Both have committed. -/
def survivedConfig : AuthConfig AccessTokenPayload :=
  ⟨⟨1, written (refreshTicket "refresh-token-02") (written resetTicket smallSession)⟩, [],
    [refreshTicket "refresh-token-02", resetTicket]⟩

/-- A token that comes out of the session from before the reset is good after it. -/
theorem session_survives_reset :
    Run (authRequests .plain).Step (.start ⟨1, smallSession⟩)
      [.read (refreshTicket "refresh-token-02"), .read resetTicket] resetConfig ∧
    Run (authRequests .plain).Step resetConfig
      [.commit resetTicket, .commit (refreshTicket "refresh-token-02")] survivedConfig ∧
    survivedConfig.inFlight = [] ∧
    survivedConfig.shared.store.sessionsOf 7 = ["refresh-token-02"] ∧
    ¬ SessionsEnded .plain resetConfig.shared.store.refreshTokens.keys 7 survivedConfig := by
  refine ⟨.snoc (.single (.read (refreshTicket_reads _))) (.read resetTicket_reads),
    .snoc (.single (.commit_last (written_commits rfl le_rfl rfl)))
      (.commit_last (written_commits rfl le_rfl rfl)), rfl, by decide, fun h => ?_⟩
  have hfrom : Descends (committedRotations .plain survivedConfig) "refresh-token-01"
      "refresh-token-02" :=
    .single (by decide)
  exact h "refresh-token-01" (by decide) "refresh-token-02"
    ⟨"refresh-token-02", 7, 1 + days 30, none, some [("provider", "mock")]⟩ hfrom (by decide) rfl
    rfl

end Coworking
