import Coworking.Api.Routes
import Coworking.System.Isolation
import Coworking.System.Sessions
import Coworking.System.VenueScope

/-!
# The Whole Interface

The routes of `auth.py` and the routes behind a bearer token as one machine.  The first work on
the accounts and sessions; the others read the accounts, and write to the rest.

- `ApiStep`: one request under a clock that does not run backwards;
- `sessionLog`: the access tokens that a run has given out, with their users and times;
- `SameRows`: nothing that belongs to a user is different;
- `Logged`: what an entry of the log says;
- `ActsFor.logged`: a request that is let through carries a token of its user from the log.
-/

namespace Coworking

open Foundation

variable {τ : Type}

/-! ## §1 Requests -/

/-- A request behind a bearer token: the token, what the guards read from the clock, and the
service call.  Whose call it is, the token decides. -/
structure ApiRequest (τ : Type) where
  token : τ
  guards : Clock
  call : Call
  op : Op

inductive ApiEvent (τ : Type)
  | auth (e : AuthEvent)
  | request (r : ApiRequest τ)

/-- The two halves of the database, and the latest instant the clock has shown.  The table
`notifications` is in both: each half has the rows that its own routes have written. -/
structure ApiState where
  now : Instant
  auth : AuthStore
  store : Store

/-- The rows of `notifications` that are for the user, in no particular order. -/
def ApiState.notificationsOf (x : ApiState) (userId : Uuid) : List Notification :=
  (x.store.notifications ++ x.auth.notifications).filter fun n => n.userId = userId

/-- What a request is answered with, when it is not granted, and the store otherwise. -/
def ApiRequest.answer (env : SessionEnv τ) (rt : Runtime) (x : ApiState) (r : ApiRequest τ) :
    Except ApiError Store :=
  endpoint env.toAuthEnv rt r.guards x.auth.accounts r.call x.store r.token r.op

/-- The store a request leaves. -/
def ApiRequest.leaves (env : SessionEnv τ) (rt : Runtime) (x : ApiState) (r : ApiRequest τ) :
    Store :=
  endpointStep env.toAuthEnv rt r.guards x.auth.accounts r.call x.store r.token r.op

/-- One request.  Its clock readings lie between the clocks of the two states, those of the guards
before those of the service. -/
inductive ApiStep (env : SessionEnv τ) (rt : Runtime) : ApiState → ApiEvent τ → ApiState → Prop
  | auth {x : ApiState} {e : AuthEvent} {y : AuthState} :
      AuthStep env ⟨x.now, x.auth⟩ e y → ApiStep env rt x (.auth e) ⟨y.now, y.store, x.store⟩
  | request {x : ApiState} {r : ApiRequest τ} {now : Instant} :
      x.now ≤ r.guards.reading 0 → r.guards.reading 1 ≤ r.call.now 0 → r.call.now 3 ≤ now →
      ApiStep env rt x (.request r) ⟨now, x.auth, r.leaves env rt x⟩

variable {env : SessionEnv τ} {rt : Runtime} {x y z : ApiState} {e : ApiEvent τ}
  {es : List (ApiEvent τ)} {r : ApiRequest τ} {userId : Uuid} {s s' : Store} {s₀ : AuthStore}

theorem ApiStep.now_le (h : ApiStep env rt x e y) : x.now ≤ y.now := by
  cases h with
  | @auth e y h => exact h.starts.trans ((e.call.now_mono (Nat.zero_le 2)).trans h.ends)
  | @request r now hstarts hguards hends =>
    calc x.now ≤ r.guards.reading 0 := hstarts
      _ ≤ r.guards.reading 1 := r.guards.mono (Nat.zero_le 1)
      _ ≤ r.call.now 0 := hguards
      _ ≤ r.call.now 3 := r.call.now_mono (Nat.zero_le 3)
      _ ≤ now := hends

theorem apiRun_now_le (h : Run (ApiStep env rt) x es y) : x.now ≤ y.now :=
  h.relates (R := fun x y => x.now ≤ y.now) (fun _ => le_rfl) (fun _ _ _ => le_trans)
    fun _ _ _ => ApiStep.now_le

/-- The state after a request, with the clock at its last reading. -/
def ApiState.after (env : SessionEnv τ) (rt : Runtime) (x : ApiState) : ApiEvent τ → ApiState
  | .auth e => ⟨e.call.now 2, authStep env x.auth e, x.store⟩
  | .request r => ⟨r.call.now 3, x.auth, r.leaves env rt x⟩

/-- The request begins when the clock shows the given instant, or later. -/
def ApiEvent.Starts (now : Instant) : ApiEvent τ → Prop
  | .auth e => now ≤ e.call.now 0
  | .request r => now ≤ r.guards.reading 0 ∧ r.guards.reading 1 ≤ r.call.now 0

theorem ApiEvent.Starts.step (h : e.Starts x.now) (env : SessionEnv τ) (rt : Runtime) :
    ApiStep env rt x e (x.after env rt e) := by
  cases e with
  | auth e => exact .auth (y := ⟨e.call.now 2, authStep env x.auth e⟩) ⟨h, le_rfl, rfl⟩
  | request r => exact .request h.1 h.2 le_rfl

/-! ## §2 Whose request it is -/

/-- The guards let the request through, in the name of the user. -/
def ActsFor (env : SessionEnv τ) (userId : Uuid) (x : ApiState) (r : ApiRequest τ) : Prop :=
  ∃ user, authorize env.toAuthEnv r.guards x.auth.accounts r.token r.op = .ok user ∧
    user.id = userId

/-- A request either is one call of the services for the user of its token, or leaves the store
as it was. -/
theorem ApiRequest.leaves_cases (env : SessionEnv τ) (rt : Runtime) (x : ApiState)
    (r : ApiRequest τ) :
    (∃ userId, ActsFor env userId x r ∧
      r.leaves env rt x = step rt x.store ⟨{ r.call with user := userId }, r.op⟩) ∨
      r.leaves env rt x = x.store := by
  cases h : authorize env.toAuthEnv r.guards x.auth.accounts r.token r.op with
  | ok user => exact .inl ⟨user.id, ⟨user, h, rfl⟩, endpointStep_of_ok h⟩
  | error e => exact .inr (endpointStep_of_error h)

/-- What asking for a new password and setting it write: whoever does that, the user is told. -/
def Notification.OfReset (n : Notification) : Prop :=
  n.templateCode = "password_reset_requested" ∨ n.templateCode = "password_reset_completed"

/-- Holds, bookings with their check-ins, payments, preferences and favorites of the user are as
before, and so are the notifications, but for those of password resets that may have been added. -/
structure SameRows (user : Uuid) (x y : ApiState) : Prop where
  holds : x.store.holds.AgreeOn (fun h => h.userId = user) y.store.holds
  bookings : x.store.bookings.AgreeOn (fun b => b.userId = user) y.store.bookings
  checkins : ∀ id b, x.store.bookingOf? id user = some b →
    y.store.checkins.get? id = x.store.checkins.get? id
  transactions : x.store.transactions.AgreeOn (fun t => t.userId = user) y.store.transactions
  notifications : ∃ added, (y.notificationsOf user).Perm (x.notificationsOf user ++ added) ∧
    ∀ n ∈ added, n.OfReset
  preferences : x.store.notificationPreferences.AgreeOn (fun p => p.userId = user)
    y.store.notificationPreferences
  favorites : x.store.favoriteVenues.AgreeOn (fun f => f.userId = user) y.store.favoriteVenues

/-- The same store, and notifications of resets. -/
theorem SameRows.of_store (hstore : y.store = x.store)
    (h : ∃ added, y.auth.notifications = x.auth.notifications ++ added ∧ ∀ n ∈ added, n.OfReset) :
    SameRows userId x y where
  holds := hstore ▸ .refl _ _
  bookings := hstore ▸ .refl _ _
  checkins := fun _ _ _ => hstore ▸ rfl
  transactions := hstore ▸ .refl _ _
  notifications := by
    obtain ⟨added, hadded, hof⟩ := h
    refine ⟨added.filter fun n => n.userId = userId, ?_, fun n hn =>
      hof n (List.mem_of_mem_filter hn)⟩
    simp only [ApiState.notificationsOf, hstore, hadded, List.filter_append, List.append_assoc,
      List.Perm.refl]
  preferences := hstore ▸ .refl _ _
  favorites := hstore ▸ .refl _ _

theorem SameRows.refl (user : Uuid) (x : ApiState) : SameRows user x x :=
  .of_store rfl ⟨[], (List.append_nil _).symm, fun _ => nofun⟩

/-- Agreeing on the bookings of a user is finding the same ones. -/
theorem bookingOf?_of_agreeOn {id : Uuid} {b : Booking}
    (h : s.bookings.AgreeOn (fun b => b.userId = userId) s'.bookings)
    (hb : s.bookingOf? id userId = some b) : s'.bookingOf? id userId = some b := by
  obtain ⟨hget, huser⟩ := Store.bookingOf?_eq_some.mp hb
  obtain ⟨hmem, hkey⟩ := Table.get?_eq_some.mp hget
  have hkept : b ∈ s'.bookings.rows.filter fun b => b.userId = userId := by
    rw [h]
    exact List.mem_filter.mpr ⟨hmem, decide_eq_true huser⟩
  obtain ⟨hmem', -⟩ := List.mem_filter.mp hkept
  exact Store.bookingOf?_eq_some.mpr ⟨Table.get?_eq_some.mpr ⟨hmem', hkey⟩, huser⟩

theorem SameRows.trans (h₁ : SameRows userId x y) (h₂ : SameRows userId y z) :
    SameRows userId x z where
  holds := h₁.holds.trans h₂.holds
  bookings := h₁.bookings.trans h₂.bookings
  checkins := fun id b hb => by
    rw [h₂.checkins id b (bookingOf?_of_agreeOn h₁.bookings hb), h₁.checkins id b hb]
  transactions := h₁.transactions.trans h₂.transactions
  notifications := by
    obtain ⟨added₁, hperm₁, hof₁⟩ := h₁.notifications
    obtain ⟨added₂, hperm₂, hof₂⟩ := h₂.notifications
    refine ⟨added₁ ++ added₂, ?_, fun n hn => ?_⟩
    · rw [← List.append_assoc]
      exact hperm₂.trans (hperm₁.append_right added₂)
    · rcases List.mem_append.mp hn with hn | hn
      · exact hof₁ n hn
      · exact hof₂ n hn
  preferences := h₁.preferences.trans h₂.preferences
  favorites := h₁.favorites.trans h₂.favorites

/-- What leaves the rows of all others alone leaves those of each of them alone. -/
theorem OthersUntouched.sameRows {user : Uuid} (h : OthersUntouched user x.store y.store)
    (hauth : y.auth = x.auth) (hne : userId ≠ user) : SameRows userId x y := by
  have hother : ∀ owner : Uuid, decide (owner = userId) = true → decide (owner ≠ user) = true := by
    intro owner howner
    simp [of_decide_eq_true howner, hne]
  refine
    { holds := h.holds.mono fun _ => hother _
      bookings := h.bookings.mono fun _ => hother _
      checkins := fun id b hb => h.checkins id ?_
      transactions := h.transactions.mono fun _ => hother _
      notifications := ⟨[], ?_, fun _ => nofun⟩
      preferences := h.preferences.mono fun _ => hother _
      favorites := h.favorites.mono fun _ => hother _ }
  · -- The booking has one owner.
    rw [Option.eq_none_iff_forall_ne_some]
    intro b' hb'
    obtain ⟨hget, huser⟩ := Store.bookingOf?_eq_some.mp hb
    obtain ⟨hget', huser'⟩ := Store.bookingOf?_eq_some.mp hb'
    obtain rfl : b = b' := Option.mem_unique hget hget'
    exact hne (huser.symm.trans huser')
  · have hfilter : ∀ rows : List Notification, rows.filter (fun n => n.userId = userId) =
        (rows.filter fun n => n.userId ≠ user).filter fun n => n.userId = userId := by
      intro rows
      rw [List.filter_filter]
      apply List.filter_congr
      intro n _
      by_cases hn : n.userId = userId
      · simp [hn, hne]
      · simp [hn]
    simp only [ApiState.notificationsOf, List.filter_append, hauth, List.append_nil]
    rw [hfilter, hfilter x.store.notifications, h.notifications]

/-- **What the routes of `auth.py` tell a user.** -/
theorem AuthEffect.notifications {c : AuthCall} {s s' : AuthStore} {op : AuthOp}
    {answer : Except AuthError (Answer τ)} (h : AuthEffect env c s op s' answer) :
    ∃ added, s'.notifications = s.notifications ++ added ∧ ∀ n ∈ added, n.OfReset := by
  have hnone : ∃ added, s.notifications = s.notifications ++ added ∧ ∀ n ∈ added, n.OfReset :=
    ⟨[], (List.append_nil _).symm, fun _ => nofun⟩
  cases h with
  | failed | registered | expired | loggedOut => exact hnone
  | loggedIn _ hadd =>
    obtain ⟨-, rfl⟩ := AuthStore.addRefreshToken_eq_ok.mp hadd
    exact hnone
  | rotated _ hadd =>
    obtain ⟨-, rfl⟩ := AuthStore.addRefreshToken_eq_ok.mp hadd
    exact hnone
  | resetRequested hrequested =>
    rcases requestPasswordReset_eq_ok hrequested with rfl | ⟨user, -, -, hnew, rfl⟩
    · exact hnone
    · refine ⟨_, rfl, fun n hn => ?_⟩
      rw [List.mem_singleton.mp hn]
      exact .inl rfl
  | reset =>
    refine ⟨_, rfl, fun n hn => ?_⟩
    rw [List.mem_singleton.mp hn]
    exact .inr rfl

/-- **One request** that does not act for a user leaves the user's rows alone. -/
theorem ApiStep.sameRows (howned : PaymentsOwned x.store) (h : ApiStep env rt x e y)
    (hacts : ∀ r, e = .request r → ¬ ActsFor env userId x r) : SameRows userId x y := by
  cases h with
  | @auth a z h =>
    refine .of_store rfl ?_
    show ∃ added, z.store.notifications = x.auth.notifications ++ added ∧ _
    rw [h.store]
    exact (authStep_effect env x.auth a).notifications
  | @request r =>
    rcases r.leaves_cases env rt x with ⟨user, hfor, hstep⟩ | hsame
    · have hne : userId ≠ user := fun he => hacts r rfl (he ▸ hfor)
      have hothers : OthersUntouched user x.store
          (step rt x.store ⟨{ r.call with user := user }, r.op⟩) :=
        othersUntouched_step howned ⟨{ r.call with user := user }, r.op⟩
      rw [← hstep] at hothers
      exact hothers.sameRows rfl hne
    · exact .of_store hsame ⟨[], (List.append_nil _).symm, fun _ => nofun⟩

theorem PaymentsOwned.apiStep (howned : PaymentsOwned x.store) (h : ApiStep env rt x e y) :
    PaymentsOwned y.store := by
  cases h with
  | auth => exact howned
  | @request r =>
    show PaymentsOwned (r.leaves env rt x)
    rcases r.leaves_cases env rt x with ⟨user, -, hstep⟩ | hsame
    · rw [hstep]
      exact howned.effect (step_effect rt _ _)
    · rw [hsame]
      exact howned

theorem PaymentsOwned.apiRun (howned : PaymentsOwned x.store) (h : Run (ApiStep env rt) x es y) :
    PaymentsOwned y.store :=
  h.invariant (I := fun x => PaymentsOwned x.store)
    (fun _ _ _ howned hstep => howned.apiStep hstep) howned

/-! ## §3 Access tokens that were given out -/

/-- An access token, the user it is for, and the clock reading it was built with. -/
structure LogEntry (τ : Type) where
  token : τ
  userId : Uuid
  issued : Instant

/-- When a call that opens a session builds its access token; a refresh has read the clock before. -/
def AuthEvent.issued (e : AuthEvent) : Instant :=
  match e.op with
  | .refreshUserSession _ => e.call.now 1
  | _ => e.call.now 0

/-- The access token of an answer. -/
def logEntry (issued : Instant) : Except AuthError (Answer τ) → List (LogEntry τ)
  | .ok (.session response) => [⟨response.accessToken, response.user.id, issued⟩]
  | _ => []

/-- The access token a request answers with. -/
def ApiEvent.given (env : SessionEnv τ) (s : AuthStore) : ApiEvent τ → List (LogEntry τ)
  | .auth e => logEntry e.issued (e.answer env s)
  | .request _ => []

/-- The accounts and sessions after a request. -/
def apiAuthStep (env : SessionEnv τ) (s : AuthStore) : ApiEvent τ → AuthStore
  | .auth e => authStep env s e
  | .request _ => s

/-- The access tokens that a list of requests gives out. -/
def sessionLog (env : SessionEnv τ) (s : AuthStore) : List (ApiEvent τ) → List (LogEntry τ)
  | [] => []
  | e :: es => e.given env s ++ sessionLog env (apiAuthStep env s e) es

theorem sessionLog_append (env : SessionEnv τ) (s : AuthStore) (es fs : List (ApiEvent τ)) :
    sessionLog env s (es ++ fs) =
      sessionLog env s es ++ sessionLog env (es.foldl (apiAuthStep env) s) fs := by
  induction es generalizing s with
  | nil => simp [sessionLog]
  | cons e es ih => simp [sessionLog, ih]

theorem ApiStep.auth_eq (h : ApiStep env rt x e y) : y.auth = apiAuthStep env x.auth e := by
  cases h with
  | auth h => exact h.store
  | request => rfl

theorem apiRun_auth (h : Run (ApiStep env rt) x es y) :
    y.auth = es.foldl (apiAuthStep env) x.auth := by
  induction h with
  | nil => rfl
  | snoc _ hstep ih => simp [hstep.auth_eq, ih]

/-- The log of a longer run. -/
theorem sessionLog_snoc (h : Run (ApiStep env rt) x es y) (e : ApiEvent τ) :
    sessionLog env x.auth (es ++ [e]) = sessionLog env x.auth es ++ e.given env y.auth := by
  rw [sessionLog_append, ← apiRun_auth h]
  simp [sessionLog]

/-! ## §4 Where a session comes from -/

/-- The request is a login of the user, with the password that is stored, and succeeds. -/
def LogsIn (env : SessionEnv τ) (userId : Uuid) (x : ApiState) (e : ApiEvent τ) (_ : ApiState) :
    Prop :=
  ∃ a payload user, e = .auth a ∧ a.op = .loginUser payload ∧
    x.auth.userByEmail? (env.lower payload.email) = some user ∧ user.id = userId ∧
    env.verifyPassword payload.password user.passwordHash = true ∧ Returns (a.answer env x.auth)

/-- The request resets the password of the user, and succeeds. -/
def ResetBy (env : SessionEnv τ) (userId : Uuid) (x : ApiState) (e : ApiEvent τ) (_ : ApiState) :
    Prop :=
  ∃ a, e = .auth a ∧ ResetsUser env userId ⟨x.now, x.auth⟩ a

/-- **Who is given a session**: whoever logs in, and whoever presents a refresh token that is
neither revoked nor expired. -/
theorem AuthEffect.session {c : AuthCall} {a a' : AuthStore} {op : AuthOp}
    {response : LoginResponse τ} (h : AuthEffect env c a op a' (.ok (.session response))) :
    ∃ user device,
      (response = (issueSession env c 0 a user device).1 ∧ ∃ payload, op = .loginUser payload ∧
        a.userByEmail? (env.lower payload.email) = some user ∧
        env.verifyPassword payload.password user.passwordHash = true) ∨
      (response = (issueSession env c 1 a user device).1 ∧
        ∃ refreshToken record, op = .refreshUserSession refreshToken ∧
          a.refreshTokens.get? (env.hashToken refreshToken) = some record ∧
          record.revokedAt = none ∧ record.userId = user.id) := by
  cases h with
  | loggedIn hissued =>
    obtain ⟨user, huser, hpassword, -, rfl⟩ := checkLogin_eq_ok.mp hissued
    exact ⟨user, none, .inl ⟨rfl, _, rfl, huser, hpassword⟩⟩
  | rotated hd =>
    obtain ⟨record, user, hget, hlive, -, huser, -, -, rfl, -⟩ := checkRefresh_rotates hd
    have hid : user.id = record.userId := Table.key_of_get? huser
    exact ⟨user, record.deviceInfo, .inr ⟨rfl, _, record, rfl, hget, hlive, hid.symm⟩⟩

/-- What holds of every unrevoked refresh token: since some login of its user, with the password
that was stored then, the password has not been reset. -/
def SinceLogin (env : SessionEnv τ) (rt : Runtime) (x : ApiState) (es : List (ApiEvent τ))
    (y : ApiState) : Prop :=
  ∀ k row, y.auth.refreshTokens.get? k = some row → row.revokedAt = none →
    Since (ApiStep env rt) (LogsIn env row.userId) (ResetBy env row.userId) x es y

/-- **A new session** is no older than its login either. -/
theorem SinceLogin.session (hlive : SinceLogin env rt x es y) (hrun : Run (ApiStep env rt) x es y)
    (hstep : ApiStep env rt y e z) {a : AuthEvent} (he : e = .auth a) {response : LoginResponse τ}
    (hanswer : a.answer env y.auth = .ok (.session response)) :
    Since (ApiStep env rt) (LogsIn env response.user.id) (ResetBy env response.user.id) x
      (es ++ [e]) z := by
  have heffect := authStep_effect env y.auth a
  rw [hanswer] at heffect
  obtain ⟨user, device, ⟨rfl, payload, hop, huser, hpassword⟩ |
    ⟨rfl, refreshToken, record, hop, hget, hunrevoked, hid⟩⟩ := heffect.session
  · -- A login is an event itself.
    exact .last hrun hstep ⟨a, payload, user, he, hop, huser, rfl, hpassword, _, hanswer⟩
  · -- A refresh is not a reset, and the token it presents was live.
    have hsince := hlive _ record hget hunrevoked
    rw [hid] at hsince
    apply hsince.snoc hstep
    rintro ⟨a', ha', p, row, hreset, -⟩
    obtain rfl := ApiEvent.auth.inj (he.symm.trans ha')
    exact nomatch hop.symm.trans hreset

/-- **One request.** -/
theorem SinceLogin.step (hlive : SinceLogin env rt x es y) (hrun : Run (ApiStep env rt) x es y)
    (hstep : ApiStep env rt y e z) : SinceLogin env rt x (es ++ [e]) z := by
  intro k row hrow hunrevoked
  cases e with
  | request r =>
    have hauth : z.auth = y.auth := hstep.auth_eq
    rw [hauth] at hrow
    apply (hlive k row hrow hunrevoked).snoc hstep
    rintro ⟨a, ha, -⟩
    exact nomatch ha
  | auth a =>
    have hauth : z.auth = authStep env y.auth a := hstep.auth_eq
    rw [hauth] at hrow
    have heffect := authStep_effect env y.auth a
    rcases heffect.issued_or_kept hrow hunrevoked with ⟨response, hanswer, -, -, huser⟩ | hkept
    · have hsince := hlive.session hrun hstep rfl hanswer
      rwa [huser] at hsince
    · -- A reset would have revoked it.
      apply (hlive k row hkept hunrevoked).snoc hstep
      rintro ⟨a', ha', hreset⟩
      obtain rfl := ApiEvent.auth.inj ha'
      have hauthStep : AuthStep env ⟨y.now, y.auth⟩ a ⟨z.now, z.auth⟩ := by
        cases hstep with
        | auth h => exact h
      exact hreset.revoked hauthStep (hauth ▸ hrow) rfl hunrevoked

theorem sinceLogin_run (hstart : ∀ row ∈ x.auth.refreshTokens, row.revokedAt ≠ none)
    (hrun : Run (ApiStep env rt) x es y) : SinceLogin env rt x es y := by
  refine hrun.history (I := fun es y => SinceLogin env rt x es y)
    (fun _ _ _ _ hrun hlive hstep => hlive.step hrun hstep) ?_
  intro k row hrow hunrevoked
  exact (hstart row (Table.mem_of_get? hrow) hunrevoked).elim

/-! ## §5 What the log says -/

/-- An entry is an access token as `_issue_session_tokens` builds it, from accounts of that time. -/
structure Logged (env : SessionEnv τ) (now : Instant) (entry : LogEntry τ) : Prop where
  built : ∃ a user, user.id = entry.userId ∧
    entry.token = issueSessionTokens env.toAuthEnv entry.issued a user
  issued_le : entry.issued ≤ now

/-- An entry is the access token of a session that was opened. -/
theorem mem_given {entry : LogEntry τ} (h : entry ∈ e.given env s₀) :
    ∃ a response, e = .auth a ∧ a.answer env s₀ = .ok (.session response) ∧
      entry = ⟨response.accessToken, response.user.id, a.issued⟩ := by
  cases e with
  | request r => exact (List.not_mem_nil h).elim
  | auth a =>
    cases hanswer : a.answer env s₀ with
    | error err =>
      rw [ApiEvent.given, hanswer] at h
      exact (List.not_mem_nil h).elim
    | ok answer =>
      rw [ApiEvent.given, hanswer] at h
      cases answer with
      | session response =>
        exact ⟨a, response, rfl, by rw [hanswer], List.mem_singleton.mp h⟩
      | user | message | done => exact (List.not_mem_nil h).elim

theorem ApiStep.given_logged (h : ApiStep env rt x e y) {entry : LogEntry τ}
    (hentry : entry ∈ e.given env x.auth) : Logged env y.now entry := by
  obtain ⟨a, response, rfl, hanswer, rfl⟩ := mem_given hentry
  have heffect := authStep_effect env x.auth a
  rw [hanswer] at heffect
  have hends : a.call.now 2 ≤ y.now := by
    cases h with
    | auth h => exact h.ends
  obtain ⟨user, device, ⟨rfl, payload, hop, -⟩ | ⟨rfl, refreshToken, record, hop, -⟩⟩ :=
    heffect.session
  · have hissued : a.issued = a.call.now 0 := by simp [AuthEvent.issued, hop]
    refine ⟨⟨x.auth.accounts, user.toUser, rfl, ?_⟩, ?_⟩
    · rw [hissued]
      rfl
    · rw [hissued]
      exact (a.call.now_mono (Nat.zero_le 2)).trans hends
  · have hissued : a.issued = a.call.now 1 := by simp [AuthEvent.issued, hop]
    refine ⟨⟨x.auth.accounts, user.toUser, rfl, ?_⟩, ?_⟩
    · rw [hissued]
      rfl
    · rw [hissued]
      exact (a.call.now_mono (by omega)).trans hends

theorem Logged.later {now later : Instant} {entry : LogEntry τ} (h : Logged env now entry)
    (hle : now ≤ later) : Logged env later entry :=
  ⟨h.built, h.issued_le.trans hle⟩

theorem logged_run (hrun : Run (ApiStep env rt) x es y) :
    ∀ entry ∈ sessionLog env x.auth es, Logged env y.now entry := by
  induction hrun with
  | nil => exact fun _ h => (List.not_mem_nil h).elim
  | snoc hrun hstep ih =>
    intro entry hentry
    rw [sessionLog_snoc hrun, List.mem_append] at hentry
    rcases hentry with hold | hnew
    · exact (ih entry hold).later hstep.now_le
    · exact hstep.given_logged hnew

/-- A token from the log is good for its user, and for the lifetime of an access token. -/
theorem Logged.decodes {now later : Instant} {entry : LogEntry τ} {p : AccessTokenPayload}
    (h : Logged env now entry)
    (hdecode : decodeAccessToken env.toAuthEnv later entry.token = .ok p) :
    p.sub = entry.userId ∧ later < entry.issued + minutes env.accessTokenExpireMinutes := by
  obtain ⟨a, user, hid, htoken⟩ := h.built
  rw [htoken, decode_issued] at hdecode
  obtain ⟨⟨-, hlater⟩, -, rfl⟩ := hdecode
  refine ⟨hid, hlater.trans_le ?_⟩
  -- `exp` is in whole seconds.
  exact Int.ediv_mul_le _ (by decide)

/-- Every token that the requests present was given out by an earlier one of them, unless it does
not decode. -/
def Unforged (env : SessionEnv τ) (s : AuthStore) (es : List (ApiEvent τ)) : Prop :=
  ∀ es₁ r es₂, es = es₁ ++ .request r :: es₂ →
    (∃ now p, env.decode now r.token = some p) → ∃ entry ∈ sessionLog env s es₁, entry.token = r.token

theorem Unforged.of_append {s : AuthStore} {fs : List (ApiEvent τ)} (h : Unforged env s (es ++ fs)) :
    Unforged env s es := by
  intro es₁ r es₂ hes
  apply h es₁ r (es₂ ++ fs)
  simp [hes]

/-- The requests after a first login all present the token of that login. -/
theorem Unforged.of_given {s : AuthStore} {a : AuthEvent} {entry : LogEntry τ} {fs : List (ApiEvent τ)}
    (hentry : entry ∈ (ApiEvent.auth a).given env s)
    (htokens : ∀ r, .request r ∈ fs → r.token = entry.token) : Unforged env s (.auth a :: fs) := by
  rintro (_ | ⟨e, es⟩) r es₂ hes -
  · cases hes
  · obtain ⟨rfl, rfl⟩ := List.cons.inj hes
    have hmem : ApiEvent.request r ∈ es ++ .request r :: es₂ := by simp
    exact ⟨entry, List.mem_append_left _ hentry, (htokens r hmem).symm⟩

/-- **Whoever acts for a user** presents an access token of the user's from the log, within its
lifetime. -/
theorem ActsFor.logged {now : Instant} {log : List (LogEntry τ)} (hacts : ActsFor env userId x r)
    (hlog : ∀ entry ∈ log, Logged env now entry)
    (hgiven : (∃ now p, env.decode now r.token = some p) → ∃ entry ∈ log, entry.token = r.token) :
    ∃ issued, ⟨r.token, userId, issued⟩ ∈ log ∧
      r.guards.reading 0 < issued + minutes env.accessTokenExpireMinutes := by
  obtain ⟨user, huser, rfl⟩ := hacts
  obtain ⟨p, hdecode, hget, -⟩ := getCurrentUser_eq_ok.mp (authorize_eq_ok.mp huser).1
  obtain ⟨⟨token, id, issued⟩, hmem, rfl⟩ :=
    hgiven ⟨_, p, (decodeAccessToken_eq_ok.mp hdecode).1⟩
  obtain ⟨hsub, hlifetime⟩ := (hlog _ hmem).decodes hdecode
  have hid : user.id = id := (Table.key_of_get? hget).trans hsub
  exact ⟨issued, hid ▸ hmem, hlifetime⟩

end Coworking
