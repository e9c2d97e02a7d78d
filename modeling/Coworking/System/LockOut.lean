import Coworking.System.ApiRun

/-!
# Who Acts for a User

A bearer token is looked at by itself: neither logging out nor resetting the password takes back an
access token.  What the routes can promise is the chain behind it.  An access token is the answer to
a login or to a refresh, a refresh token is spent on it, and a reset revokes every refresh token.

- `rows_change_since_login`: whatever happens to the rows of a user goes back to a login;
- `LoggedOut`: what a reset leaves, and what lasts until the next login;
- `locked_out`: after a reset, and once the access tokens have run out, nobody acts for the user.
-/

namespace Coworking

open Foundation

variable {τ : Type} {env : SessionEnv τ} {rt : Runtime} {x y z u v w : ApiState} {e : ApiEvent τ}
  {es es₁ es₂ es₃ : List (ApiEvent τ)} {r : ApiRequest τ} {userId : Uuid}
  {fs : List (ApiEvent AccessTokenPayload)}

/-! ## §1 Back to a login -/

/-- The last of the requests gave the access token out, and since some login of the user, with the
password that was stored then, the password had not been reset. -/
def GivenSinceLogin (env : SessionEnv τ) (rt : Runtime) (x : ApiState) (es : List (ApiEvent τ))
    (y : ApiState) (entry : LogEntry τ) : Prop :=
  (∃ es' e u, es = es' ++ [e] ∧ Run (ApiStep env rt) x es' u ∧ ApiStep env rt u e y ∧
    entry ∈ e.given env u.auth) ∧
  Since (ApiStep env rt) (LogsIn env entry.userId) (ResetBy env entry.userId) x es y

/-- Every entry of the log goes back to a login. -/
theorem givenSinceLogin_of_mem (hstart : ∀ row ∈ x.auth.refreshTokens, row.revokedAt ≠ none)
    (hrun : Run (ApiStep env rt) x es y) {entry : LogEntry τ}
    (hentry : entry ∈ sessionLog env x.auth es) :
    ∃ es₁ es₂ u, es = es₁ ++ es₂ ∧ GivenSinceLogin env rt x es₁ u entry ∧
      Run (ApiStep env rt) u es₂ y := by
  induction hrun with
  | nil => exact (List.not_mem_nil hentry).elim
  | @snoc y z es e hrun hstep ih =>
    rw [sessionLog_snoc hrun, List.mem_append] at hentry
    rcases hentry with hold | hnew
    · obtain ⟨es₁, es₂, u, rfl, hgiven, hrest⟩ := ih hold
      exact ⟨es₁, es₂ ++ [e], u, by simp, hgiven, .snoc hrest hstep⟩
    · refine ⟨es ++ [e], [], z, by simp, ⟨⟨es, e, y, rfl, hrun, hstep, hnew⟩, ?_⟩, .nil z⟩
      obtain ⟨a, response, he, hanswer, rfl⟩ := mem_given hnew
      exact (sinceLogin_run hstart hrun).session hrun hstep he hanswer

/-- The request is let through for the user, and carries an access token that has not run out and
goes back to a login. -/
def ActsSinceLogin (env : SessionEnv τ) (rt : Runtime) (x : ApiState) (es : List (ApiEvent τ))
    (y : ApiState) (userId : Uuid) (r : ApiRequest τ) : Prop :=
  ActsFor env userId y r ∧ ∃ issued es₁ es₂ u, es = es₁ ++ es₂ ∧
    GivenSinceLogin env rt x es₁ u ⟨r.token, userId, issued⟩ ∧ Run (ApiStep env rt) u es₂ y ∧
    r.guards.reading 0 < issued + minutes env.accessTokenExpireMinutes

theorem ActsFor.sinceLogin (hstart : ∀ row ∈ x.auth.refreshTokens, row.revokedAt ≠ none)
    (hrun : Run (ApiStep env rt) x es y) (hunforged : Unforged env x.auth (es ++ [.request r]))
    (hacts : ActsFor env userId y r) : ActsSinceLogin env rt x es y userId r := by
  obtain ⟨issued, hmem, hlifetime⟩ := hacts.logged (logged_run hrun) (hunforged es r [] rfl)
  obtain ⟨es₁, es₂, u, hes, hgiven, hrest⟩ := givenSinceLogin_of_mem hstart hrun hmem
  exact ⟨hacts, issued, es₁, es₂, u, hes, hgiven, hrest, hlifetime⟩

/-- **Whatever happens to the rows of a user goes back to a login.**  In a run that starts without
live sessions, with every payment for a booking of the payer, and in which no token is forged (one
from before the run counts as forged): the holds, bookings, check-ins, payments, preferences and
favorites of a user stay as they are, and the notifications too but for those of password resets,
which anybody may ask for; or some request that acts for the user was let through, with an access
token that was given out to the user less than a lifetime before, after a login of the user with
the stored password and without a reset in between. -/
theorem rows_change_since_login (hstart : ∀ row ∈ x.auth.refreshTokens, row.revokedAt ≠ none)
    (howned : PaymentsOwned x.store) (hrun : Run (ApiStep env rt) x es y)
    (hunforged : Unforged env x.auth es) (userId : Uuid) :
    SameRows userId x y ∨ ∃ es₁ r es₂ u, es = es₁ ++ .request r :: es₂ ∧
      Run (ApiStep env rt) x es₁ u ∧ ActsSinceLogin env rt x es₁ u userId r := by
  induction hrun with
  | nil => exact .inl (.refl _ _)
  | @snoc y z es e hrun hstep ih =>
    by_cases hacts : ∃ r, e = .request r ∧ ActsFor env userId y r
    · obtain ⟨r, rfl, hacts⟩ := hacts
      exact .inr ⟨es, r, [], y, rfl, hrun, hacts.sinceLogin hstart hrun hunforged⟩
    · rcases ih hunforged.of_append with hsame | ⟨es₁, r, es₂, u, rfl, hu, hr⟩
      · refine .inl (hsame.trans ?_)
        exact hstep.sameRows (howned.apiRun hrun) fun r he hr => hacts ⟨r, he, hr⟩
      · exact .inr ⟨es₁, r, es₂ ++ [e], u, by simp, hu, hr⟩

/-- The access token that user 7 gets for the first login. -/
def smallToken : AccessTokenPayload :=
  issueSessionTokens .plain 0 smallAuth.accounts smallAccount.toUser

/-- A request with that token to hold seat `A1`. -/
def smallRequest (now : Instant) : ApiRequest AccessTokenPayload :=
  ⟨smallToken, .at now, .plain 7 now, .createHold smallHold⟩

/-- A store and accounts in which nothing has happened yet. -/
def smallState : ApiState := ⟨0, smallAuth, smallStore⟩

/-- The requests after the login present no other token. -/
theorem unforged_smallToken (h : ∀ r, .request r ∈ fs → r.token = smallToken) :
    Unforged .plain smallState.auth (.auth smallLogin :: fs) := by
  have hgiven : (⟨smallToken, 7, 0⟩ : LogEntry AccessTokenPayload) ∈
      (ApiEvent.auth smallLogin).given .plain smallState.auth := List.mem_singleton_self _
  exact .of_given hgiven h

/-- User 7 logs in and holds a seat: what is new in the store goes back to the login. -/
theorem rows_change_since_login_hold :
    ∃ es₁ r es₂ u, [.auth smallLogin, .request (smallRequest 0)] = es₁ ++ .request r :: es₂ ∧
      Run (ApiStep .plain .plain) smallState es₁ u ∧
      ActsSinceLogin .plain .plain smallState es₁ u 7 r := by
  have hlogin : (.auth smallLogin : ApiEvent AccessTokenPayload).Starts smallState.now := le_rfl
  have hrequest : (.request (smallRequest 0) : ApiEvent AccessTokenPayload).Starts 0 := ⟨le_rfl, le_rfl⟩
  have hrun : Run (ApiStep .plain .plain) smallState [.auth smallLogin, .request (smallRequest 0)]
      _ := (Run.single (hlogin.step _ _)).append (Run.single (ApiEvent.Starts.step hrequest _ _))
  have hunforged : Unforged .plain smallState.auth
      [.auth smallLogin, .request (smallRequest 0)] := by
    apply unforged_smallToken
    simp [smallRequest]
  have hresult := rows_change_since_login (fun _ hrow => ((Table.mem_empty _).mp hrow).elim)
    (fun t ht => ((Table.mem_empty t).mp ht).elim) hrun hunforged 7
  apply hresult.resolve_left
  intro hsame
  exact absurd (congrArg List.length hsame.holds) (by decide)

/-! ## §2 After a reset -/

/-- The user has no refresh token that is not revoked. -/
def LoggedOut (userId : Uuid) (s : AuthStore) : Prop :=
  ∀ k row, s.refreshTokens.get? k = some row → row.userId = userId → row.revokedAt ≠ none

theorem ResetBy.loggedOut (hreset : ResetBy env userId x e y) (hstep : ApiStep env rt x e y) :
    LoggedOut userId y.auth := by
  obtain ⟨a, rfl, hreset⟩ := hreset
  have hauth : AuthStep env ⟨x.now, x.auth⟩ a ⟨y.now, y.auth⟩ := by
    cases hstep with
    | auth h => exact h
  intro k row hget huser
  exact hreset.revoked hauth hget huser

/-- Without a login, a user whose sessions have ended is not given an access token. -/
theorem LoggedOut.given (hended : LoggedOut userId x.auth)
    (hquiet : ¬ LogsIn env userId x e y) :
    ∀ entry ∈ e.given env x.auth, entry.userId ≠ userId := by
  intro entry hentry huser
  obtain ⟨a, response, rfl, hanswer, rfl⟩ := mem_given hentry
  have heffect := authStep_effect env x.auth a
  rw [hanswer] at heffect
  obtain ⟨user, device, ⟨rfl, payload, hop, hfound, hpassword⟩ |
    ⟨rfl, refreshToken, record, hop, hget, hlive, hid⟩⟩ := heffect.session
  · exact hquiet ⟨a, payload, user, rfl, hop, hfound, huser, hpassword, _, hanswer⟩
  · exact hended _ record hget (hid.trans huser) hlive

/-- **One request** other than a login. -/
theorem LoggedOut.step (hended : LoggedOut userId x.auth) (hstep : ApiStep env rt x e y)
    (hquiet : ¬ LogsIn env userId x e y) : LoggedOut userId y.auth := by
  intro k row hget huser hlive
  rw [hstep.auth_eq] at hget
  cases e with
  | request r => exact hended k row hget huser hlive
  | auth a =>
    rcases (authStep_effect env x.auth a).issued_or_kept hget hlive with
      ⟨response, hanswer, -, -, hresponse⟩ | hkept
    · -- A row for the user comes with an access token for the user.
      have hentry : ⟨response.accessToken, response.user.id, a.issued⟩ ∈
          (ApiEvent.auth a : ApiEvent τ).given env x.auth := by
        rw [ApiEvent.given, hanswer]
        exact List.mem_singleton_self _
      exact hended.given hquiet _ hentry (hresponse.trans huser)
    · exact hended k row hkept huser hlive

/-- What is left of a user's sessions once they have ended: access tokens from before. -/
structure Leftover (env : SessionEnv τ) (userId : Uuid) (since : Instant)
    (log : List (LogEntry τ)) (s : AuthStore) : Prop where
  ended : LoggedOut userId s
  old : ∀ entry ∈ log, entry.userId = userId → entry.issued ≤ since

/-- The requests since then, without a login of the user. -/
def QuietStep (env : SessionEnv τ) (rt : Runtime) (userId : Uuid) (x : ApiState) (e : ApiEvent τ)
    (y : ApiState) : Prop :=
  ApiStep env rt x e y ∧ ¬ LogsIn env userId x e y

theorem Leftover.step {since : Instant} {log : List (LogEntry τ)}
    (h : Leftover env userId since log x.auth) (hstep : QuietStep env rt userId x e y) :
    Leftover env userId since (log ++ e.given env x.auth) y.auth := by
  refine ⟨h.ended.step hstep.1 hstep.2, fun entry hentry huser => ?_⟩
  rcases List.mem_append.mp hentry with hold | hnew
  · exact h.old entry hold huser
  · exact (h.ended.given hstep.2 entry hnew huser).elim

theorem QuietStep.run (h : Run (QuietStep env rt userId) x es y) : Run (ApiStep env rt) x es y :=
  h.mono fun _ _ _ hstep => hstep.1

theorem Leftover.run {since : Instant} (hbefore : Run (ApiStep env rt) x es u)
    (h : Leftover env userId since (sessionLog env x.auth es) u.auth)
    (hquiet : Run (QuietStep env rt userId) u es₁ w) :
    Leftover env userId since (sessionLog env x.auth (es ++ es₁)) w.auth := by
  induction hquiet with
  | nil =>
    rw [List.append_nil]
    exact h
  | snoc hrun hlast ih =>
    rw [← List.append_assoc, sessionLog_snoc (hbefore.append (QuietStep.run hrun))]
    exact ih.step hlast

/-- What a reset leaves. -/
theorem ResetBy.leftover (hbefore : Run (ApiStep env rt) x es u) (hstep : ApiStep env rt u e v)
    (hreset : ResetBy env userId u e v) :
    Leftover env userId v.now (sessionLog env x.auth (es ++ [e])) v.auth :=
  ⟨hreset.loggedOut hstep,
    fun entry hentry _ => (logged_run (.snoc hbefore hstep) entry hentry).issued_le⟩

/-- Access tokens that have run out let nobody through. -/
theorem Leftover.not_actsFor {since : Instant} (hrun : Run (ApiStep env rt) x es y)
    (h : Leftover env userId since (sessionLog env x.auth es) y.auth)
    (hlate : since + minutes env.accessTokenExpireMinutes ≤ r.guards.reading 0)
    (hunforged : Unforged env x.auth (es ++ [.request r])) : ¬ ActsFor env userId y r := by
  intro hacts
  obtain ⟨issued, hmem, hlifetime⟩ := hacts.logged (logged_run hrun) (hunforged es r [] rfl)
  have hold : issued ≤ since := h.old _ hmem rfl
  exact absurd hlifetime (not_lt.mpr ((add_le_add_left hold _).trans hlate))

/-- They do not decode any more. -/
theorem Leftover.unauthorized {since : Instant} {log : List (LogEntry τ)} {now : Instant}
    (h : Leftover env userId since log y.auth) (hlog : ∀ entry ∈ log, Logged env now entry)
    (hlate : since + minutes env.accessTokenExpireMinutes ≤ r.guards.reading 0)
    {entry : LogEntry τ} (hentry : entry ∈ log) (huser : entry.userId = userId)
    (htoken : entry.token = r.token) :
    ∃ err, r.answer env rt y = .error err ∧ err.status r.op = 401 := by
  apply endpoint_of_not_decoded
  intro p hdecode
  obtain ⟨-, hlifetime⟩ := (hlog entry hentry).decodes (htoken ▸ hdecode)
  have hold : entry.issued ≤ since := h.old entry hentry huser
  exact absurd hlifetime (not_lt.mpr ((add_le_add_left hold _).trans hlate))

/-- **A reset locks everybody out.**  Let the password of a user be reset in a run in which no token
is forged and that starts with every payment for a booking of the payer, and let nobody log in as
the user from then on.  Once the lifetime of an access token has passed, the user's holds, bookings,
check-ins, payments, preferences and favorites stay as they are, whatever anybody does, and the
notifications too but for those of further password resets; and every access token that the run has
given to the user is answered with 401, on every writing route. -/
theorem locked_out (howned : PaymentsOwned x.store) (hbefore : Run (ApiStep env rt) x es₁ u)
    (hreset : ApiStep env rt u e v) (hresets : ResetBy env userId u e v)
    (hquiet : Run (QuietStep env rt userId) v es₂ w)
    (hlate : v.now + minutes env.accessTokenExpireMinutes ≤ w.now)
    (hlater : Run (QuietStep env rt userId) w es₃ y)
    (hunforged : Unforged env x.auth (es₁ ++ [e] ++ es₂ ++ es₃)) :
    SameRows userId w y ∧
      ∀ entry ∈ sessionLog env x.auth (es₁ ++ [e] ++ es₂ ++ es₃), entry.userId = userId →
        ∀ r : ApiRequest τ, r.token = entry.token → y.now ≤ r.guards.reading 0 →
          ∃ err, r.answer env rt y = .error err ∧ err.status r.op = 401 := by
  have hmid : Run (ApiStep env rt) x (es₁ ++ [e] ++ es₂) w :=
    (Run.snoc hbefore hreset).append (QuietStep.run hquiet)
  -- From the reset on, the user has no live session, and access tokens from before it only.
  have hleft : Leftover env userId v.now (sessionLog env x.auth (es₁ ++ [e] ++ es₂)) w.auth :=
    (hresets.leftover hbefore hreset).run (.snoc hbefore hreset) hquiet
  constructor
  · -- Along the late part of the run no request acts for the user any more.
    induction hlater with
    | nil => exact .refl _ _
    | @snoc y z es e' hrun hlast ih =>
      rw [← List.append_assoc] at hunforged
      refine (ih hunforged.of_append).trans ?_
      have hall := hmid.append (QuietStep.run hrun)
      refine hlast.1.sameRows (howned.apiRun hall) fun r he => ?_
      subst he
      have hnow : w.now ≤ y.now := apiRun_now_le (QuietStep.run hrun)
      refine (hleft.run hmid hrun).not_actsFor hall ?_ hunforged
      cases hlast.1 with
      | request hstarts => exact hlate.trans (hnow.trans hstarts)
  · intro entry hentry huser r htoken hr
    have hnow : w.now ≤ y.now := apiRun_now_le (QuietStep.run hlater)
    exact (hleft.run hmid hlater).unauthorized (logged_run (hmid.append (QuietStep.run hlater)))
      (hlate.trans (hnow.trans hr)) hentry huser htoken.symm

/-- User 7 has logged in and asked for a link. -/
def linkState : ApiState :=
  (smallState.after .plain .plain (.auth smallLogin)).after .plain .plain
    (.auth (smallReset firstLink.token))

/-- User 7 resets the password with the link. -/
def linkReset : ApiEvent AccessTokenPayload := .auth ⟨.plain 0 "", .resetPassword firstLink⟩

def resetState : ApiState := linkState.after .plain .plain linkReset

/-- A request half an hour later, with the access token of the login before. -/
def lateRequest : ApiEvent AccessTokenPayload := .request (smallRequest (minutes 30))

def lateState : ApiState := resetState.after .plain .plain lateRequest

/-- Somebody who knows the address asks for another link. -/
def lateLink : ApiEvent AccessTokenPayload :=
  .auth ⟨.plain (minutes 30) "reset-token-0002", .requestPasswordReset "a@b.c"⟩

/-- The same request once more, and that. -/
def lastState : ApiState :=
  (lateState.after .plain .plain lateRequest).after .plain .plain lateLink

/-- The access token of the login before holds no seat, and user 7 is told of the link. -/
theorem locked_out_token :
    SameRows 7 lateState lastState ∧
    (lateState.notificationsOf 7).map (fun n => n.templateCode) =
      ["password_reset_requested", "password_reset_completed"] ∧
    (lastState.notificationsOf 7).map (fun n => n.templateCode) =
      ["password_reset_requested", "password_reset_completed", "password_reset_requested"] ∧
    ∃ err, (smallRequest (minutes 31)).answer .plain .plain lastState = .error err ∧
      err.status (smallRequest (minutes 31)).op = 401 := by
  have hlogin : (.auth smallLogin : ApiEvent AccessTokenPayload).Starts smallState.now := le_rfl
  have hlink : (.auth (smallReset firstLink.token) : ApiEvent AccessTokenPayload).Starts 0 := le_rfl
  have hbefore : Run (ApiStep .plain .plain) smallState
      [.auth smallLogin, .auth (smallReset firstLink.token)] linkState :=
    (Run.single (hlogin.step _ _)).append (Run.single (ApiEvent.Starts.step hlink _ _))
  have hreset : linkReset.Starts linkState.now := le_rfl
  have hresets : ResetBy .plain 7 linkState linkReset resetState :=
    ⟨_, rfl, firstLink, _, rfl, ⟨_, rfl⟩, rfl, rfl⟩
  -- Neither the request nor the link is a login.
  have hearly : lateRequest.Starts resetState.now := ⟨by decide, le_rfl⟩
  have hlate : lateRequest.Starts lateState.now := ⟨le_rfl, le_rfl⟩
  have hlast : lateLink.Starts (lateState.after .plain .plain lateRequest).now := le_rfl
  have hquiet : ∀ x y, ¬ LogsIn .plain 7 x lateRequest y := by
    rintro x y ⟨a, payload, user, ha, -⟩
    cases ha
  have hasked : ∀ x y, ¬ LogsIn .plain 7 x lateLink y := by
    rintro x y ⟨a, payload, user, ha, hop, -⟩
    obtain rfl := ApiEvent.auth.inj ha
    cases hop
  have hfirst : Run (QuietStep .plain .plain 7) resetState [lateRequest] lateState :=
    .single ⟨hearly.step _ _, hquiet _ _⟩
  have hsecond : Run (QuietStep .plain .plain 7) lateState [lateRequest, lateLink] lastState :=
    .snoc (.single ⟨hlate.step _ _, hquiet _ _⟩) ⟨hlast.step _ _, hasked _ _⟩
  have hunforged : Unforged .plain smallState.auth
      ([.auth smallLogin, .auth (smallReset firstLink.token)] ++ [linkReset] ++ [lateRequest] ++
        [lateRequest, lateLink]) :=
    unforged_smallToken (by simp [linkReset, lateRequest, lateLink, smallRequest])
  obtain ⟨hsame, htokens⟩ := locked_out (fun t ht => ((Table.mem_empty t).mp ht).elim) hbefore
    (hreset.step _ _) hresets hfirst le_rfl hsecond hunforged
  have hgiven : (⟨smallToken, 7, 0⟩ : LogEntry AccessTokenPayload) ∈
      (ApiEvent.auth smallLogin).given .plain smallState.auth := List.mem_singleton_self _
  exact ⟨hsame, by decide, by decide,
    htokens _ (List.mem_append_left _ hgiven) rfl _ rfl (by decide)⟩

end Coworking
