import Coworking.Foundation.Succession
import Coworking.System.AuthOperation

/-!
# The End of a Session

A refresh token is good until it is presented, its owner resets the password, or it expires.

- `AuthEffect.issued_or_kept`, `AuthEffect.keeps`: where an unrevoked row comes from, and where a
  revoked one goes;
- `Spends.revoked`, `ResetsUser.revoked`: what ends a session revokes it;
- `Rotated`: the rotations of a run and the rows they have left behind;
- `resetPassword_frame`: a reset leaves the tokens of other users alone;
- `session_ends`: the three together, over serial runs.
-/

namespace Coworking

open Foundation

variable {τ : Type} {env : SessionEnv τ} {c : AuthCall} {s s' : AuthStore} {op : AuthOp}
  {answer : Except AuthError (Answer τ)} {x y : AuthState} {e : AuthEvent}
  {es : List AuthEvent} {k r : String} {row : RefreshToken}

/-! ## §1 One refresh token under a call -/

/-- The hash is that of a refresh token that is not revoked. -/
def AuthStore.Unrevoked (s : AuthStore) (tokenHash : String) : Prop :=
  ∃ row, s.refreshTokens.get? tokenHash = some row ∧ row.revokedAt = none

/-- The hash is that of a revoked refresh token. -/
def AuthStore.Revoked (s : AuthStore) (tokenHash : String) : Prop :=
  ∃ row, s.refreshTokens.get? tokenHash = some row ∧ row.revokedAt ≠ none

theorem AuthStore.Revoked.not_unrevoked (h : s.Revoked k) : ¬ s.Unrevoked k := by
  rintro ⟨row, hrow, hlive⟩
  obtain ⟨row', hrow', hdead⟩ := h
  rw [hrow, Option.some.injEq] at hrow'
  exact hdead (hrow' ▸ hlive)

/-- Rows that were to be revoked are. -/
theorem Turns.revoked {revoked : List String} {now : Instant} {added : Option RefreshToken}
    (h : Turns s.refreshTokens revoked now added s'.refreshTokens)
    (hget : s.refreshTokens.get? k = some row) (hk : k ∈ revoked) : s'.Revoked k := by
  have hkey : row.tokenHash = k := Table.key_of_get? hget
  refine ⟨_, h.get?_of_some hget, ?_⟩
  rw [RefreshToken.revoke, if_pos (hkey ▸ hk)]
  exact Option.some_ne_none _

/-- A revoked token stays revoked. -/
theorem Turns.keeps {revoked : List String} {now : Instant} {added : Option RefreshToken}
    (h : Turns s.refreshTokens revoked now added s'.refreshTokens) (hk : s.Revoked k) :
    s'.Revoked k := by
  obtain ⟨row, hget, hdead⟩ := hk
  refine ⟨_, h.get?_of_some hget, fun hlive => ?_⟩
  rw [(RefreshToken.revoke_eq_none hlive).1] at hlive
  exact hdead hlive

/-- What a call does to the refresh tokens.  It adds a row only if it answers with its token. -/
theorem AuthEffect.turns (h : AuthEffect env c s op s' answer) :
    ∃ revoked now added, Turns s.refreshTokens revoked now added s'.refreshTokens ∧
      ∀ row, added = some row → ∃ response, answer = .ok (.session response) ∧
        response.refreshToken = c.secret ∧ env.hashToken response.refreshToken = row.tokenHash ∧
        response.user.id = row.userId := by
  have hunchanged : ∃ revoked now added, Turns s.refreshTokens revoked now added s.refreshTokens ∧
      ∀ row, added = some row → ∃ response, answer = .ok (.session response) ∧
        response.refreshToken = c.secret ∧ env.hashToken response.refreshToken = row.tokenHash ∧
        response.user.id = row.userId :=
    ⟨[], c.now 0, none, .refl _ _, fun _ => nofun⟩
  cases h with
  | failed => exact hunchanged
  | registered => exact hunchanged
  | loggedIn hissued hadd =>
    obtain ⟨user, -, -, -, rfl⟩ := checkLogin_eq_ok.mp hissued
    refine ⟨[], c.now 0, some _, (Turns.refl s.refreshTokens _).add hadd, ?_⟩
    rintro _ ⟨⟩
    exact ⟨_, rfl, rfl, rfl, rfl⟩
  | expired => exact ⟨_, _, none, turns_revokeRefreshTokens s _ _, fun _ => nofun⟩
  | rotated hd hadd =>
    obtain ⟨record, user, -, -, -, -, -, -, rfl, rfl⟩ := checkRefresh_rotates hd
    refine ⟨_, _, some _, (turns_revokeRefreshTokens s _ _).add hadd, ?_⟩
    rintro _ ⟨⟩
    exact ⟨_, rfl, rfl, rfl, rfl⟩
  | loggedOut => exact ⟨_, _, none, turns_revokeRefreshTokens s _ _, fun _ => nofun⟩
  | resetRequested hr =>
    rcases requestPasswordReset_eq_ok hr with hs' | ⟨user, -, -, hnew, hs'⟩
    · obtain rfl : s' = s := hs'
      exact hunchanged
    · -- The new row is in the other table.
      have hsame : s'.refreshTokens = s.refreshTokens := by
        rw [show s' = _ from hs']
        rfl
      rw [hsame]
      exact hunchanged
  | reset => exact ⟨_, _, none, turns_revokeRefreshTokens s _ _, fun _ => nofun⟩

/-- **Where an unrevoked row comes from.**  The call answered with its token, or it was there. -/
theorem AuthEffect.issued_or_kept (h : AuthEffect env c s op s' answer)
    (hget : s'.refreshTokens.get? k = some row) (hlive : row.revokedAt = none) :
    (∃ response, answer = .ok (.session response) ∧ response.refreshToken = c.secret ∧
      env.hashToken response.refreshToken = k ∧ response.user.id = row.userId) ∨
      s.refreshTokens.get? k = some row := by
  obtain ⟨revoked, now, added, hturns, hadded⟩ := h.turns
  rcases hturns.unrevoked hget hlive with hnew | ⟨hold, -⟩
  · obtain ⟨response, hanswer, hsecret, hhash, huser⟩ := hadded row hnew
    have hkey : row.tokenHash = k := Table.key_of_get? hget
    exact .inl ⟨response, hanswer, hsecret, hhash.trans hkey, huser⟩
  · exact .inr hold

/-- No call brings a revoked token back. -/
theorem AuthEffect.keeps (h : AuthEffect env c s op s' answer) (hk : s.Revoked k) :
    s'.Revoked k := by
  obtain ⟨revoked, now, added, hturns, -⟩ := h.turns
  exact hturns.keeps hk

/-! ## §2 What ends a session -/

/-- `refresh_user_session` or `logout_user_session` accepts the token. -/
def AcceptsToken (env : SessionEnv τ) (c : AuthCall) (s : AuthStore) (r : String) : Prop :=
  Returns (refreshUserSession env c s r).2 ∨ Returns (logoutUserSession env c s r)

/-- The call answers with the token, for the owner of the row that is stored for it. -/
def Issues (env : SessionEnv τ) (r : String) (row : RefreshToken) (x : AuthState) (e : AuthEvent)
    (y : AuthState) : Prop :=
  ∃ response, e.answer env x.store = .ok (.session response) ∧ response.refreshToken = r ∧
    response.user.id = row.userId ∧ y.store.refreshTokens.get? (env.hashToken r) = some row

/-- The call presents the token to refresh or log out, and succeeds. -/
def Spends (env : SessionEnv τ) (r : String) (x : AuthState) (e : AuthEvent) : Prop :=
  (e.op = .refreshUserSession r ∨ e.op = .logoutUserSession r) ∧ Returns (e.answer env x.store)

/-- The call resets the password of the user, and succeeds. -/
def ResetsUser (env : SessionEnv τ) (userId : Uuid) (x : AuthState) (e : AuthEvent) : Prop :=
  ∃ payload resetToken, e.op = .resetPassword payload ∧ Returns (e.answer env x.store) ∧
    x.store.passwordResetTokens.get? (env.hashToken payload.token) = some resetToken ∧
    resetToken.userId = userId

/-- An accepted token has an unrevoked row that has not expired. -/
theorem AcceptsToken.liveRow (h : AcceptsToken env c s r) :
    ∃ row, s.refreshTokens.get? (env.hashToken r) = some row ∧ row.revokedAt = none ∧
      c.now 0 < row.expiresAt := by
  rcases h with ⟨response, hok⟩ | ⟨s', hok⟩
  · unfold refreshUserSession at hok
    cases hd : checkRefresh env c s r with
    | error err =>
      rw [hd] at hok
      cases hok
    | ok d =>
      cases d with
      | expired tokenHash now =>
        -- An expired token is revoked and refused.
        rw [hd] at hok
        cases hok
      | rotate tokenHash now response row =>
        obtain ⟨record, user, hget, hlive, hexp, -⟩ := checkRefresh_rotates hd
        exact ⟨record, hget, hlive, hexp⟩
  · obtain ⟨record, hrecord, -⟩ := (bind_eq_ok _ _ _).mp hok
    obtain ⟨hlive, hexp⟩ := checkLogout_eq_ok.mp hrecord
    obtain ⟨hget, hlive⟩ := AuthStore.liveRefreshToken?_eq_some.mp hlive
    exact ⟨record, hget, hlive, hexp⟩

/-- **A token that is spent is revoked.** -/
theorem Spends.revoked (h : Spends env r x e) (hstep : AuthStep env x e y) :
    y.store.Revoked (env.hashToken r) := by
  obtain ⟨hop, a, ha⟩ := h
  have heffect := hstep.effect
  rw [ha] at heffect
  rcases hop with hop | hop
  · rw [hop] at heffect
    generalize y.store = s' at heffect ⊢
    cases heffect with
    | rotated hd hadd =>
      obtain ⟨record, user, hget, -, -, -, rfl, -⟩ := checkRefresh_rotates hd
      exact ((turns_revokeRefreshTokens _ _ _).add hadd).revoked hget (List.mem_singleton_self _)
  · rw [hop] at heffect
    generalize y.store = s' at heffect ⊢
    cases heffect with
    | @loggedOut _ record hrecord =>
      obtain ⟨hlive, -⟩ := checkLogout_eq_ok.mp hrecord
      obtain ⟨hget, -⟩ := AuthStore.liveRefreshToken?_eq_some.mp hlive
      have hkey : record.tokenHash = env.hashToken r := Table.key_of_get? hget
      exact (turns_revokeRefreshTokens _ _ _).revoked hget (hkey ▸ List.mem_singleton_self _)

/-- **A reset revokes every token of its user.** -/
theorem ResetsUser.revoked {userId : Uuid} (h : ResetsUser env userId x e)
    (hstep : AuthStep env x e y) (hget : y.store.refreshTokens.get? k = some row)
    (huser : row.userId = userId) : row.revokedAt ≠ none := by
  obtain ⟨payload, resetToken, hop, ⟨a, ha⟩, htoken, rfl⟩ := h
  have heffect := hstep.effect
  rw [ha, hop] at heffect
  generalize y.store = s' at heffect hget
  intro hlive
  cases heffect with
  | @reset _ d hd =>
    obtain ⟨resetToken', htoken', -, -, -, -, -, hsessions⟩ := checkReset_row hd
    obtain rfl : resetToken' = resetToken := Option.mem_unique htoken' htoken
    rcases (turns_commitReset _ x.store d).unrevoked hget hlive with hnew | ⟨hold, hnot⟩
    · cases hnew
    · refine hnot (hsessions ▸ ?_)
      exact AuthStore.mem_sessionsOf.mpr ⟨row, hold, huser, hlive⟩

/-! ## §3 Chains of rotations -/

/-- What a call makes of a refresh token: the hash of the one it presents and of the one it gets. -/
def rotation (env : SessionEnv τ) : AuthOp → Except AuthError (Answer τ) → List (String × String)
  | .refreshUserSession refreshToken, .ok (.session response) =>
    [(env.hashToken refreshToken, env.hashToken response.refreshToken)]
  | _, _ => []

/-- The rotations of a list of calls. -/
def rotations (env : SessionEnv τ) (s : AuthStore) : List AuthEvent → List (String × String)
  | [] => []
  | e :: es => rotation env e.op (e.answer env s) ++ rotations env (authStep env s e) es

theorem rotations_snoc (s : AuthStore) (es : List AuthEvent) (e : AuthEvent) :
    rotations env s (es ++ [e]) =
      rotations env s es ++ rotation env e.op (e.answer env (authReplay env s es)) := by
  induction es generalizing s with
  | nil => simp [rotations, authReplay]
  | cons d es ih => simp [rotations, authReplay, ih]

/-- Every token that was rotated is revoked, and none was rotated twice. -/
structure Rotated (s : AuthStore) (l : List (String × String)) : Prop where
  spent : ∀ a b, (a, b) ∈ l → s.Revoked a
  once : (l.map Prod.fst).Nodup

/-- A rotation takes an unrevoked token and revokes it. -/
theorem AuthEffect.rotation_cases (h : AuthEffect env c s op s' answer) :
    rotation env op answer = [] ∨
      ∃ a b, rotation env op answer = [(a, b)] ∧ s.Unrevoked a ∧ s'.Revoked a := by
  cases h with
  | rotated hd hadd =>
    obtain ⟨record, user, hget, hlive, -, -, rfl, -, rfl, -⟩ := checkRefresh_rotates hd
    exact .inr ⟨_, _, rfl, ⟨record, hget, hlive⟩,
      ((turns_revokeRefreshTokens _ _ _).add hadd).revoked hget (List.mem_singleton_self _)⟩
  | @failed op _ => cases op <;> exact .inl rfl
  | _ => exact .inl rfl

/-- The order of the rotations does not matter. -/
theorem Rotated.perm {l l' : List (String × String)} (h : Rotated s l) (hp : l.Perm l') :
    Rotated s l' where
  spent := fun a b hab => h.spent a b (hp.mem_iff.mpr hab)
  once := (hp.map Prod.fst).nodup_iff.mp h.once

/-- Revoked tokens stay revoked, so the rotations that were there are no concern. -/
theorem Rotated.later {l : List (String × String)} (h : Rotated s l)
    (hkeep : ∀ k, s.Revoked k → s'.Revoked k) : Rotated s' l where
  spent := fun a b hab => hkeep a (h.spent a b hab)
  once := h.once

/-- **One more rotation.** -/
theorem Rotated.cons {l : List (String × String)} {a b : String} (h : Rotated s l)
    (hkeep : ∀ k, s.Revoked k → s'.Revoked k) (hlive : s.Unrevoked a) (hdead : s'.Revoked a) :
    Rotated s' ((a, b) :: l) where
  spent := fun a' b' hab => by
    rcases List.mem_cons.mp hab with he | hab
    · obtain ⟨rfl, rfl⟩ := Prod.mk.inj he
      exact hdead
    · exact hkeep a' (h.spent a' b' hab)
  once := by
    rw [List.map_cons, List.nodup_cons]
    refine ⟨fun ha => ?_, h.once⟩
    -- What was rotated before is revoked, and this token is not.
    obtain ⟨⟨a', b'⟩, hmem, rfl⟩ := List.mem_map.mp ha
    exact (h.spent a' b' hmem).not_unrevoked hlive

/-- **One call and the chains.** -/
theorem Rotated.step {l : List (String × String)} (h : Rotated s l)
    (heffect : AuthEffect env c s op s' answer) : Rotated s' (l ++ rotation env op answer) := by
  rcases heffect.rotation_cases with hnone | ⟨a, b, hone, hlive, hdead⟩
  · rw [hnone, List.append_nil]
    exact h.later fun _ => heffect.keeps
  · rw [hone]
    exact (h.cons (fun _ => heffect.keeps) hlive hdead).perm (List.perm_append_singleton _ _).symm

theorem rotated_run (hrun : Run (AuthStep env) x es y) :
    Rotated y.store (rotations env x.store es) := by
  refine hrun.history (I := fun es y => Rotated y.store (rotations env x.store es))
    (fun es y e z hrun h hstep => ?_) ⟨fun _ _ => nofun, List.nodup_nil⟩
  rw [rotations_snoc, ← authRun_store hrun]
  exact h.step hstep.effect

/-- **One unrevoked token in a chain.** -/
theorem Rotated.chain_unique {l : List (String × String)} (h : Rotated s l) {root a b : String}
    (ha : Descends l root a) (hb : Descends l root b) (hla : s.Unrevoked a)
    (hlb : s.Unrevoked b) : a = b :=
  Descends.live_unique h.once (fun _ _ hab => (h.spent _ _ hab).not_unrevoked) ha hb hla hlb

/-! ## §4 What a reset leaves alone -/

/-- **The tokens of other users**, of either kind, are the same after a reset. -/
theorem resetPassword_frame {payload : ResetPasswordRequest}
    (h : resetPassword env c s payload = .ok s') :
    ∃ resetToken, s.passwordResetTokens.get? (env.hashToken payload.token) = some resetToken ∧
      (∀ k row, row.userId ≠ resetToken.userId →
        (s'.refreshTokens.get? k = some row ↔ s.refreshTokens.get? k = some row)) ∧
      ∀ k row, row.userId ≠ resetToken.userId →
        (s'.passwordResetTokens.get? k = some row ↔ s.passwordResetTokens.get? k = some row) := by
  obtain ⟨d, hd, h⟩ := (bind_eq_ok _ _ _).mp h
  obtain rfl := (pure_eq_ok _ _).mp h
  obtain ⟨resetToken, user, hunused, -, -, -, rfl⟩ := checkReset_eq_ok.mp hd
  obtain ⟨htoken, -⟩ := AuthStore.unusedResetToken?_eq_some.mp hunused
  refine ⟨resetToken, htoken, fun k row hother => ?_, fun k row hother => ?_⟩
  · have hmap := (turns_revokeRefreshTokens s (s.sessionsOf resetToken.userId) (c.now 0)).others k
      fun _ => nofun
    -- The row of another user is not among those that the reset has loaded.
    have hkept : ∀ row', s.refreshTokens.get? k = some row' →
        row'.userId ≠ resetToken.userId →
        row'.revoke (s.sessionsOf resetToken.userId) (c.now 0) = row' := by
      intro row' hget hne
      refine if_neg fun hmem => ?_
      obtain ⟨row'', hget', huser, -⟩ := AuthStore.mem_sessionsOf.mp hmem
      have hkey : row'.tokenHash = k := Table.key_of_get? hget
      rw [hkey, hget] at hget'
      obtain rfl := Option.some.inj hget'
      exact hne huser
    constructor
    · intro hget
      obtain ⟨row', hold, rfl⟩ := Option.map_eq_some_iff.mp (hmap.symm.trans hget)
      rw [RefreshToken.revoke_userId] at hother
      rw [hkept row' hold hother]
      exact hold
    · intro hget
      refine hmap.trans ?_
      rw [hget, Option.map_some, hkept row hget hother]
  · rw [get?_commitReset]
    by_cases hk : k = env.hashToken payload.token
    · -- The row of the reset itself belongs to the user it is for.
      simp only [hk, htoken, if_pos, Option.map_some]
      constructor
      · rintro ⟨⟩
        exact (hother rfl).elim
      · rintro ⟨⟩
        exact (hother rfl).elim
    · simp [hk]

/-! ## §5 Serial runs -/

/-- **Sessions end when they should.**  In a run from a store without refresh tokens, an accepted
token was issued, has not expired, and since its issue nobody has spent it and nobody has reset
the password of its user.  Each chain of rotations has at most one unrevoked token, and a reset
leaves the tokens of other users alone. -/
theorem session_ends {drawn : Set String} (hinj : Set.InjOn env.hashToken drawn)
    (hstart : ∀ row, row ∉ x.store.refreshTokens) (hrun : Run (AuthStep env) x es y)
    (hdrawn : ∀ e ∈ es, e.call.secret ∈ drawn) :
    (∀ r ∈ drawn, ∀ c, AcceptsToken env c y.store r →
      ∃ row, y.store.refreshTokens.get? (env.hashToken r) = some row ∧ c.now 0 < row.expiresAt ∧
        Since (AuthStep env) (Issues env r row)
          (fun x e _ => Spends env r x e ∨ ResetsUser env row.userId x e) x es y) ∧
    (∀ root a b, Descends (rotations env x.store es) root a →
      Descends (rotations env x.store es) root b →
      y.store.Unrevoked a → y.store.Unrevoked b → a = b) ∧
    ∀ c payload s', resetPassword env c y.store payload = .ok s' →
      ∃ resetToken,
        y.store.passwordResetTokens.get? (env.hashToken payload.token) = some resetToken ∧
        (∀ k row, row.userId ≠ resetToken.userId →
          (s'.refreshTokens.get? k = some row ↔ y.store.refreshTokens.get? k = some row)) ∧
        ∀ k row, row.userId ≠ resetToken.userId →
          (s'.passwordResetTokens.get? k = some row ↔
            y.store.passwordResetTokens.get? k = some row) := by
  refine ⟨fun r hr c haccepts => ?_, fun root a b => (rotated_run hrun).chain_unique,
    fun c payload s' => resetPassword_frame⟩
  obtain ⟨row, hget, hlive, hexp⟩ := haccepts.liveRow
  refine ⟨row, hget, hexp, ?_⟩
  -- Back to where the row came from; it has been unrevoked all the way.
  refine hrun.since (P := fun y => y.store.refreshTokens.get? (env.hashToken r) = some row)
    (fun u e v he hstep hv => ?_) (fun hx => ?_) hget
  · rcases hstep.effect.issued_or_kept hv hlive with ⟨response, hanswer, hsecret, hhash, huser⟩ | hu
    · -- Two tokens that were drawn and have one hash are one token.
      have hsame : response.refreshToken = r := hinj (hsecret ▸ hdrawn e he) hr hhash
      exact .inl ⟨response, hanswer, hsame, huser, hv⟩
    · refine .inr ⟨hu, ?_⟩
      rintro (hspends | hresets)
      · exact (hspends.revoked hstep).not_unrevoked ⟨row, hv, hlive⟩
      · exact hresets.revoked hstep hv rfl hlive
  · exact hstart row (Table.mem_of_get? hx)

/-- The token of a login is accepted later. -/
theorem session_ends_login :
    ∃ row, (authReplay .plain smallAuth [smallLogin]).refreshTokens.get? "refresh-token-01" =
        some row ∧ 1 < row.expiresAt ∧
      Since (AuthStep .plain) (Issues .plain "refresh-token-01" row)
        (fun x e _ => Spends .plain "refresh-token-01" x e ∨ ResetsUser .plain row.userId x e)
        ⟨0, smallAuth⟩ [smallLogin] ⟨0, authReplay .plain smallAuth [smallLogin]⟩ := by
  have hrun : Run (AuthStep .plain) ⟨0, smallAuth⟩ [smallLogin]
      ⟨0, authReplay .plain smallAuth [smallLogin]⟩ :=
    (by decide : AuthInOrder 0 [smallLogin]).run smallAuth
  have haccepts : AcceptsToken .plain (.plain 1 "refresh-token-02")
      (authReplay .plain smallAuth [smallLogin]) "refresh-token-01" :=
    .inl (by decide)
  exact (session_ends (Set.injOn_of_injective Function.injective_id)
    (fun _ => (Table.mem_empty _).mp) hrun fun _ _ => Set.mem_univ _).1
    _ (Set.mem_univ _) _ haccepts

end Coworking
