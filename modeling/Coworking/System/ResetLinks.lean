import Coworking.System.Sessions

/-!
# Reset Links

A reset link is the text of a reset token.  Using one closes it, and nothing else does: not the
reset of the password with another link of the same user, nor a newer link.

- `UsesLink`: a successful reset with a link;
- `LinkChange`, `LinkChange.link`: one reset token under a call;
- `LinksActive`: every link is for an active user;
- `link_over`: over a run, a link stays open exactly as long as nobody uses it;
- `reset_closes_its_link`: which links a later reset accepts;
- `other_link_survives`: two links of one user.
-/

namespace Coworking

open Foundation

variable {τ : Type} {env : SessionEnv τ} {c : AuthCall} {s s' : AuthStore} {op : AuthOp}
  {answer : Except AuthError (Answer τ)} {x y z w : AuthState} {e : AuthEvent}
  {es fs : List AuthEvent} {k : String} {row : PasswordResetToken}

/-! ## §1 One link under a call -/

/-- The call resets a password with a token that has the given hash, and succeeds. -/
def UsesLink (env : SessionEnv τ) (tokenHash : String) (s : AuthStore) (e : AuthEvent) : Prop :=
  ∃ payload, e.op = .resetPassword payload ∧ env.hashToken payload.token = tokenHash ∧
    Returns (e.answer env s)

/-- The hash is that of a reset token that is used. -/
def AuthStore.LinkUsed (s : AuthStore) (tokenHash : String) : Prop :=
  ∃ row, s.passwordResetTokens.get? tokenHash = some row ∧ row.usedAt ≠ none

/-- A call as the reset tokens see it, and the users they are for. -/
inductive LinkChange (env : SessionEnv τ) (c : AuthCall) (s : AuthStore) :
    AuthOp → AuthStore → Except AuthError (Answer τ) → Prop
  | kept {op : AuthOp} {s' : AuthStore} {answer : Except AuthError (Answer τ)} :
      s'.passwordResetTokens = s.passwordResetTokens →
      (∀ id user, s.users.get? id = some user → s'.users.get? id = some user) →
      LinkChange env c s op s' answer
  | requested {email : String} {user : Account} {s' : AuthStore}
      {answer : Except AuthError (Answer τ)}
      (hnew : Keyed.key (issueResetToken env c user) ∉ s.passwordResetTokens.keys) :
      user ∈ s.users → user.status = .active →
      s'.passwordResetTokens = s.passwordResetTokens.insert (issueResetToken env c user) hnew →
      s'.users = s.users → LinkChange env c s (.requestPasswordReset email) s' answer
  | reset {payload : ResetPasswordRequest} {d : ResetDraft} :
      checkReset env c s payload = .ok d →
      LinkChange env c s (.resetPassword payload) (commitReset (c.now 1) s d) (.ok .done)

/-- **The view of the reset tokens.** -/
theorem AuthEffect.linkChange (h : AuthEffect env c s op s' answer) :
    LinkChange env c s op s' answer := by
  have hsession : ∀ {t s' : AuthStore} {row : RefreshToken}, t.addRefreshToken row = .ok s' →
      s'.passwordResetTokens = t.passwordResetTokens ∧ s'.users = t.users := by
    intro t s' row hadd
    obtain ⟨_, rfl⟩ := AuthStore.addRefreshToken_eq_ok.mp hadd
    exact ⟨rfl, rfl⟩
  cases h with
  | failed => exact .kept rfl fun _ _ h => h
  | @registered _ _ _ hid _ _ => exact .kept rfl fun _ _ h => Table.get?_insert_of_some hid h
  | loggedIn _ hadd =>
    obtain ⟨hlinks, husers⟩ := hsession hadd
    exact .kept hlinks fun _ _ h => husers ▸ h
  | expired => exact .kept rfl fun _ _ h => h
  | rotated _ hadd =>
    obtain ⟨hlinks, husers⟩ := hsession hadd
    exact .kept hlinks fun _ _ h => husers ▸ h
  | loggedOut => exact .kept rfl fun _ _ h => h
  | resetRequested hr =>
    -- A request for an address that nobody active has leaves no token.
    rcases requestPasswordReset_eq_ok hr with hs' | ⟨user, huser, hactive, hnew, hs'⟩
    · obtain rfl : s' = s := hs'
      exact .kept rfl fun _ _ h => h
    · rw [show s' = _ from hs']
      exact .requested hnew huser hactive rfl rfl
  | reset hd => exact .reset hd

/-- What a call does to a reset token: nothing, unless it is a reset with it. -/
theorem LinkChange.link (h : LinkChange env c s op s' answer)
    (hget : s.passwordResetTokens.get? k = some row) :
    s'.passwordResetTokens.get? k = some row ∨
      s'.LinkUsed k ∧ row.usedAt = none ∧ Returns answer ∧
        ∃ payload, op = .resetPassword payload ∧ env.hashToken payload.token = k := by
  cases h with
  | kept hlinks _ => exact .inl (hlinks ▸ hget)
  | requested hnew _ _ hlinks _ =>
    exact .inl (hlinks ▸ Table.get?_insert_of_some hnew hget)
  | @reset payload d hd =>
    obtain ⟨resetToken, htoken, hopen, -, hhash, -⟩ := checkReset_row hd
    rw [get?_commitReset, hget, Option.map_some]
    by_cases hk : k = d.tokenHash
    · obtain rfl : resetToken = row := by
        rw [← hhash, ← hk, hget] at htoken
        exact (Option.some.inj htoken).symm
      refine .inr ⟨⟨_, by rw [get?_commitReset, hget, Option.map_some, if_pos hk], ?_⟩, hopen,
        ⟨_, rfl⟩, payload, rfl, (hk.trans hhash).symm⟩
      exact Option.some_ne_none _
    · rw [if_neg hk]
      exact .inl rfl

/-- **A link that is used is closed.** -/
theorem UsesLink.used (h : UsesLink env k s e) : (authStep env s e).LinkUsed k := by
  obtain ⟨payload, hop, rfl, a, ha⟩ := h
  have heffect := authStep_effect env s e
  rw [ha, hop] at heffect
  generalize authStep env s e = s' at heffect ⊢
  cases heffect with
  | reset hd =>
    obtain ⟨resetToken, htoken, -, -, hhash, -⟩ := checkReset_row hd
    refine ⟨_, by rw [get?_commitReset, htoken, Option.map_some, if_pos hhash.symm], ?_⟩
    exact Option.some_ne_none _

/-- A link that nobody uses stays as it is. -/
theorem link_kept (hnot : ¬ UsesLink env k s e) (hget : s.passwordResetTokens.get? k = some row) :
    (authStep env s e).passwordResetTokens.get? k = some row := by
  rcases (authStep_effect env s e).linkChange.link hget with
    hkept | ⟨-, -, hreturns, payload, hop, hhash⟩
  · exact hkept
  · exact (hnot ⟨payload, hop, hhash, hreturns⟩).elim

/-- A used link stays used. -/
theorem AuthStore.LinkUsed.step (h : s.LinkUsed k) (e : AuthEvent) :
    (authStep env s e).LinkUsed k := by
  obtain ⟨row, hget, hused⟩ := h
  rcases (authStep_effect env s e).linkChange.link hget with hkept | ⟨-, hopen, -⟩
  · exact ⟨row, hkept, hused⟩
  · exact (hused hopen).elim

theorem AuthStore.LinkUsed.replay (h : s.LinkUsed k) (es : List AuthEvent) :
    (authReplay env s es).LinkUsed k := by
  induction es generalizing s with
  | nil => exact h
  | cons e es ih => exact ih (h.step e)

/-! ## §2 Links are for active users -/

/-- Every reset token belongs to an active user. -/
def LinksActive (s : AuthStore) : Prop :=
  ∀ row ∈ s.passwordResetTokens, ∃ user, s.users.get? row.userId = some user ∧ user.status = .active

/-- No call takes a user away or changes a status. -/
theorem LinkChange.users (h : LinkChange env c s op s' answer) {id : Uuid} {user : Account}
    (hget : s.users.get? id = some user) :
    ∃ user', s'.users.get? id = some user' ∧ user'.status = user.status := by
  cases h with
  | kept _ husers => exact ⟨user, husers id user hget, rfl⟩
  | requested _ _ _ _ husers => exact ⟨user, husers ▸ hget, rfl⟩
  | @reset _ d _ =>
    have hmodify : (commitReset (c.now 1) s d).users =
        s.users.modify d.userId (Account.setPassword d.passwordHash)
          (Account.setPassword_key d.passwordHash) := rfl
    rw [hmodify, Table.get?_modify, hget, Option.map_some]
    refine ⟨_, rfl, ?_⟩
    split
    · rfl
    · rfl

/-- Where a reset token comes from: it was there, or it is new, unused, and for an active user. -/
theorem LinkChange.link_origin (h : LinkChange env c s op s' answer)
    (hrow : row ∈ s'.passwordResetTokens) :
    (∃ old ∈ s.passwordResetTokens, old.userId = row.userId) ∨
      ∃ user, s.users.get? row.userId = some user ∧ user.status = .active := by
  cases h with
  | kept hlinks _ => exact .inl ⟨row, hlinks ▸ hrow, rfl⟩
  | @requested _ user _ _ hnew huser hactive hlinks _ =>
    rw [hlinks] at hrow
    rcases Table.mem_insert.mp hrow with hold | rfl
    · exact .inl ⟨row, hold, rfl⟩
    · exact .inr ⟨user, Table.get?_eq_some.mpr ⟨huser, rfl⟩, hactive⟩
  | @reset _ d _ =>
    have hmodify : (commitReset (c.now 1) s d).passwordResetTokens =
        s.passwordResetTokens.modify d.tokenHash (PasswordResetToken.use d.now)
          (PasswordResetToken.use_key d.now) := rfl
    rw [hmodify, Table.mem_modify] at hrow
    obtain ⟨old, hold, rfl⟩ := hrow
    refine .inl ⟨old, hold, ?_⟩
    split
    · rfl
    · rfl

theorem LinksActive.step (h : LinksActive x.store) (hstep : AuthStep env x e y) :
    LinksActive y.store := by
  intro row hrow
  have hbefore : ∃ user, x.store.users.get? row.userId = some user ∧ user.status = .active := by
    rcases hstep.effect.linkChange.link_origin hrow with ⟨old, hold, hsame⟩ | hnew
    · exact hsame ▸ h old hold
    · exact hnew
  obtain ⟨user, huser, hactive⟩ := hbefore
  obtain ⟨user', huser', hstatus⟩ := hstep.effect.linkChange.users huser
  exact ⟨user', huser', hstatus.trans hactive⟩

theorem linksActive_run (hstart : ∀ row, row ∉ x.store.passwordResetTokens)
    (hrun : Run (AuthStep env) x es y) : LinksActive y.store :=
  hrun.invariant (I := fun y => LinksActive y.store) (fun _ _ _ h hstep => h.step hstep)
    fun row hrow => (hstart row hrow).elim

/-! ## §3 Links over a run -/

/-- None of the calls uses the link. -/
def Unused (env : SessionEnv τ) (tokenHash : String) : AuthStore → List AuthEvent → Prop
  | _, [] => True
  | s, e :: es => ¬ UsesLink env tokenHash s e ∧ Unused env tokenHash (authStep env s e) es

/-- **A link stays open exactly as long as nobody uses it.** -/
theorem link_over (hget : s.passwordResetTokens.get? k = some row) (es : List AuthEvent) :
    Unused env k s es ∧ (authReplay env s es).passwordResetTokens.get? k = some row ∨
      ¬ Unused env k s es ∧ (authReplay env s es).LinkUsed k := by
  induction es generalizing s with
  | nil => exact .inl ⟨trivial, hget⟩
  | cons e es ih =>
    by_cases huses : UsesLink env k s e
    · exact .inr ⟨fun h => h.1 huses, huses.used.replay es⟩
    · rcases ih (link_kept huses hget) with ⟨hunused, hopen⟩ | ⟨hused, hlink⟩
      · exact .inl ⟨⟨huses, hunused⟩, hopen⟩
      · exact .inr ⟨fun h => hused h.2, hlink⟩

/-- A used link is refused. -/
theorem AuthStore.LinkUsed.refused {payload : ResetPasswordRequest}
    (h : s.LinkUsed (env.hashToken payload.token)) : ¬ Returns (resetPassword env c s payload) := by
  rintro ⟨s', hok⟩
  obtain ⟨row, hget, hused⟩ := h
  obtain ⟨d, hd, -⟩ := (bind_eq_ok _ _ _).mp hok
  obtain ⟨resetToken, hget', hopen, -⟩ := checkReset_row hd
  obtain rfl : row = resetToken := Option.mem_unique hget hget'
  exact hused hopen

/-- **Which links are accepted.**  An unused one, for an active user, until it expires. -/
theorem link_accepted_iff {payload : ResetPasswordRequest} (hactive : LinksActive s)
    (hget : s.passwordResetTokens.get? (env.hashToken payload.token) = some row) :
    Returns (resetPassword env c s payload) ↔ row.usedAt = none ∧ c.now 0 < row.expiresAt := by
  constructor
  · rintro ⟨s', hok⟩
    obtain ⟨d, hd, -⟩ := (bind_eq_ok _ _ _).mp hok
    obtain ⟨resetToken, hget', hopen, hexp, -⟩ := checkReset_row hd
    obtain rfl : row = resetToken := Option.mem_unique hget hget'
    exact ⟨hopen, hexp⟩
  · rintro ⟨hopen, hexp⟩
    obtain ⟨user, huser, hstatus⟩ := hactive row (Table.mem_of_get? hget)
    have hd := checkReset_eq_ok.mpr ⟨row, user,
      AuthStore.unusedResetToken?_eq_some.mpr ⟨hget, hopen⟩, hexp, huser, hstatus, rfl⟩
    exact ⟨_, (bind_eq_ok _ _ _).mpr ⟨_, hd, rfl⟩⟩

/-- **A reset closes its own link, and no other.**  After a successful reset the token it presented
is never accepted again.  Every other reset token that was issued before is accepted from then on
exactly if it has not been used itself, before or since, and has not expired. -/
theorem reset_closes_its_link {used : ResetPasswordRequest}
    (hstart : ∀ row, row ∉ x.store.passwordResetTokens) (hbefore : Run (AuthStep env) x es y)
    (hreset : AuthStep env y e z) (hop : e.op = .resetPassword used)
    (hok : Returns (e.answer env y.store)) (hafter : Run (AuthStep env) z fs w) :
    (∀ c payload, env.hashToken payload.token = env.hashToken used.token →
      ¬ Returns (resetPassword env c w.store payload)) ∧
    ∀ c payload row, y.store.passwordResetTokens.get? (env.hashToken payload.token) = some row →
      env.hashToken payload.token ≠ env.hashToken used.token →
      (Returns (resetPassword env c w.store payload) ↔
        row.usedAt = none ∧ Unused env (env.hashToken payload.token) z.store fs ∧
          c.now 0 < row.expiresAt) := by
  have hw : w.store = authReplay env z.store fs := authRun_store hafter
  have hz : z.store = authStep env y.store e := hreset.store
  have huses : UsesLink env (env.hashToken used.token) y.store e := ⟨used, hop, rfl, hok⟩
  refine ⟨fun c payload hsame => ?_, fun c payload row hget hother => ?_⟩
  · have hused : w.store.LinkUsed (env.hashToken used.token) :=
      hw ▸ (hz ▸ huses.used : z.store.LinkUsed _).replay fs
    exact AuthStore.LinkUsed.refused (hsame ▸ hused)
  · have hactive : LinksActive w.store :=
      linksActive_run hstart ((hbefore.snoc hreset).append hafter)
    have hnot : ¬ UsesLink env (env.hashToken payload.token) y.store e := by
      rintro ⟨payload', hop', hhash, -⟩
      obtain rfl := AuthOp.resetPassword.inj (hop.symm.trans hop')
      exact hother hhash.symm
    have hkept : z.store.passwordResetTokens.get? (env.hashToken payload.token) = some row :=
      hz ▸ link_kept hnot hget
    -- From the reset on, the row stays as it is until somebody uses it.
    rcases link_over hkept fs with ⟨hunused, hopen⟩ | ⟨hused, hlink⟩
    · rw [← hw] at hopen
      rw [link_accepted_iff hactive hopen]
      exact and_congr_right fun _ => (and_iff_right hunused).symm
    · rw [← hw] at hlink
      exact iff_of_false hlink.refused fun h => hused h.2.1

/-! ## §4 Two links of one user -/

/-- The user asks for two links, -/
def smallLinks : List AuthEvent := [smallReset "reset-token-0001", smallReset "reset-token-0002"]

/-- and uses the first. -/
def firstReset : AuthEvent := ⟨.plain 1 "", .resetPassword firstLink⟩

/-- The second. -/
def secondLink : ResetPasswordRequest := newPassword "reset-token-0002" (by decide)

/-- The store after the reset. -/
def afterFirstLink : AuthStore := authReplay .plain smallAuth (smallLinks ++ [firstReset])

theorem reset_closes_its_link_first :
    Returns (resetPassword .plain (.plain 2 "") afterFirstLink secondLink) ↔
      (none : Option Instant) = none ∧ Unused .plain "reset-token-0002" afterFirstLink [] ∧
        2 < minutes 30 := by
  have hbefore : Run (AuthStep .plain) ⟨0, smallAuth⟩ smallLinks
      ⟨0, authReplay .plain smallAuth smallLinks⟩ :=
    (by decide : AuthInOrder 0 smallLinks).run smallAuth
  have hreset : AuthStep .plain ⟨0, authReplay .plain smallAuth smallLinks⟩ firstReset
      ⟨1, afterFirstLink⟩ :=
    ⟨by decide, le_rfl, authReplay_snoc _ _ _ _⟩
  exact (reset_closes_its_link (fun _ => (Table.mem_empty _).mp) hbefore hreset rfl (by decide)
    (.nil _)).2 (.plain 2 "") secondLink ⟨"reset-token-0002", 7, minutes 30, none⟩ (by decide)
    (by decide)

/-- After a reset with the first link the second still resets the password. -/
theorem other_link_survives :
    Run (AuthStep .plain) ⟨0, smallAuth⟩ (smallLinks ++ [firstReset])
      ⟨1, afterFirstLink⟩ ∧
    (authReplay .plain smallAuth smallLinks).passwordResetTokens.rows.map
        (fun row => (row.tokenHash, row.userId)) =
      [("reset-token-0001", 7), ("reset-token-0002", 7)] ∧
    ResetsUser .plain 7 ⟨0, authReplay .plain smallAuth smallLinks⟩ firstReset ∧
    Returns (resetPassword .plain (.plain 2 "") afterFirstLink secondLink) := by
  refine ⟨(by decide : AuthInOrder 0 (smallLinks ++ [firstReset])).run smallAuth, by decide, ?_,
    by decide⟩
  exact ⟨_, ⟨"reset-token-0001", 7, minutes 30, none⟩, rfl, by decide, by decide, rfl⟩

end Coworking
