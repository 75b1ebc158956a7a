import PokerRoom.Auth.Sessions

/-!
# Tokens work once

In every run of the commands of the auth service, a refresh token is accepted at most once, and
neither after a logout with it nor after a reset of the password of its user; a reset token is
accepted at most once (`tokens_single_use`).  A session that is revoked stays revoked
(`RevokedToken.of_ok`), and at most one session goes with a token that can be decoded
(`session_unique`).
-/

namespace PokerRoom

open Foundation

variable (service : AuthService)

/-! ## Definitions -/

/-- The token a command refreshes. -/
def AuthCommand.refreshed : AuthCommand → Option String
  | .refreshTokens data _ _ _ _ => some data.refreshToken
  | _ => none

/-- The token a command logs out with. -/
def AuthCommand.loggedOut : AuthCommand → Option String
  | .logout data _ _ => some data.refreshToken
  | _ => none

/-- The token a command resets a password with. -/
def AuthCommand.resetWith : AuthCommand → Option String
  | .resetPassword data _ _ => some data.token
  | _ => none

/-- The session a command names with the token it presents. -/
def AuthCommand.presentedSession : AuthCommand → Option String
  | .refreshTokens data _ decodedAt _ _ =>
    (service.decodeToken decodedAt data.refreshToken).bind (·.sessionId)
  | .logout data decodedAt _ =>
    (service.decodeToken decodedAt data.refreshToken).bind (·.sessionId)
  | _ => none

/-- The email address of the user a command issues tokens to. -/
def AuthCommand.subject : AuthCommand → Option String
  | .login data _ _ _ => some data.email
  | .refreshTokens data _ decodedAt _ _ =>
    (data.decode service decodedAt).toOption.map (·.subject)
  | _ => none

/-- Session identifiers are fresh: none is drawn that a token presented before has named. -/
def SessionIdsFresh (cs : List AuthCommand) : Prop :=
  cs.Pairwise fun c c' => ∀ sessionId ∈ c.presentedSession service, c'.drawnSession ≠ some sessionId

/-- A refresh token is issued to a user. -/
def IssuesTo (t : Transition AuthTables AuthCommand) (token : String) (userId : Int) : Prop :=
  (∃ accessToken expiresIn after,
    t.before.perform service t.command = .ok (.tokens accessToken token expiresIn, after)) ∧
    ∃ email user, t.command.subject service = some email ∧
      t.before.getUserByEmail email = some user ∧ user.id = userId

/-- The password of a user is reset. -/
def ResetsPasswordOf (t : Transition AuthTables AuthCommand) (userId : Int) : Prop :=
  ∃ token row, t.command.resetWith = some token ∧ t.before.getResetToken service token = some row ∧
    row.userId = userId

/-- Tokens are accepted at most once and never after they were revoked. -/
structure TokensSingleUse (trace : List (Transition AuthTables AuthCommand)) : Prop where
  /-- A refresh token is refreshed once. -/
  refreshedOnce : ∀ token, trace.Pairwise fun t t' =>
    t.command.refreshed = some token → t'.command.refreshed ≠ some token
  /-- It is not refreshed after a logout with it. -/
  loggedOut : ∀ token, trace.Pairwise fun t t' =>
    t.command.loggedOut = some token → t'.command.refreshed ≠ some token
  /-- It is not refreshed after a reset of the password of its user that followed its issue. -/
  reset : ∀ t₀ t₁ t₂ token userId, List.Sublist [t₀, t₁, t₂] trace →
    IssuesTo service t₀ token userId →
    ResetsPasswordOf service t₁ userId → t₂.command.refreshed ≠ some token
  /-- It is not refreshed when its session has expired. -/
  expired : ∀ t ∈ trace, ∀ data drawn decodedAt now issuedAt,
    t.command = .refreshTokens data drawn decodedAt now issuedAt → ∀ session ∈ t.before.sessions,
      session.refreshTokenHash = service.hashToken data.refreshToken → now < session.expiresAt
  /-- An access token is not refreshed. -/
  access : ∀ t ∈ trace, ∀ userEmail roles drawn now,
    t.command.refreshed ≠ some (issueTokenPair service userEmail roles drawn now).accessToken
  /-- A reset token is used once. -/
  resetOnce : ∀ token, trace.Pairwise fun t t' =>
    t.command.resetWith = some token → t'.command.resetWith ≠ some token

/-- A session of the token is revoked. -/
def RevokedToken (token : String) (t : AuthTables) : Prop :=
  ∃ session ∈ t.sessions, session.identity.2.2 = service.hashToken token ∧ session.revokedAt ≠ none

/-- A session of the token belongs to the user. -/
def StoredFor (token : String) (userId : Int) (t : AuthTables) : Prop :=
  ∃ session ∈ t.sessions, session.identity.2.2 = service.hashToken token ∧
    session.identity.2.1 = userId

/-- A session of the token is revoked, or the session that the command names with the token is not
stored. -/
def LoggedOut (c : AuthCommand) (token : String) (t : AuthTables) : Prop :=
  RevokedToken service token t ∨ ∃ decodedAt claims, ∃ sessionId ∈ c.presentedSession service,
    service.decodeToken decodedAt token = some claims ∧ claims.sessionId = some sessionId ∧
      ∀ session ∈ t.sessions, session.id ≠ sessionId

/-- The reset token is used. -/
def UsedToken (token : String) (t : AuthTables) : Prop :=
  ∃ row ∈ t.resetTokens, row.identity.2 = service.hashToken token ∧ row.usedAt ≠ none

variable {service} {t t' : AuthTables} {c : AuthCommand} {token : String} {userId : Int}

/-! ## The session of a token -/

/-- A token that can be decoded names the session that goes with it. -/
lemma SessionsIssued.sessionId_eq (hsound : service.Sound)
    (h : SessionsIssued service t) {now : Int}
    {claims : TokenClaims} (hdecoded : service.decodeToken now token = some claims)
    {session : AuthSession} (hsession : session ∈ t.sessions)
    (hhash : session.refreshTokenHash = service.hashToken token) :
    claims.sessionId = some session.id := by
  obtain ⟨signed, hsid, hsigned⟩ := h.issued session hsession
  obtain rfl : token = service.encodeToken signed :=
    hsound.hashToken_injective (hhash.symm.trans hsigned)
  rw [hsound.decode_encode _ _ _ hdecoded]
  exact hsid

/-- At most one session goes with a token that can be decoded. -/
lemma session_unique (hsound : service.Sound) (h : SessionsIssued service t) {now : Int}
    {claims : TokenClaims} (hdecoded : service.decodeToken now token = some claims)
    {session session' : AuthSession} (hsession : session ∈ t.sessions)
    (hhash : session.refreshTokenHash = service.hashToken token) (hsession' : session' ∈ t.sessions)
    (hhash' : session'.refreshTokenHash = service.hashToken token) : session' = session := by
  have hid := h.sessionId_eq hsound hdecoded hsession hhash
  have hid' := h.sessionId_eq hsound hdecoded hsession' hhash'
  exact eq_of_key_eq h.constraints.sessionIds hsession' hsession
    (Option.some.inj (hid'.symm.trans hid))

/-- A session that is looked up is stored. -/
lemma mem_of_getSession {sessionId : String} {session : AuthSession}
    (h : t.getSession sessionId = some session) : session ∈ t.sessions ∧ session.id = sessionId :=
  mem_of_find?_key h

/-- A command that refreshes a token. -/
lemma eq_refreshTokens (h : c.refreshed = some token) :
    ∃ drawn decodedAt now issuedAt, c = .refreshTokens ⟨token⟩ drawn decodedAt now issuedAt := by
  unfold AuthCommand.refreshed at h
  split at h
  · next data drawn decodedAt now issuedAt =>
    obtain rfl := Option.some.inj h
    exact ⟨drawn, decodedAt, now, issuedAt, rfl⟩
  · cases h

/-- The machine carries out what the commands do. -/
lemma exists_reply (h : (authMachine service).step t c = .ok t') :
    ∃ reply, t.perform service c = .ok (reply, t') := by
  obtain ⟨⟨reply, after⟩, hperform, rfl⟩ := map_eq_ok_iff.mp h
  exact ⟨reply, hperform⟩

/-- A refreshed token can be decoded, and every session that goes with it is neither revoked nor
expired; afterwards it is revoked. -/
lemma refreshed_cases (hsound : service.Sound) (h : SessionsIssued service t)
    {drawn : DrawnIds} {decodedAt now issuedAt : Int}
    (hok : (authMachine service).step t (.refreshTokens ⟨token⟩ drawn decodedAt now issuedAt) =
      .ok t') :
    (∃ claims, service.decodeToken decodedAt token = some claims ∧
      claims.tokenType = some refreshTokenType ∧
      ∃ session ∈ t.sessions, claims.sessionId = some session.id ∧
        session.refreshTokenHash = service.hashToken token) ∧
      (∀ session ∈ t.sessions, session.refreshTokenHash = service.hashToken token →
        session.revokedAt = none ∧ now < session.expiresAt) ∧
      RevokedToken service token t' := by
  obtain ⟨reply, hperform⟩ := exists_reply hok
  obtain ⟨claims, session, user, hclaims, hcheck, -, -, -, rfl⟩ := refreshTokens_cases hperform
  obtain ⟨decoded, hdecoded, htype, hsid, -⟩ := decode_cases hclaims
  obtain ⟨hread, hactive, hexpires, hhash⟩ := checkSession_eq_ok_iff.mp hcheck
  obtain ⟨hmem, hid⟩ := mem_of_getSession hread
  refine ⟨⟨decoded, hdecoded, htype, session, hmem, by rw [hid]; exact hsid, hhash⟩,
    fun session' hmem' hhash' => ?_, session.revoke now, ?_, hhash, by simp [AuthSession.revoke]⟩
  · obtain rfl := session_unique hsound h hdecoded hmem hhash hmem' hhash'
    exact ⟨hactive, hexpires⟩
  · have hrevoked := (mem_updateFirst_iff (k := session.id) (f := (·.revoke now))
      h.constraints.sessionIds).mpr (Or.inl ⟨session, hmem, rfl, rfl⟩)
    exact List.mem_append_left _ hrevoked

/-- A token with a revoked session is not refreshed. -/
lemma RevokedToken.not_refreshed (hsound : service.Sound) (h : SessionsIssued service t)
    (hrevoked : RevokedToken service token t) (hok : (authMachine service).step t c = .ok t') :
    c.refreshed ≠ some token := by
  intro hc
  obtain ⟨drawn, decodedAt, now, issuedAt, rfl⟩ := eq_refreshTokens hc
  obtain ⟨session, hsession, hhash, hne⟩ := hrevoked
  exact hne ((refreshed_cases hsound h hok).2.1 session hsession hhash).1

/-! ## What stays -/

/-- A revoked session of a token stays. -/
lemma RevokedToken.of_ok (h : SessionsIssued service t) (hrevoked : RevokedToken service token t)
    (hok : (authMachine service).step t c = .ok t') : RevokedToken service token t' :=
  (grown_of_step h.constraints hok).2.1.exists_spent
    (P := fun identity => identity.2.2 = service.hashToken token) hrevoked

/-- The user of a session stays. -/
lemma StoredFor.of_ok (h : SessionsIssued service t) (hstored : StoredFor service token userId t)
    (hok : (authMachine service).step t c = .ok t') : StoredFor service token userId t' :=
  (grown_of_step h.constraints hok).2.1.exists_kept
    (P := fun identity => identity.2.2 = service.hashToken token ∧ identity.2.1 = userId) hstored

/-- A used reset token stays used. -/
lemma UsedToken.of_ok (h : SessionsIssued service t) (hused : UsedToken service token t)
    (hok : (authMachine service).step t c = .ok t') : UsedToken service token t' :=
  (grown_of_step h.constraints hok).2.2.exists_spent
    (P := fun identity => identity.2 = service.hashToken token) hused

/-- A session that is not stored is not stored until its identifier is drawn. -/
lemma getSession_of_ok (h : SessionsIssued service t) {sessionId : String}
    (hnone : ∀ session ∈ t.sessions, session.id ≠ sessionId)
    (hc : c.drawnSession ≠ some sessionId) (hok : (authMachine service).step t c = .ok t') :
    ∀ session ∈ t'.sessions, session.id ≠ sessionId := by
  intro session hsession hid
  rcases (grown_of_step h.constraints hok).2.1.grown session hsession with hold | hnew
  · obtain ⟨old, hold, hidentity⟩ := List.mem_map.mp hold
    exact hnone old hold ((congrArg Prod.fst hidentity).trans hid)
  · exact hc (hid ▸ hnew.1)

/-! ## What ends a token -/

/-- A logout revokes the session of its token, unless the session the token names is not stored. -/
lemma loggedOut_of_ok (h : SessionsIssued service t) (hc : c.loggedOut = some token)
    (hok : (authMachine service).step t c = .ok t') : LoggedOut service c token t' := by
  unfold AuthCommand.loggedOut at hc
  split at hc
  · next data decodedAt now =>
    obtain rfl := Option.some.inj hc
    obtain ⟨reply, hperform⟩ := exists_reply hok
    obtain ⟨claims, sessionId, hdecoded, hsid, hcases⟩ := logout_cases hperform
    rcases hcases with ⟨hnone, rfl⟩ | ⟨session, hread, hhash, hcases⟩
    · refine Or.inr ⟨decodedAt, claims, sessionId, ?_, hdecoded, hsid,
        find?_key_eq_none_iff.mp hnone⟩
      rw [AuthCommand.presentedSession, hdecoded]
      exact hsid
    · obtain ⟨hmem, -⟩ := mem_of_getSession hread
      rcases hcases with ⟨hrevoked, rfl⟩ | ⟨-, rfl⟩
      · exact Or.inl ⟨session, hmem, hhash, hrevoked⟩
      · refine Or.inl ⟨session.revoke now, ?_, hhash, by simp [AuthSession.revoke]⟩
        exact (mem_updateFirst_iff h.constraints.sessionIds).mpr (Or.inl ⟨session, hmem, rfl, rfl⟩)
  · cases hc

/-- A token stays logged out as long as no identifier is drawn that it names. -/
lemma LoggedOut.of_ok {d : AuthCommand} (h : SessionsIssued service t)
    (hout : LoggedOut service d token t)
    (hdrawn : ∀ sessionId ∈ d.presentedSession service, c.drawnSession ≠ some sessionId)
    (hok : (authMachine service).step t c = .ok t') : LoggedOut service d token t' := by
  rcases hout with hrevoked | ⟨decodedAt, claims, sessionId, hpresented, hdecoded, hsid, hnone⟩
  · exact Or.inl (hrevoked.of_ok h hok)
  · exact Or.inr ⟨decodedAt, claims, sessionId, hpresented, hdecoded, hsid,
      getSession_of_ok h hnone (hdrawn sessionId hpresented) hok⟩

/-- A token that is logged out is not refreshed. -/
lemma LoggedOut.not_refreshed (hsound : service.Sound) {d : AuthCommand}
    (h : SessionsIssued service t)
    (hout : LoggedOut service d token t) (hok : (authMachine service).step t c = .ok t') :
    c.refreshed ≠ some token := by
  rcases hout with hrevoked | ⟨decodedAt, claims, sessionId, -, hdecoded, hsid, hnone⟩
  · exact hrevoked.not_refreshed hsound h hok
  · intro hc
    obtain ⟨drawn, decodedAt', now, issuedAt, rfl⟩ := eq_refreshTokens hc
    obtain ⟨⟨-, -, -, session, hsession, -, hhash⟩, -, -⟩ := refreshed_cases hsound h hok
    have hid := h.sessionId_eq hsound hdecoded hsession hhash
    exact hnone session hsession (Option.some.inj (hid.symm.trans hsid))

/-- The row of a reset token. -/
lemma mem_of_getResetToken {row : PasswordResetToken}
    (h : t.getResetToken service token = some row) :
    row ∈ t.resetTokens ∧ row.tokenHash = service.hashToken token :=
  mem_of_find?_key h

/-- A command that resets a password. -/
lemma eq_resetPassword (h : c.resetWith = some token) :
    ∃ data salt now, c = .resetPassword data salt now ∧ data.token = token := by
  unfold AuthCommand.resetWith at h
  split at h
  · next data salt now => exact ⟨data, salt, now, rfl, Option.some.inj h⟩
  · cases h

/-- A reset uses its token, which was not used before, and revokes all sessions of its user. -/
lemma resetWith_cases (h : SessionsIssued service t) (hc : c.resetWith = some token)
    (hok : (authMachine service).step t c = .ok t') :
    ¬ UsedToken service token t ∧ UsedToken service token t' ∧
      ∀ row, t.getResetToken service token = some row → ∀ token',
        StoredFor service token' row.userId t → RevokedToken service token' t' := by
  obtain ⟨data, salt, now, rfl, rfl⟩ := eq_resetPassword hc
  obtain ⟨reply, hperform⟩ := exists_reply hok
  obtain ⟨row, user, hcheck, huser, -, rfl⟩ := resetPassword_cases hperform
  obtain ⟨hread, hunused, -⟩ := checkRow_eq_ok_iff.mp hcheck
  obtain ⟨hrow, hhash⟩ := mem_of_getResetToken hread
  have hid : user.id = row.userId := (mem_of_find?_key huser).2
  refine ⟨?_, ⟨{ row with usedAt := some now }, ?_, hhash, by simp⟩, ?_⟩
  · rintro ⟨row', hrow', hhash', hused⟩
    obtain rfl := eq_of_key_eq h.constraints.tokenHashes hrow' hrow (Eq.trans hhash' hhash.symm)
    exact hused hunused
  · exact (mem_updateFirst_iff h.constraints.resetTokenIds).mpr (Or.inl ⟨row, hrow, rfl, rfl⟩)
  · rintro row' hread' token' ⟨session, hsession, htoken', huserId⟩
    obtain rfl := Option.some.inj (hread.symm.trans hread')
    by_cases hactive : session.revokedAt = none
    · refine ⟨session.revoke now, List.mem_map.mpr ⟨session, hsession, if_pos ?_⟩, htoken',
        by simp [AuthSession.revoke]⟩
      refine List.mem_map_of_mem (List.mem_filter.mpr ⟨hsession, ?_⟩)
      have huserId' : session.userId = user.id := huserId.trans hid.symm
      simp [huserId', hactive]
    · refine ⟨if session.id ∈ (t.activeSessions user.id).map (·.id) then session.revoke now
        else session, List.mem_map_of_mem hsession, ?_, ?_⟩
      · split <;> exact htoken'
      · split
        · simp [AuthSession.revoke]
        · exact hactive

/-- A token that is issued to a user has a session that belongs to the user. -/
lemma storedFor_of_issuesTo {t : Transition AuthTables AuthCommand}
    (hok : (authMachine service).step t.before t.command = .ok t.after)
    (h : IssuesTo service t token userId) : StoredFor service token userId t.after := by
  obtain ⟨before, c, after⟩ := t
  obtain ⟨⟨accessToken, expiresIn, after', hissued⟩, email, user, hsubject, huser, rfl⟩ := h
  obtain ⟨reply, hperform⟩ := exists_reply hok
  obtain ⟨rfl, rfl⟩ := Prod.mk.inj (Except.ok.inj (hissued.symm.trans hperform))
  dsimp only at hissued hsubject huser ⊢
  cases c with
  | login data drawn now issuedAt =>
    obtain rfl := Option.some.inj hsubject
    simp only [AuthTables.perform, login, bind_eq_ok_iff, found_eq_ok_iff,
      AuthTables.flush_eq_ok_iff] at hissued
    obtain ⟨user', huser', -, -, _, ⟨-, rfl⟩, heq⟩ := hissued
    obtain rfl := Option.some.inj (huser.symm.trans huser')
    obtain ⟨htokens, rfl⟩ := Prod.mk.inj (Except.ok.inj heq)
    obtain ⟨-, rfl, -⟩ := AuthReply.tokens.inj htokens
    exact ⟨_, List.mem_append_right _ List.mem_cons_self, rfl, rfl⟩
  | refreshTokens data drawn decodedAt now issuedAt =>
    obtain ⟨claims, session, user', hclaims, -, huser', -, htokens, rfl⟩ :=
      refreshTokens_cases hissued
    have hemail : claims.subject = email := by
      simpa [AuthCommand.subject, hclaims, Except.toOption] using hsubject
    obtain rfl := Option.some.inj (huser.symm.trans (hemail ▸ huser'))
    obtain ⟨-, rfl, -⟩ := AuthReply.tokens.inj htokens
    exact ⟨_, List.mem_append_right _ List.mem_cons_self, rfl, rfl⟩
  | register | logout | forgotPassword | resetPassword => cases hsubject

/-! ## Every run -/

/-- **Tokens work once.** In every run of registrations, logins, refreshes, logouts and resets of
passwords, at any times and by any users, a refresh token is accepted at most once, not after a
logout with it or a reset of the password of its user that followed its issue, and not when its
session has expired; an access token is not accepted for one; and a reset token is accepted at most
once. -/
theorem tokens_single_use (hsound : service.Sound) {cs : List AuthCommand}
    (hfresh : SessionIdsFresh service cs) :
    TokensSingleUse service ((authMachine service).trace .empty cs) := by
  have hI : ∀ t c t', SessionsIssued service t → (authMachine service).step t c = .ok t' →
      SessionsIssued service t' := fun _ _ _ h hok => h.of_ok hok
  have hany : cs.Pairwise fun _ _ => True := List.pairwise_of_forall fun _ _ => trivial
  have htrace := Machine.trace_invariant hI sessionsIssued_empty cs
  -- a token is not refreshed after a transition that leaves it with a revoked session
  have hrevoked : ∀ {t t' : Transition AuthTables AuthCommand} {token : String},
      List.Sublist [t, t'] ((authMachine service).trace .empty cs) →
      (SessionsIssued service t.before → (authMachine service).step t.before t.command =
        .ok t.after →
        RevokedToken service token t.after) → t'.command.refreshed ≠ some token := by
    intro t t' token hpair hafter
    obtain ⟨hissued, hrevoked, hok⟩ := Machine.later_of_sublist_trace hI sessionsIssued_empty hany
      hpair hafter fun _ _ _ _ h hrevoked hok => hrevoked.of_ok h hok
    exact hrevoked.not_refreshed hsound hissued hok
  constructor
  · intro token
    refine List.pairwise_iff_forall_sublist.mpr fun {t t'} hpair hc => hrevoked hpair ?_
    intro h hok
    obtain ⟨drawn, decodedAt, now, issuedAt, heq⟩ := eq_refreshTokens hc
    exact (refreshed_cases hsound h (heq ▸ hok)).2.2
  · intro token
    refine List.pairwise_iff_forall_sublist.mpr fun {t t'} hpair hc => ?_
    obtain ⟨hissued, hout, hok⟩ := Machine.later_of_sublist_trace hI sessionsIssued_empty hfresh
      hpair (loggedOut_of_ok · hc ·) fun _ _ _ hdrawn h hout hok => hout.of_ok h hdrawn hok
    exact hout.not_refreshed hsound hissued hok
  · intro t₀ t₁ t₂ token userId htriple hissues hresets
    have hpair₀ : List.Sublist [t₀, t₁] ((authMachine service).trace .empty cs) :=
      List.Sublist.trans (by simp) htriple
    have hpair₁ : List.Sublist [t₁, t₂] ((authMachine service).trace .empty cs) :=
      List.Sublist.trans (by simp) htriple
    obtain ⟨-, hstored, -⟩ := Machine.later_of_sublist_trace hI sessionsIssued_empty hany hpair₀
      (fun _ hok => storedFor_of_issuesTo hok hissues) fun _ _ _ _ h hstored hok =>
        hstored.of_ok h hok
    obtain ⟨resetToken, row, hc, hread, rfl⟩ := hresets
    exact hrevoked hpair₁ fun h hok => (resetWith_cases h hc hok).2.2 row hread token hstored
  · intro t ht data drawn decodedAt now issuedAt hc session hsession hhash
    obtain ⟨hissued, hok, -⟩ := htrace t ht
    exact ((refreshed_cases hsound hissued (hc ▸ hok)).2.1 session hsession hhash).2
  · intro t ht userEmail roles drawn now hc
    obtain ⟨hissued, hok, -⟩ := htrace t ht
    obtain ⟨drawn', decodedAt, now', issuedAt, heq⟩ := eq_refreshTokens hc
    obtain ⟨⟨claims, hdecoded, htype, -⟩, -, -⟩ := refreshed_cases hsound hissued (heq ▸ hok)
    obtain rfl := hsound.decode_encode _ _ _ hdecoded
    cases htype
  · intro token
    refine List.pairwise_iff_forall_sublist.mpr fun {t t'} hpair hc hc' => ?_
    obtain ⟨hissued, hused, hok⟩ :=
      Machine.later_of_sublist_trace hI sessionsIssued_empty hany hpair
      (fun h hok => (resetWith_cases h hc hok).2.1) fun _ _ _ _ h hused hok => hused.of_ok h hok
    exact (resetWith_cases hissued hc' hok).1 hused

/-- A service that signs the claims of the given tokens, and hashes nothing. -/
def tokenTable (tokens : List (String × TokenClaims)) : AuthService where
  encodeToken claims := ((tokens.find? fun p => p.2 = claims).map (·.1)).getD ""
  decodeToken now token :=
    ((tokens.find? fun p => p.1 = token).map (·.2)).filter fun claims =>
      ∀ expiresAt ∈ claims.expiresAt, seconds now ≤ expiresAt
  hashToken := id
  hashPassword password _ := password
  verifyPassword password hashed := password = hashed
  accessTokenTtlMin := 15
  refreshTokenTtlDays := 30
  passwordResetTokenTtlMin := 60
  passwordResetIncludeDebugToken := false

/-- It is sound when its tokens are distinct and not empty. -/
lemma tokenTable_sound {tokens : List (String × TokenClaims)} (hnd : (tokens.map (·.1)).Nodup)
    (hne : ∀ p ∈ tokens, p.1 ≠ "") : (tokenTable tokens).Sound := by
  refine ⟨fun now claims claims' h => ?_, Function.injective_id⟩
  obtain ⟨p, hp, rfl⟩ := Option.map_eq_some_iff.mp (Option.filter_eq_some_iff.mp h).1
  obtain ⟨hmem, hname⟩ := mem_of_find?_key hp
  cases hfind : tokens.find? fun p => p.2 = claims with
  | none => exact absurd (by simpa [tokenTable, hfind] using hname) (hne p hmem)
  | some q =>
    obtain ⟨hq, hclaims⟩ := mem_of_find?_key hfind
    have hsame : p.1 = q.1 := by simpa [tokenTable, hfind] using hname
    rw [eq_of_key_eq hnd hmem hq hsame]
    exact hclaims

/-- The claims of a token of Alice that is issued at time zero. -/
def aliceClaims (jwtId sessionId : String) (tokenType : Option String) (expiresAt : Int) :
    TokenClaims :=
  ⟨some "alice@example.com", some ["user"], some 0, some expiresAt, some jwtId, some sessionId,
    tokenType⟩

/-- A service that signs the tokens of two sessions of Alice. -/
def aliceService : AuthService :=
  tokenTable
    [("access1", aliceClaims "a1" "s1" none 900),
      ("refresh1", aliceClaims "r1" "s1" (some "refresh") 2592000),
      ("access2", aliceClaims "a2" "s2" none 900),
      ("refresh2", aliceClaims "r2" "s2" (some "refresh") 2592000)]

/-- It is sound. -/
lemma aliceService_sound : aliceService.Sound := tokenTable_sound (by decide) (by decide)

/-- Alice registers, logs in, refreshes her token twice and logs out. -/
def aliceRun : List AuthCommand :=
  [.register ⟨"alice@example.com", "secret", ["user"], by decide, by decide, by decide, by decide⟩
      "salt" 1,
    .login ⟨"alice@example.com", "secret"⟩ ⟨"s1", "a1", "r1"⟩ 0 0,
    .refreshTokens ⟨"refresh1"⟩ ⟨"s2", "a2", "r2"⟩ 0 0 0,
    .refreshTokens ⟨"refresh1"⟩ ⟨"s3", "a3", "r3"⟩ 0 0 0,
    .logout ⟨"refresh2"⟩ 0 0]

/-- The tokens of Alice work once. -/
theorem tokens_single_use_alice :
    TokensSingleUse aliceService ((authMachine aliceService).trace .empty aliceRun) :=
  tokens_single_use aliceService_sound (by unfold SessionIdsFresh; decide)

/-- The second refresh is rejected, the other requests are accepted. -/
example : ((authMachine aliceService).trace .empty aliceRun).map (·.command.refreshed) =
    [none, none, some "refresh1", none] := by decide

end PokerRoom
