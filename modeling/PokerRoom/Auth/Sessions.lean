import PokerRoom.Application.AuthCommands

/-!
# Sessions and reset tokens

What an accepted command of the auth service does to the stored sessions and reset tokens: no
session is removed or handed to another token, none that is revoked becomes active again, and a new
one has an identifier drawn for it (`grown_of_step`).  `refreshTokens_cases`, `logout_cases` and
`resetPassword_cases` list what the commands that take a token check and write.
-/

namespace PokerRoom

open Foundation

/-! ## Definitions -/

/-- What of a session never changes: its identifier, its user and the hash of its token. -/
def AuthSession.identity (session : AuthSession) : String × Int × String :=
  (session.id, session.userId, session.refreshTokenHash)

/-- What of the row of a reset token never changes. -/
def PasswordResetToken.identity (row : PasswordResetToken) : String × String :=
  (row.id, row.tokenHash)

/-- The identifier drawn for a session, if the command draws one. -/
def AuthCommand.drawnSession : AuthCommand → Option String
  | .login _ drawn _ _ | .refreshTokens _ drawn _ _ _ => some drawn.sessionId
  | _ => none

/-- A session has the identifier drawn by the command, and its token is signed with it. -/
def AuthCommand.Draws (service : AuthService) (c : AuthCommand) (identity : String × Int × String) :
    Prop :=
  c.drawnSession = some identity.1 ∧ ∃ claims : TokenClaims,
    claims.sessionId = some identity.1 ∧
      identity.2.2 = service.hashToken (service.encodeToken claims)

/-- Every session goes with a token that is signed with its identifier. -/
structure SessionsIssued (service : AuthService) (t : AuthTables) : Prop where
  /-- The constraints of the tables. -/
  constraints : t.Constraints
  /-- The tokens. -/
  issued : ∀ session ∈ t.sessions, ∃ claims : TokenClaims, claims.sessionId = some session.id ∧
    session.refreshTokenHash = service.hashToken (service.encodeToken claims)

variable {service : AuthService} {t t' : AuthTables} {c : AuthCommand} {reply : AuthReply}
  {drawn : DrawnIds} {decodedAt now issuedAt : Int}

/-! ## What the commands check -/

/-- A claim that is not empty. -/
lemma eq_some_of_nonempty {claim : Option String} {x : String} (h : nonempty claim = some x) :
    claim = some x :=
  (Option.filter_eq_some_iff.mp h).1

/-- What a refresh has read from its token. -/
lemma decode_cases {data : RefreshRequest} {claims : RefreshClaims}
    (h : data.decode service decodedAt = .ok claims) :
    ∃ decoded, service.decodeToken decodedAt data.refreshToken = some decoded ∧
      decoded.tokenType = some refreshTokenType ∧ decoded.sessionId = some claims.sessionId ∧
      decoded.subject = some claims.subject := by
  simp only [RefreshRequest.decode, bind_eq_ok_iff, found_eq_ok_iff, require_eq_ok_iff] at h
  obtain ⟨decoded, hdecoded, -, htype, h⟩ := h
  split at h
  · next sessionId subject hsid hsub =>
    obtain rfl := Except.ok.inj h
    exact ⟨decoded, hdecoded, htype, eq_some_of_nonempty hsid, eq_some_of_nonempty hsub⟩
  · cases h

/-- The check of a session passes exactly for a stored session that is neither revoked nor expired
and goes with the token. -/
lemma checkSession_eq_ok_iff {data : RefreshRequest} {read : Option AuthSession}
    {session : AuthSession} :
    data.checkSession service now read = .ok session ↔
      read = some session ∧ session.revokedAt = none ∧ now < session.expiresAt ∧
        session.refreshTokenHash = service.hashToken data.refreshToken := by
  simp only [RefreshRequest.checkSession, bind_eq_ok_iff, found_eq_ok_iff, require_eq_ok_iff]
  constructor
  · rintro ⟨session', hread, -, hactive, -, hexpires, -, hhash, heq⟩
    obtain rfl := Except.ok.inj heq
    exact ⟨hread, hactive, hexpires, hhash⟩
  · rintro ⟨hread, hactive, hexpires, hhash⟩
    exact ⟨session, hread, (), hactive, (), hexpires, (), hhash, rfl⟩

/-- An accepted refresh. -/
lemma refreshTokens_cases {data : RefreshRequest}
    (h : refreshTokens service t data drawn decodedAt now issuedAt = .ok (reply, t')) :
    ∃ claims session user, data.decode service decodedAt = .ok claims ∧
      data.checkSession service now (t.getSession claims.sessionId) = .ok session ∧
      t.getUserByEmail claims.subject = some user ∧ t'.Constraints ∧
      reply = (claims.issue service user drawn issuedAt).reply now ∧
      t' = { t with sessions := updateFirst (·.id) session.id (·.revoke now) t.sessions ++
        [(claims.issue service user drawn issuedAt).session service user.id drawn.sessionId
          (some now)] } := by
  simp only [refreshTokens, commitRefresh, bind_eq_ok_iff, found_eq_ok_iff,
    AuthTables.flush_eq_ok_iff] at h
  obtain ⟨claims, hclaims, session, hsession, user, huser, _, ⟨hcons, rfl⟩, heq⟩ := h
  obtain ⟨rfl, rfl⟩ := Prod.mk.inj (Except.ok.inj heq)
  exact ⟨claims, session, user, hclaims, hsession, huser, hcons, rfl, rfl⟩

/-- An accepted logout revokes the session of its token, finds it revoked, or does not find it. -/
lemma logout_cases {data : LogoutRequest}
    (h : logout service t data decodedAt now = .ok (reply, t')) :
    ∃ decoded sessionId, service.decodeToken decodedAt data.refreshToken = some decoded ∧
      decoded.sessionId = some sessionId ∧
      ((t.getSession sessionId = none ∧ t' = t) ∨
        ∃ session, t.getSession sessionId = some session ∧
          session.refreshTokenHash = service.hashToken data.refreshToken ∧
          ((session.revokedAt ≠ none ∧ t' = t) ∨ (t'.Constraints ∧ t' = { t with
            sessions := updateFirst (·.id) session.id (·.revoke now) t.sessions }))) := by
  simp only [logout, bind_eq_ok_iff, found_eq_ok_iff] at h
  obtain ⟨decoded, hdecoded, sessionId, hsid, h⟩ := h
  refine ⟨decoded, sessionId, hdecoded, eq_some_of_nonempty hsid, ?_⟩
  split at h
  · next hnone =>
    obtain ⟨-, rfl⟩ := Prod.mk.inj (Except.ok.inj h)
    exact Or.inl ⟨hnone, rfl⟩
  · next session hfind =>
    rw [bind_eq_ok_iff] at h
    obtain ⟨⟨⟩, hhash, h⟩ := h
    refine Or.inr ⟨session, hfind, require_eq_ok_iff.mp hhash, ?_⟩
    split at h
    · simp only [bind_eq_ok_iff, AuthTables.flush_eq_ok_iff] at h
      obtain ⟨_, ⟨hcons, rfl⟩, heq⟩ := h
      obtain ⟨-, rfl⟩ := Prod.mk.inj (Except.ok.inj heq)
      exact Or.inr ⟨hcons, rfl⟩
    · next hrevoked =>
      obtain ⟨-, rfl⟩ := Prod.mk.inj (Except.ok.inj h)
      exact Or.inl ⟨hrevoked, rfl⟩

/-- The check of a reset token passes exactly for a stored token that is neither used nor
expired. -/
lemma checkRow_eq_ok_iff {read : Option PasswordResetToken} {row : PasswordResetToken} :
    ResetPasswordRequest.checkRow now read = .ok row ↔
      read = some row ∧ row.usedAt = none ∧ now < row.expiresAt := by
  simp only [ResetPasswordRequest.checkRow, bind_eq_ok_iff, found_eq_ok_iff, require_eq_ok_iff]
  constructor
  · rintro ⟨row', hread, -, hchecks, heq⟩
    obtain rfl := Except.ok.inj heq
    exact ⟨hread, hchecks⟩
  · rintro ⟨hread, hchecks⟩
    exact ⟨row, hread, (), hchecks, rfl⟩

/-- An accepted reset. -/
lemma resetPassword_cases {data : ResetPasswordRequest} {salt : String}
    (h : resetPassword service t data salt now = .ok (reply, t')) :
    ∃ row user, ResetPasswordRequest.checkRow now (t.getResetToken service data.token) = .ok row ∧
      t.getUser row.userId = some user ∧ t'.Constraints ∧
      t' = { users := updateFirst (·.id) user.id (fun user =>
                { user with password := service.hashPassword data.newPassword salt }) t.users
             sessions := revokeSessions (t.activeSessions user.id) now t.sessions
             resetTokens := updateFirst (·.id) row.id (fun row => { row with usedAt := some now })
                t.resetTokens } := by
  simp only [resetPassword, ResetPasswordRequest.commit, bind_eq_ok_iff, found_eq_ok_iff,
    AuthTables.flush_eq_ok_iff] at h
  obtain ⟨row, hrow, user, huser, _, ⟨hcons, rfl⟩, heq⟩ := h
  obtain ⟨-, rfl⟩ := Prod.mk.inj (Except.ok.inj heq)
  exact ⟨row, user, hrow, huser, hcons, rfl⟩

/-! ## What the commands keep -/

/-- Revoking the session with an identifier keeps all sessions, and the revoked ones revoked. -/
lemma grown_revoke {fresh : String × Int × String → Prop} {sessions new : List AuthSession}
    (hnd : (sessions.map (·.id)).Nodup) (sessionId : String)
    (hnew : ∀ session ∈ new, fresh session.identity) :
    Grown AuthSession.identity (·.revokedAt ≠ none) fresh sessions
      (updateFirst (·.id) sessionId (·.revoke now) sessions ++ new) := by
  rw [updateFirst_eq_map hnd]
  refine grown_map_append (fun session _ => ?_) hnew
  split
  · exact ⟨rfl, fun _ => by simp [AuthSession.revoke]⟩
  · exact ⟨rfl, id⟩

/-- Revoking sessions that were read keeps all sessions, and the revoked ones revoked. -/
lemma grown_revokeSessions {fresh : String × Int × String → Prop}
    (active sessions : List AuthSession) (now : Int) :
    Grown AuthSession.identity (·.revokedAt ≠ none) fresh sessions
      (revokeSessions active now sessions) := by
  rw [← List.append_nil (revokeSessions active now sessions)]
  refine grown_map_append (fun session _ => ?_) (by simp)
  split
  · exact ⟨rfl, fun _ => by simp [AuthSession.revoke]⟩
  · exact ⟨rfl, id⟩

/-- An accepted command keeps the constraints, all sessions and all reset tokens; revoked sessions
stay revoked and used tokens used, and a new session is drawn by the command. -/
theorem grown_of_step (ht : t.Constraints) (h : (authMachine service).step t c = .ok t') :
    t'.Constraints ∧
      Grown AuthSession.identity (·.revokedAt ≠ none) (c.Draws service) t.sessions t'.sessions ∧
      Grown PasswordResetToken.identity (·.usedAt ≠ none) (fun _ => True) t.resetTokens
        t'.resetTokens := by
  obtain ⟨⟨reply, after⟩, hperform, hafter⟩ := map_eq_ok_iff.mp h
  obtain rfl : after = t' := hafter
  cases c with
  | register data salt userId =>
    simp only [AuthTables.perform, register, bind_eq_ok_iff, AuthTables.flush_eq_ok_iff] at hperform
    obtain ⟨-, -, _, ⟨hcons, rfl⟩, heq⟩ := hperform
    obtain ⟨-, rfl⟩ := Prod.mk.inj (Except.ok.inj heq)
    exact ⟨hcons, grown_refl _, grown_refl _⟩
  | login data drawn now issuedAt =>
    simp only [AuthTables.perform, login, bind_eq_ok_iff, AuthTables.flush_eq_ok_iff] at hperform
    obtain ⟨user, -, -, -, _, ⟨hcons, rfl⟩, heq⟩ := hperform
    obtain ⟨-, rfl⟩ := Prod.mk.inj (Except.ok.inj heq)
    refine ⟨hcons, grown_append ?_, grown_refl _⟩
    exact List.forall_mem_singleton.mpr ⟨rfl, _, rfl, rfl⟩
  | refreshTokens data drawn decodedAt now issuedAt =>
    obtain ⟨claims, session, user, -, -, -, hcons, -, rfl⟩ := refreshTokens_cases hperform
    refine ⟨hcons, grown_revoke ht.sessionIds session.id ?_, grown_refl _⟩
    exact List.forall_mem_singleton.mpr ⟨rfl, _, rfl, rfl⟩
  | logout data decodedAt now =>
    have hkept : after = t → after.Constraints ∧ Grown AuthSession.identity (·.revokedAt ≠ none)
        ((AuthCommand.logout data decodedAt now).Draws service) t.sessions after.sessions ∧
        Grown PasswordResetToken.identity (·.usedAt ≠ none) (fun _ => True) t.resetTokens
          after.resetTokens := by
      rintro rfl
      exact ⟨ht, grown_refl _, grown_refl _⟩
    obtain ⟨-, -, -, -, ⟨-, hsame⟩ | ⟨session, -, -, ⟨-, hsame⟩ | ⟨hcons, rfl⟩⟩⟩ :=
      logout_cases hperform
    · exact hkept hsame
    · exact hkept hsame
    · refine ⟨hcons, ?_, grown_refl _⟩
      have hgrown : Grown AuthSession.identity (·.revokedAt ≠ none)
          ((AuthCommand.logout data decodedAt now).Draws service) t.sessions
          (updateFirst (·.id) session.id (·.revoke now) t.sessions ++ []) :=
        grown_revoke ht.sessionIds session.id (by simp)
      rwa [List.append_nil] at hgrown
  | forgotPassword data rowId token now delivered =>
    simp only [AuthTables.perform, forgotPassword] at hperform
    split at hperform
    · obtain ⟨-, rfl⟩ := Prod.mk.inj (Except.ok.inj hperform)
      exact ⟨ht, grown_refl _, grown_refl _⟩
    · simp only [bind_eq_ok_iff, AuthTables.flush_eq_ok_iff] at hperform
      obtain ⟨-, -, _, ⟨hcons, rfl⟩, heq⟩ := hperform
      obtain ⟨-, rfl⟩ := Prod.mk.inj (Except.ok.inj heq)
      exact ⟨hcons, grown_refl _, grown_append fun _ _ => trivial⟩
  | resetPassword data salt now =>
    obtain ⟨row, user, -, -, hcons, rfl⟩ := resetPassword_cases hperform
    refine ⟨hcons, grown_revokeSessions _ _ _, ?_⟩
    rw [updateFirst_eq_map ht.resetTokenIds, ← List.append_nil (List.map _ _)]
    refine grown_map_append (fun row _ => ?_) (by simp)
    split
    · exact ⟨rfl, fun _ => by simp⟩
    · exact ⟨rfl, id⟩

/-- An accepted command keeps every session going with its token. -/
lemma SessionsIssued.of_ok (h : SessionsIssued service t)
    (hok : (authMachine service).step t c = .ok t') : SessionsIssued service t' := by
  obtain ⟨hcons, hsessions, -⟩ := grown_of_step h.constraints hok
  refine ⟨hcons, fun session hsession => ?_⟩
  rcases hsessions.grown session hsession with hold | ⟨-, claims, hsid, hhash⟩
  · obtain ⟨old, hold, hidentity⟩ := List.mem_map.mp hold
    obtain ⟨hid, -, hhash⟩ : old.id = session.id ∧ old.userId = session.userId ∧
        old.refreshTokenHash = session.refreshTokenHash := by
      simpa [AuthSession.identity] using hidentity
    rw [← hid, ← hhash]
    exact h.issued old hold
  · exact ⟨claims, hsid, hhash⟩

/-- Nothing stored goes with its tokens. -/
lemma sessionsIssued_empty : SessionsIssued service AuthTables.empty :=
  ⟨by decide, by simp [AuthTables.empty]⟩

end PokerRoom
