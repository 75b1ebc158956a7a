import PokerRoom.Application.AccountCommands
import PokerRoom.Auth.SingleUse

/-!
# Tokens and accounts

What holds in every run of the auth service in which users are changed and deleted as well.  A
session belongs to a stored user, and its token is signed for his email address (`AccountsSound`);
so a refresh issues tokens to the user whose session it continues, with the roles that are stored
for him (`refresh_stays_in_account`), and nothing that was issued to a user is accepted after he has
been deleted (`deleted_account_locked_out`), not even when his email address is registered again.
-/

namespace PokerRoom

open Foundation

variable (service : AuthService)

/-! ## Definitions -/

/-- What of a user only an update of him changes. -/
def AuthUser.account (user : AuthUser) : Int × String × List String :=
  (user.id, user.email, user.roles)

/-- A session belongs to an account, and its token is signed for the email address of the
account. -/
def AuthSession.BelongsTo (session : AuthSession) (userId : Int) (email : String) : Prop :=
  session.userId = userId ∧ ∃ roles drawn now, session.id = drawn.sessionId ∧
    session.refreshTokenHash =
      service.hashToken (service.encodeToken (refreshClaims service email roles drawn now))

/-- The accounts are in order. -/
structure AccountsSound (t : AuthTables) : Prop where
  /-- The constraints of the tables. -/
  constraints : t.Constraints
  /-- The roles of the users. -/
  roles : ∀ user ∈ t.users, RolesStored user.roles
  /-- Every session belongs to a user, and goes with a token that is signed for him. -/
  sessions : ∀ session ∈ t.sessions, ∃ user ∈ t.users, session.BelongsTo service user.id user.email

/-- The identifier drawn for a session, if the command draws one. -/
def AccountCommand.drawnSession : AccountCommand → Option String
  | .auth c => c.drawnSession
  | _ => none

/-- The reset token drawn by a command, if it draws one. -/
def AccountCommand.drawnResetToken : AccountCommand → Option String
  | .auth (.forgotPassword _ _ token _ _) => some token
  | _ => none

/-- The token a command refreshes. -/
def AccountCommand.refreshed : AccountCommand → Option String
  | .auth c => c.refreshed
  | _ => none

/-- The token a command resets a password with. -/
def AccountCommand.resetWith : AccountCommand → Option String
  | .auth c => c.resetWith
  | _ => none

variable {service} {t t' : AuthTables} {session : AuthSession} {user : AuthUser}

/-! ## What a command leaves -/

/-- The sessions go with their tokens. -/
lemma AccountsSound.issued (h : AccountsSound service t) : SessionsIssued service t := by
  refine ⟨h.constraints, fun session hsession => ?_⟩
  obtain ⟨user, -, -, roles, drawn, now, hid, hhash⟩ := h.sessions session hsession
  exact ⟨_, by rw [hid]; rfl, hhash⟩

/-- Nothing is stored in disorder when nothing is stored. -/
lemma accountsSound_empty : AccountsSound service AuthTables.empty :=
  ⟨by decide, by simp [AuthTables.empty], by simp [AuthTables.empty]⟩

/-- What a session belongs to depends on what never changes of it. -/
lemma AuthSession.BelongsTo.congr {session' : AuthSession} {userId : Int} {email : String}
    (h : session.BelongsTo service userId email)
    (hidentity : session.identity = session'.identity) :
    session'.BelongsTo service userId email := by
  obtain ⟨hid, huser, hhash⟩ : session.id = session'.id ∧ session.userId = session'.userId ∧
      session.refreshTokenHash = session'.refreshTokenHash := by
    simpa [AuthSession.identity] using hidentity
  obtain ⟨hbelongs, roles, drawn, now, hdrawn, hsigned⟩ := h
  exact ⟨huser.symm.trans hbelongs, roles, drawn, now, hid.symm.trans hdrawn,
    hhash.symm.trans hsigned⟩

/-- A session whose token is issued to a user belongs to him. -/
lemma belongsTo_issued {roles : List String} {drawn : DrawnIds} {issuedAt : Int}
    {lastSeenAt : Option Int} :
    ((issueTokenPair service user.email roles drawn issuedAt).session
      service user.id drawn.sessionId lastSeenAt).BelongsTo service user.id user.email :=
  ⟨rfl, roles, drawn, issuedAt, rfl, rfl⟩

/-- Rows that keep their accounts, with sessions that are old ones or belong to a user. -/
lemma AccountsSound.of_accounts (h : AccountsSound service t) (hcons : t'.Constraints)
    (new : List AuthUser) (hnew : ∀ user ∈ new, RolesStored user.roles)
    (husers : t'.users.map (·.account) = t.users.map (·.account) ++ new.map (·.account))
    (hsessions : ∀ session ∈ t'.sessions, session.identity ∈ t.sessions.map (·.identity) ∨
      ∃ user ∈ t.users, session.BelongsTo service user.id user.email) :
    AccountsSound service t' := by
  have hkept : ∀ user ∈ t.users, ∃ user' ∈ t'.users, user'.account = user.account :=
    fun user huser =>
    List.mem_map.mp (husers ▸ List.mem_append_left _ (List.mem_map_of_mem huser))
  refine ⟨hcons, fun user' huser' => ?_, fun session hsession => ?_⟩
  · have hmem : user'.account ∈ t.users.map (·.account) ++ new.map (·.account) :=
      husers ▸ List.mem_map_of_mem huser'
    rcases List.mem_append.mp hmem with hmem | hmem
    · obtain ⟨user, huser, heq⟩ := List.mem_map.mp hmem
      rw [← show user.roles = user'.roles from congrArg (·.2.2) heq]
      exact h.roles user huser
    · obtain ⟨user, huser, heq⟩ := List.mem_map.mp hmem
      rw [← show user.roles = user'.roles from congrArg (·.2.2) heq]
      exact hnew user huser
  · have hbelongs : ∃ user ∈ t.users, session.BelongsTo service user.id user.email := by
      rcases hsessions session hsession with hold | hnew
      · obtain ⟨old, hold, hidentity⟩ := List.mem_map.mp hold
        obtain ⟨user, huser, hbelongs⟩ := h.sessions old hold
        exact ⟨user, huser, hbelongs.congr hidentity⟩
      · exact hnew
    obtain ⟨user, huser, hbelongs⟩ := hbelongs
    obtain ⟨user', huser', heq⟩ := hkept user huser
    refine ⟨user', huser', ?_⟩
    rwa [show user'.id = user.id from congrArg (·.1) heq,
      show user'.email = user.email from congrArg (·.2.1) heq]

/-- Rows that keep all accounts as they are. -/
lemma AccountsSound.of_same_accounts (h : AccountsSound service t) (hcons : t'.Constraints)
    (husers : t'.users.map (·.account) = t.users.map (·.account))
    (hsessions : ∀ session ∈ t'.sessions, session.identity ∈ t.sessions.map (·.identity) ∨
      ∃ user ∈ t.users, session.BelongsTo service user.id user.email) : AccountsSound service t' :=
  h.of_accounts hcons [] (by simp) (by rw [husers, List.map_nil, List.append_nil]) hsessions

/-- A session of a table in which one was revoked is an old one. -/
lemma identity_mem_of_revoked {sessions : List AuthSession} {sessionId : String} {now : Int}
    (h : session ∈ updateFirst (·.id) sessionId (·.revoke now) sessions) :
    session.identity ∈ sessions.map (·.identity) := by
  rcases mem_of_mem_updateFirst h with hold | ⟨old, hold, -, rfl⟩
  · exact List.mem_map_of_mem hold
  · have hsame : (old.revoke now).identity = old.identity := rfl
    rw [hsame]
    exact List.mem_map_of_mem hold

/-- A user who was looked up by his email address. -/
lemma mem_of_getUserByEmail {email : String} (h : t.getUserByEmail email = some user) :
    user ∈ t.users ∧ user.email = email :=
  mem_of_find?_key h

/-- A command of a user keeps the accounts in order. -/
lemma AccountsSound.auth_of_ok (h : AccountsSound service t) {c : AuthCommand}
    (hok : (authMachine service).step t c = .ok t') : AccountsSound service t' := by
  obtain ⟨hcons, hgrown, -⟩ := grown_of_step h.constraints hok
  -- commands that draw no session leave the old ones
  have hold : c.drawnSession = none → ∀ session ∈ t'.sessions,
      session.identity ∈ t.sessions.map (·.identity) ∨
        ∃ user ∈ t.users, session.BelongsTo service user.id user.email := by
    intro hnone session hsession
    refine (hgrown.grown session hsession).imp_right fun hdraws => ?_
    rw [AuthCommand.Draws, hnone] at hdraws
    cases hdraws.1
  obtain ⟨reply, hperform⟩ := exists_reply hok
  cases c with
  | register data salt userId =>
    simp only [AuthTables.perform, register, bind_eq_ok_iff, AuthTables.flush_eq_ok_iff] at hperform
    obtain ⟨-, -, _, ⟨-, rfl⟩, heq⟩ := hperform
    obtain ⟨-, rfl⟩ := Prod.mk.inj (Except.ok.inj heq)
    refine h.of_accounts hcons [_] (List.forall_mem_singleton.mpr ?_) List.map_append (hold rfl)
    exact ⟨data.roles_allowed, data.roles_nodup, data.roles_ne⟩
  | login data drawn now issuedAt =>
    simp only [AuthTables.perform, login, bind_eq_ok_iff, found_eq_ok_iff,
      AuthTables.flush_eq_ok_iff] at hperform
    obtain ⟨user, huser, -, -, _, ⟨-, rfl⟩, heq⟩ := hperform
    obtain ⟨-, rfl⟩ := Prod.mk.inj (Except.ok.inj heq)
    refine h.of_same_accounts hcons (map_updateFirst_of_eq _ fun _ => rfl)
      fun session hsession => ?_
    rcases List.mem_append.mp hsession with hsession | hsession
    · exact Or.inl (List.mem_map_of_mem hsession)
    · rw [List.mem_singleton.mp hsession]
      exact Or.inr ⟨user, (mem_of_getUserByEmail huser).1, belongsTo_issued⟩
  | refreshTokens data drawn decodedAt now issuedAt =>
    obtain ⟨claims, old, user, -, -, huser, -, -, rfl⟩ := refreshTokens_cases hperform
    refine h.of_same_accounts hcons rfl fun session hsession => ?_
    rcases List.mem_append.mp hsession with hsession | hsession
    · exact Or.inl (identity_mem_of_revoked hsession)
    · rw [List.mem_singleton.mp hsession]
      exact Or.inr ⟨user, (mem_of_getUserByEmail huser).1, belongsTo_issued⟩
  | logout data decodedAt now =>
    have hkept : t'.users = t.users := by
      obtain ⟨-, -, -, -, ⟨-, rfl⟩ | ⟨session, -, -, ⟨-, rfl⟩ | ⟨-, rfl⟩⟩⟩ := logout_cases hperform
      · rfl
      · rfl
      · rfl
    exact h.of_same_accounts hcons (by rw [hkept]) (hold rfl)
  | forgotPassword data rowId token now delivered =>
    have hkept : t'.users = t.users := by
      simp only [AuthTables.perform, forgotPassword] at hperform
      split at hperform
      · obtain ⟨-, rfl⟩ := Prod.mk.inj (Except.ok.inj hperform)
        rfl
      · simp only [bind_eq_ok_iff, AuthTables.flush_eq_ok_iff] at hperform
        obtain ⟨-, -, _, ⟨-, rfl⟩, heq⟩ := hperform
        obtain ⟨-, rfl⟩ := Prod.mk.inj (Except.ok.inj heq)
        rfl
    exact h.of_same_accounts hcons (by rw [hkept]) (hold rfl)
  | resetPassword data salt now =>
    obtain ⟨row, user, -, -, -, rfl⟩ := resetPassword_cases hperform
    exact h.of_same_accounts hcons (map_updateFirst_of_eq _ fun _ => rfl) (hold rfl)

/-- An accepted update of a user. -/
lemma updateAuthUser_eq_ok_iff {userId : Int} {data : UpdateAuthUser} {salt : String} :
    updateAuthUser service t userId data salt = .ok t' ↔ ∃ user, t.getUser userId = some user ∧
      t'.Constraints ∧
      t' = { t with users := updateFirst (·.id) user.id (data.write service salt) t.users } := by
  simp only [updateAuthUser, bind_eq_ok_iff, found_eq_ok_iff, AuthTables.flush_eq_ok_iff]
  constructor
  · rintro ⟨user, hfound, hcons, rfl⟩
    exact ⟨user, hfound, hcons, rfl⟩
  · rintro ⟨user, hfound, hcons, rfl⟩
    exact ⟨user, hfound, hcons, rfl⟩

/-- An accepted deletion of a user leaves what belongs to the others. -/
lemma deleteAuthUser_cases {userId : Int} (h : deleteAuthUser t userId = .ok t') : t'.Constraints ∧
    t' = ⟨t.users.filter fun user => user.id ≠ userId,
      t.sessions.filter fun session => session.userId ≠ userId,
      t.resetTokens.filter fun row => row.userId ≠ userId⟩ := by
  simp only [deleteAuthUser, bind_eq_ok_iff, found_eq_ok_iff, AuthTables.flush_eq_ok_iff] at h
  obtain ⟨user, hfound, hcons, rfl⟩ := h
  obtain rfl : user.id = userId := (mem_of_find?_key hfound).2
  exact ⟨hcons, rfl⟩

/-- Every command keeps the accounts in order. -/
lemma AccountsSound.of_ok (h : AccountsSound service t) {c : AccountCommand}
    (hok : (accountMachine service).step t c = .ok t') : AccountsSound service t' := by
  cases c with
  | auth c => exact h.auth_of_ok hok
  | updateAuthUser userId data salt =>
    obtain ⟨user, hfound, hcons, rfl⟩ := updateAuthUser_eq_ok_iff.mp hok
    have hsame : ∀ {user' : AuthUser}, (data.write service salt user').id = user'.id ∧
        (data.write service salt user').email = user'.email := ⟨rfl, rfl⟩
    refine ⟨hcons, ?_, fun session hsession => ?_⟩
    · refine forall_updateFirst h.roles fun user' huser' _ => ?_
      cases hroles : data.roles with
      | none => simpa [UpdateAuthUser.write, hroles] using h.roles user' huser'
      | some roles => simpa [UpdateAuthUser.write, hroles] using data.roles_stored roles hroles
    · obtain ⟨user', huser', hbelongs⟩ := h.sessions session hsession
      rw [updateFirst_eq_map h.constraints.userIds]
      refine ⟨_, List.mem_map_of_mem huser', ?_⟩
      split
      · exact hbelongs
      · exact hbelongs
  | deleteAuthUser userId =>
    obtain ⟨hcons, rfl⟩ := deleteAuthUser_cases hok
    refine ⟨hcons, fun user huser => h.roles user (List.mem_filter.mp huser).1,
      fun session hsession => ?_⟩
    obtain ⟨hsession, hne⟩ := List.mem_filter.mp hsession
    obtain ⟨user, huser, hbelongs⟩ := h.sessions session hsession
    refine ⟨user, List.mem_filter.mpr ⟨huser, ?_⟩, hbelongs⟩
    rwa [← hbelongs.1]

/-! ## Every run -/

/-- Every state that the service reaches has its accounts in order. -/
lemma accountsSound_run (cs : List AccountCommand) :
    AccountsSound service ((accountMachine service).run .empty cs) :=
  Machine.run_invariant (fun _ _ _ h hok => h.of_ok hok) accountsSound_empty cs

/-- **A refresh stays in its account.** In every run in which users register, log in, refresh their
tokens, log out, reset their passwords, and are changed and deleted, an accepted refresh continues a
session of a stored user: it issues tokens for his email address with the roles that are stored for
him, whatever roles the old token carries, and the session that it opens is his. -/
theorem refresh_stays_in_account (hsound : service.Sound) {cs : List AccountCommand}
    {t : Transition AuthTables AccountCommand} (ht : t ∈ (accountMachine service).trace .empty cs)
    {data : RefreshRequest} {drawn : DrawnIds} {decodedAt now issuedAt : Int}
    (hc : t.command = .auth (.refreshTokens data drawn decodedAt now issuedAt)) :
    ∃ session ∈ t.before.sessions, ∃ user ∈ t.before.users,
      session.refreshTokenHash = service.hashToken data.refreshToken ∧ session.userId = user.id ∧
      refreshTokens service t.before data drawn decodedAt now issuedAt =
        .ok ((issueTokenPair service user.email user.roles drawn issuedAt).reply now, t.after) ∧
      ∃ opened ∈ t.after.sessions, opened.id = drawn.sessionId ∧ opened.userId = user.id := by
  obtain ⟨h, hok, -⟩ := Machine.trace_invariant (fun _ _ _ h hok => AccountsSound.of_ok h hok)
    accountsSound_empty cs t ht
  rw [hc] at hok
  obtain ⟨reply, hperform⟩ := exists_reply hok
  obtain ⟨claims, session, user, hclaims, hcheck, huser, -, rfl, hafter⟩ :=
    refreshTokens_cases hperform
  obtain ⟨decoded, hdecoded, -, -, hsubject⟩ := decode_cases hclaims
  obtain ⟨hread, -, -, hhash⟩ := checkSession_eq_ok_iff.mp hcheck
  obtain ⟨hsession, -⟩ := mem_of_getSession hread
  obtain ⟨huser, hemail⟩ := mem_of_getUserByEmail huser
  -- the token is signed for the email address of the user of the session, and this is the address
  -- it names
  obtain ⟨owner, howner, hbelongs, roles, drawn', now', -, hsigned⟩ := h.sessions session hsession
  have htoken := hsound.hashToken_injective (hhash.symm.trans hsigned)
  rw [htoken] at hdecoded
  obtain rfl := hsound.decode_encode _ _ _ hdecoded
  have howner' : owner.email = claims.subject := Option.some.inj hsubject
  obtain rfl := eq_of_key_eq h.constraints.emails huser howner (hemail.trans howner'.symm)
  have hroles : claims.issue service user drawn issuedAt =
      issueTokenPair service user.email user.roles drawn issuedAt := by
    rw [RefreshClaims.issue, if_neg (h.roles user huser).ne]
  rw [hroles] at hperform
  refine ⟨session, hsession, user, huser, hhash, hbelongs, hperform, ?_⟩
  rw [hafter]
  exact ⟨_, List.mem_append_right _ List.mem_cons_self, rfl, rfl⟩

/-- A service that signs the tokens of a session of Alice as a user and of one as an
administrator. -/
def promotionService : AuthService :=
  tokenTable
    [("access1", aliceClaims "a1" "s1" none 900),
      ("refresh1", aliceClaims "r1" "s1" (some "refresh") 2592000),
      ("access2", { aliceClaims "a2" "s2" none 900 with roles := some ["admin"] }),
      ("refresh2", { aliceClaims "r2" "s2" (some "refresh") 2592000 with roles := some ["admin"] })]

/-- It is sound. -/
lemma promotionService_sound : promotionService.Sound := tokenTable_sound (by decide) (by decide)

/-- The role of an administrator can be stored. -/
lemma adminRole_stored : RolesStored ["admin"] := ⟨by decide, by decide, by decide⟩

/-- No password is long enough. -/
lemma noPassword_length : ∀ p ∈ (none : Option String), 6 ≤ p.length := by simp

/-- A request that makes a user an administrator. -/
def promotion : UpdateAuthUser where
  roles := some ["admin"]
  password_length := noPassword_length
  roles_stored := fun _ h => Option.some.inj h ▸ adminRole_stored

/-- Alice registers and logs in, and is made an administrator. -/
def alicePromoted : List AccountCommand :=
  (aliceRun.take 2).map .auth ++ [.updateAuthUser 1 promotion "salt"]

/-- What is stored before Alice refreshes her token. -/
def beforeRefresh : AuthTables := (accountMachine promotionService).run .empty alicePromoted

/-- What is stored afterwards. -/
def afterRefresh : AuthTables :=
  (accountMachine promotionService).exec beforeRefresh
    (.auth (.refreshTokens ⟨"refresh1"⟩ ⟨"s2", "a2", "r2"⟩ 0 0 0))

/-- The token that Alice was issued as a user is refreshed to one of an administrator. -/
theorem refresh_stays_in_account_alice :
    ∃ session ∈ beforeRefresh.sessions, ∃ user ∈ beforeRefresh.users,
      session.refreshTokenHash = "refresh1" ∧ session.userId = user.id ∧
      refreshTokens promotionService beforeRefresh ⟨"refresh1"⟩ ⟨"s2", "a2", "r2"⟩ 0 0 0 =
        .ok ((issueTokenPair promotionService user.email user.roles ⟨"s2", "a2", "r2"⟩ 0).reply 0,
          afterRefresh) ∧
      ∃ opened ∈ afterRefresh.sessions, opened.id = "s2" ∧ opened.userId = user.id :=
  refresh_stays_in_account promotionService_sound
    (t := ⟨beforeRefresh, .auth (.refreshTokens ⟨"refresh1"⟩ ⟨"s2", "a2", "r2"⟩ 0 0 0),
      afterRefresh⟩)
    (Machine.mem_trace_of_step alicePromoted (by decide)) rfl

example :
    (refreshTokens promotionService beforeRefresh ⟨"refresh1"⟩ ⟨"s2", "a2", "r2"⟩ 0 0 0).map (·.1) =
      .ok (.tokens "access2" "refresh2" 900) := by decide

/-! ## Deleted accounts -/

/-- A reset token of an accepted command of a user is an old one, or is drawn by the command. -/
lemma resetToken_cases {c : AuthCommand} (hok : (authMachine service).step t c = .ok t')
    {row : PasswordResetToken} (hrow : row ∈ t'.resetTokens) :
    row.tokenHash ∈ t.resetTokens.map (·.tokenHash) ∨
      ∃ token, (AccountCommand.auth c).drawnResetToken = some token ∧
        row.tokenHash = service.hashToken token := by
  have hkept : t'.resetTokens = t.resetTokens →
      row.tokenHash ∈ t.resetTokens.map (·.tokenHash) := fun h =>
    List.mem_map_of_mem (h ▸ hrow)
  obtain ⟨reply, hperform⟩ := exists_reply hok
  cases c with
  | register data salt userId =>
    simp only [AuthTables.perform, register, bind_eq_ok_iff, AuthTables.flush_eq_ok_iff] at hperform
    obtain ⟨-, -, _, ⟨-, rfl⟩, heq⟩ := hperform
    obtain ⟨-, rfl⟩ := Prod.mk.inj (Except.ok.inj heq)
    exact Or.inl (hkept rfl)
  | login data drawn now issuedAt =>
    simp only [AuthTables.perform, login, bind_eq_ok_iff, AuthTables.flush_eq_ok_iff] at hperform
    obtain ⟨user, -, -, -, _, ⟨-, rfl⟩, heq⟩ := hperform
    obtain ⟨-, rfl⟩ := Prod.mk.inj (Except.ok.inj heq)
    exact Or.inl (hkept rfl)
  | refreshTokens data drawn decodedAt now issuedAt =>
    obtain ⟨claims, session, user, -, -, -, -, -, rfl⟩ := refreshTokens_cases hperform
    exact Or.inl (hkept rfl)
  | logout data decodedAt now =>
    obtain ⟨-, -, -, -, ⟨-, rfl⟩ | ⟨session, -, -, ⟨-, rfl⟩ | ⟨-, rfl⟩⟩⟩ := logout_cases hperform
    · exact Or.inl (hkept rfl)
    · exact Or.inl (hkept rfl)
    · exact Or.inl (hkept rfl)
  | forgotPassword data rowId token now delivered =>
    simp only [AuthTables.perform, forgotPassword] at hperform
    split at hperform
    · obtain ⟨-, rfl⟩ := Prod.mk.inj (Except.ok.inj hperform)
      exact Or.inl (hkept rfl)
    · simp only [bind_eq_ok_iff, AuthTables.flush_eq_ok_iff] at hperform
      obtain ⟨-, -, _, ⟨-, rfl⟩, heq⟩ := hperform
      obtain ⟨-, rfl⟩ := Prod.mk.inj (Except.ok.inj heq)
      rcases List.mem_append.mp hrow with hrow | hrow
      · exact Or.inl (List.mem_map_of_mem hrow)
      · rw [List.mem_singleton.mp hrow]
        exact Or.inr ⟨token, rfl, rfl⟩
  | resetPassword data salt now =>
    obtain ⟨used, user, -, -, -, rfl⟩ := resetPassword_cases hperform
    rcases mem_of_mem_updateFirst hrow with hrow | ⟨old, hold, -, rfl⟩
    · exact Or.inl (List.mem_map_of_mem hrow)
    · exact Or.inl (List.mem_map.mpr ⟨old, hold, rfl⟩)

/-- A command that refreshes a token is one of a user. -/
lemma AccountCommand.exists_of_refreshed {c : AccountCommand} {token : String}
    (h : c.refreshed = some token) :
    ∃ d, c = .auth d ∧ d.refreshed = some token := by
  cases c with
  | auth d => exact ⟨d, rfl, h⟩
  | updateAuthUser | deleteAuthUser => cases h

/-- A command that resets a password is one of a user. -/
lemma AccountCommand.exists_of_resetWith {c : AccountCommand} {token : String}
    (h : c.resetWith = some token) :
    ∃ d, c = .auth d ∧ d.resetWith = some token := by
  cases c with
  | auth d => exact ⟨d, rfl, h⟩
  | updateAuthUser | deleteAuthUser => cases h

/-- No session with one of the identifiers is stored, and no reset token with one of the hashes. -/
structure LockedOut (sessionIds tokenHashes : List String) (t : AuthTables) : Prop where
  /-- The sessions. -/
  sessions : ∀ session ∈ t.sessions, session.id ∉ sessionIds
  /-- The reset tokens. -/
  resetTokens : ∀ row ∈ t.resetTokens, row.tokenHash ∉ tokenHashes

/-- What is locked out stays so until it is drawn again. -/
lemma LockedOut.of_ok {sessionIds tokenHashes : List String} (h : AccountsSound service t)
    (hout : LockedOut sessionIds tokenHashes t) {c : AccountCommand}
    (hsession : ∀ sessionId ∈ c.drawnSession, sessionId ∉ sessionIds)
    (hreset : ∀ token ∈ c.drawnResetToken, service.hashToken token ∉ tokenHashes)
    (hok : (accountMachine service).step t c = .ok t') : LockedOut sessionIds tokenHashes t' := by
  cases c with
  | auth c =>
    refine ⟨fun session hmem => ?_, fun row hrow => ?_⟩
    · rcases (grown_of_step h.constraints hok).2.1.grown session hmem with hold | hdraws
      · obtain ⟨old, hold, hidentity⟩ := List.mem_map.mp hold
        rw [← show old.id = session.id from congrArg Prod.fst hidentity]
        exact hout.sessions old hold
      · exact hsession session.id hdraws.1
    · rcases resetToken_cases hok hrow with hold | ⟨token, hdrawn, hhash⟩
      · obtain ⟨old, hold, heq⟩ := List.mem_map.mp hold
        exact heq ▸ hout.resetTokens old hold
      · exact hhash ▸ hreset token hdrawn
  | updateAuthUser userId data salt =>
    obtain ⟨user, -, -, rfl⟩ := updateAuthUser_eq_ok_iff.mp hok
    exact ⟨hout.sessions, hout.resetTokens⟩
  | deleteAuthUser userId =>
    obtain ⟨-, rfl⟩ := deleteAuthUser_cases hok
    exact ⟨fun session hmem => hout.sessions session (List.mem_filter.mp hmem).1,
      fun row hrow => hout.resetTokens row (List.mem_filter.mp hrow).1⟩

/-- **A deleted account is locked out.** When a user is deleted after any run, no refresh token and
no reset token that was stored for him is ever accepted again, whatever follows, also when his email
address is registered anew, as long as the identifiers and tokens that are drawn later are new
ones. -/
theorem deleted_account_locked_out (hsound : service.Sound) (pre post : List AccountCommand)
    (userId : Int)
    (hsessions : ∀ c ∈ post, ∀ session ∈ ((accountMachine service).run .empty pre).sessions,
      c.drawnSession ≠ some session.id)
    (hresets : ∀ c ∈ post, ∀ row ∈ ((accountMachine service).run .empty pre).resetTokens,
      ∀ token, c.drawnResetToken = some token → service.hashToken token ≠ row.tokenHash)
    (hdeleted : (accountMachine service).step ((accountMachine service).run .empty pre)
      (.deleteAuthUser userId) = .ok t') {tr : Transition AuthTables AccountCommand}
    (htr : tr ∈ (accountMachine service).trace t' post) {token : String} :
    (∀ session ∈ ((accountMachine service).run .empty pre).sessions, session.userId = userId →
      session.refreshTokenHash = service.hashToken token → tr.command.refreshed ≠ some token) ∧
    (∀ row ∈ ((accountMachine service).run .empty pre).resetTokens, row.userId = userId →
      row.tokenHash = service.hashToken token → tr.command.resetWith ≠ some token) := by
  have hsound₀ : AccountsSound service ((accountMachine service).run .empty pre) :=
    accountsSound_run pre
  set t := (accountMachine service).run .empty pre
  set sessionIds := (t.sessions.filter fun session => session.userId = userId).map (·.id) with hids
  set tokenHashes :=
    (t.resetTokens.filter fun row => row.userId = userId).map (·.tokenHash) with hhashes
  have hout : LockedOut sessionIds tokenHashes t' := by
    obtain ⟨-, rfl⟩ := deleteAuthUser_cases hdeleted
    refine ⟨fun session hmem hid => ?_, fun row hrow hhash => ?_⟩
    · obtain ⟨hmem, hne⟩ := List.mem_filter.mp hmem
      obtain ⟨old, hold, heq⟩ := List.mem_map.mp hid
      obtain ⟨hold, huser⟩ := List.mem_filter.mp hold
      obtain rfl := eq_of_key_eq hsound₀.constraints.sessionIds hold hmem heq
      exact absurd (of_decide_eq_true huser) (of_decide_eq_true hne)
    · obtain ⟨hrow, hne⟩ := List.mem_filter.mp hrow
      obtain ⟨old, hold, heq⟩ := List.mem_map.mp hhash
      obtain ⟨hold, huser⟩ := List.mem_filter.mp hold
      obtain rfl := eq_of_key_eq hsound₀.constraints.tokenHashes hold hrow heq
      exact absurd (of_decide_eq_true huser) (of_decide_eq_true hne)
  have hfresh : ∀ c ∈ post, (∀ sessionId ∈ c.drawnSession, sessionId ∉ sessionIds) ∧
      ∀ token ∈ c.drawnResetToken, service.hashToken token ∉ tokenHashes := by
    refine fun c hc => ⟨fun sessionId hdrawn hid => ?_, fun token hdrawn hhash => ?_⟩
    · obtain ⟨session, hsession, rfl⟩ := List.mem_map.mp hid
      exact hsessions c hc session (List.mem_filter.mp hsession).1 hdrawn
    · obtain ⟨row, hrow, heq⟩ := List.mem_map.mp hhash
      exact hresets c hc row (List.mem_filter.mp hrow).1 token hdrawn heq.symm
  obtain ⟨⟨hbefore, hlocked⟩, hok, -⟩ := Machine.trace_invariant_of_forall
    (I := fun t => AccountsSound service t ∧ LockedOut sessionIds tokenHashes t)
    (P := fun tr => tr.command ∈ post)
    (fun s c s' hc hs hok => ⟨hs.1.of_ok hok, hs.2.of_ok hs.1 (hfresh c hc).1 (hfresh c hc).2 hok⟩)
    ⟨hsound₀.of_ok hdeleted, hout⟩ (fun tr htr => Machine.command_mem_of_mem_trace htr) tr htr
  refine ⟨fun session hsession huser hhash href => ?_, fun row hrow huser hhash hreset => ?_⟩
  · obtain ⟨c, hc, href⟩ := AccountCommand.exists_of_refreshed href
    obtain ⟨drawn, decodedAt, now, issuedAt, rfl⟩ := eq_refreshTokens href
    rw [hc] at hok
    obtain ⟨⟨claims, hdecoded, -, found, hfound, hid, -⟩, -, -⟩ :=
      refreshed_cases hsound hbefore.issued hok
    -- the token names the session that it was issued with, and this one is gone
    have hid' := hsound₀.issued.sessionId_eq hsound hdecoded hsession hhash
    refine hlocked.sessions found hfound (List.mem_map.mpr ⟨session, ?_, ?_⟩)
    · exact List.mem_filter.mpr ⟨hsession, decide_eq_true huser⟩
    · exact Option.some.inj (hid'.symm.trans hid)
  · obtain ⟨c, hc, hreset⟩ := AccountCommand.exists_of_resetWith hreset
    obtain ⟨data, salt, now, rfl, rfl⟩ := eq_resetPassword hreset
    rw [hc] at hok
    obtain ⟨reply, hperform⟩ := exists_reply hok
    obtain ⟨used, user, hcheck, -, -, -⟩ := resetPassword_cases hperform
    obtain ⟨hused, husedHash⟩ := mem_of_getResetToken (checkRow_eq_ok_iff.mp hcheck).1
    refine hlocked.resetTokens used hused (List.mem_map.mpr ⟨row, ?_, hhash.trans husedHash.symm⟩)
    exact List.mem_filter.mpr ⟨hrow, decide_eq_true huser⟩

/-- The password of Alice is long enough. -/
lemma secret_length : 6 ≤ "secret".length := by decide

/-- The role of a user is allowed. -/
lemma userRole_allowed : ∀ role ∈ ["user"], role ∈ allowedRoles := by decide

/-- It is given once. -/
lemma userRole_nodup : ["user"].Nodup := by decide

/-- It is one role. -/
lemma userRole_ne : ["user"] ≠ [] := by decide

/-- Alice registers again, presents her old token, and logs in. -/
def aliceReturns : List AccountCommand :=
  [.auth (.register ⟨"alice@example.com", "secret", ["user"], secret_length, userRole_allowed,
      userRole_nodup, userRole_ne⟩ "salt" 2),
    .auth (.refreshTokens ⟨"refresh1"⟩ ⟨"s2", "a2", "r2"⟩ 0 0 0),
    .auth (.login ⟨"alice@example.com", "secret"⟩ ⟨"s2", "a2", "r2"⟩ 0 0)]

/-- The token of an account of Alice is not accepted after the account has been deleted. -/
theorem deleted_account_locked_out_alice :
    ((accountMachine aliceService).trace
      ((accountMachine aliceService).exec
        ((accountMachine aliceService).run .empty ((aliceRun.take 2).map .auth))
          (.deleteAuthUser 1))
      aliceReturns).all (fun tr => tr.command.refreshed ≠ some "refresh1") = true := by
  rw [List.all_eq_true]
  intro tr htr
  exact decide_eq_true
    ((deleted_account_locked_out aliceService_sound ((aliceRun.take 2).map .auth) aliceReturns 1
      (by decide) (by decide) (by decide) htr).1 ⟨"s1", 1, "refresh1", days 30, none, none⟩
        (by decide) rfl rfl)

end PokerRoom
