import PokerRoom.Auth.SingleUse
import PokerRoom.Foundation.FirstCommit

/-!
# Concurrent uses of a token

`refresh_tokens` and `reset_password` check the row of their token, and `reset_password` selects the
sessions to revoke, on what is committed when they read it; they commit in one last step, and
nothing is checked again.  `single_use_iff` says that a token is used once by two concurrent
requests exactly when the first of them commits before the other one has read the row of the token,
and that a reset that commits last revokes the session of a refresh exactly when it has selected the
sessions after the refresh has committed.
-/

namespace PokerRoom

open Foundation

variable (service : AuthService)

/-! ## The handlers -/

/-- What a handler of the auth service still has to do. -/
abbrev AuthHandler := Transaction AuthTables AuthReply AuthRejection

/-- A request to refresh tokens, with what is drawn for it and the readings of the clock. -/
structure RefreshCall extends RefreshRequest where
  /-- The identifiers that are drawn. -/
  drawn : DrawnIds
  /-- When the token is decoded. -/
  decodedAt : Int
  /-- When the session is checked. -/
  now : Int
  /-- When the new tokens are issued. -/
  issuedAt : Int
deriving DecidableEq, Repr

/-- A request to reset a password, with the salt and the reading of the clock. -/
structure ResetCall extends ResetPasswordRequest where
  /-- The salt. -/
  salt : String
  /-- The time. -/
  now : Int
deriving DecidableEq, Repr

/-- Read the user, and commit the refresh. -/
def RefreshCall.readUser (call : RefreshCall) (claims : RefreshClaims) (session : AuthSession) :
    AuthHandler :=
  .read fun t => .check (found (authException 401 .userNotFound) (t.getUserByEmail claims.subject))
    fun user => .commit (commitRefresh service session user.id
      (claims.issue service user call.drawn call.issuedAt) call.drawn.sessionId call.now)

/-- `refresh_tokens`. -/
def RefreshCall.handler (call : RefreshCall) : AuthHandler :=
  .check (call.toRefreshRequest.decode service call.decodedAt) fun claims =>
    .read fun t => .check (call.checkSession service call.now (t.getSession claims.sessionId))
      fun session => call.readUser service claims session

/-- Select the sessions to revoke, and commit the reset. -/
def ResetCall.readSessions (call : ResetCall) (row : PasswordResetToken) (user : AuthUser) :
    AuthHandler :=
  .read fun t =>
    .commit (call.commit service row user (t.activeSessions user.id) call.salt call.now)

/-- Read the user. -/
def ResetCall.readUser (call : ResetCall) (row : PasswordResetToken) : AuthHandler :=
  .read fun t => .check (found (authException 404 .userNotFound) (t.getUser row.userId))
    fun user => call.readSessions service row user

/-- `reset_password`. -/
def ResetCall.handler (call : ResetCall) : AuthHandler :=
  .read fun t => .check
    (ResetPasswordRequest.checkRow call.now (t.getResetToken service call.token))
    fun row => call.readUser service row

/-! ## Definitions -/

/-- Two refreshes, before their first steps. -/
abbrev twoRefreshes (calls : Bool → RefreshCall) (t₀ : AuthTables) :
    System Bool AuthTables AuthReply AuthRejection :=
  System.start (fun i => (calls i).handler service) t₀

/-- Two resets, before their first steps. -/
abbrev twoResets (calls : Bool → ResetCall) (t₀ : AuthTables) :
    System Bool AuthTables AuthReply AuthRejection :=
  System.start (fun i => (calls i).handler service) t₀

/-- A refresh and a reset, before their first steps. -/
abbrev refreshAndReset (refresh : RefreshCall) (reset : ResetCall) (t₀ : AuthTables) :
    System Bool AuthTables AuthReply AuthRejection :=
  System.start (fun i => if i then reset.handler service else refresh.handler service) t₀

/-- A refresh passes its checks. -/
def RefreshCall.Passes (call : RefreshCall) (t : AuthTables) : Prop :=
  ∃ claims session user, call.toRefreshRequest.decode service call.decodedAt = .ok claims ∧
    call.checkSession service call.now (t.getSession claims.sessionId) = .ok session ∧
    t.getUserByEmail claims.subject = some user

/-- A reset passes its checks. -/
def ResetCall.Passes (call : ResetCall) (t : AuthTables) : Prop :=
  ∃ row user,
    ResetPasswordRequest.checkRow call.now (t.getResetToken service call.token) = .ok row ∧
      t.getUser row.userId = some user

/-- The identifier drawn for a session is not stored. -/
def RefreshCall.Fresh (call : RefreshCall) (t : AuthTables) : Prop :=
  call.drawn.sessionId ∉ t.sessions.map (·.id)

/-- At most one refresh succeeds, and at most one session is added. -/
structure RefreshedOnce (t₀ : AuthTables) (after : System Bool AuthTables AuthReply AuthRejection) :
    Prop where
  /-- The refreshes that succeed. -/
  commits : after.commits.length ≤ 1
  /-- The sessions. -/
  sessions : after.store.sessions.length ≤ t₀.sessions.length + 1

/-- The refresh and the reset are those of one user. -/
def SameUser (refresh : RefreshCall) (reset : ResetCall) (t : AuthTables) : Prop :=
  ∀ claims user row, refresh.toRefreshRequest.decode service refresh.decodedAt = .ok claims →
    t.getUserByEmail claims.subject = some user → t.getResetToken service reset.token = some row →
    row.userId = user.id

/-- When the reset commits last, no session created by the refresh is left unrevoked. -/
def NoSessionLeft (refresh : RefreshCall)
    (after : System Bool AuthTables AuthReply AuthRejection) : Prop :=
  after.commits.getLast? = some true → ∀ session ∈ after.store.sessions,
    session.id = refresh.drawn.sessionId → session.revokedAt ≠ none

variable {service} {t t' t₀ t₁ : AuthTables} {reply : AuthReply} {call call' : RefreshCall}
  {reset reset' : ResetCall} {schedule : List Bool}

/-! ## Running alone -/

/-- A refresh that runs alone does what `refreshTokens` does. -/
lemma RefreshCall.exec_handler (call : RefreshCall) (t : AuthTables) :
    (call.handler service).exec t = refreshTokens service t call.toRefreshRequest call.drawn
      call.decodedAt call.now call.issuedAt := by
  rw [RefreshCall.handler, Transaction.exec_check]
  refine bind_congr fun claims => ?_
  rw [Transaction.exec, Transaction.exec_check]
  refine bind_congr fun session => ?_
  rw [RefreshCall.readUser, Transaction.exec, Transaction.exec_check]
  rfl

/-- A reset that runs alone does what `resetPassword` does. -/
lemma ResetCall.exec_handler (call : ResetCall) (t : AuthTables) :
    (call.handler service).exec t =
      resetPassword service t call.toResetPasswordRequest call.salt call.now := by
  rw [ResetCall.handler, Transaction.exec, Transaction.exec_check]
  refine bind_congr fun row => ?_
  rw [ResetCall.readUser, Transaction.exec, Transaction.exec_check]
  rfl

/-- A refresh that commits alone is accepted by the machine. -/
lemma RefreshCall.step_of_commits (h : (call.handler service).Commits t reply t') :
    (authMachine service).step t (.refreshTokens call.toRefreshRequest call.drawn call.decodedAt
      call.now call.issuedAt) = .ok t' := by
  have hexec := h.exec
  rw [RefreshCall.exec_handler] at hexec
  exact map_eq_ok_iff.mpr ⟨(reply, t'), hexec, rfl⟩

/-- A reset that commits alone is accepted by the machine. -/
lemma ResetCall.step_of_commits (h : (reset.handler service).Commits t reply t') :
    (authMachine service).step t
      (.resetPassword reset.toResetPasswordRequest reset.salt reset.now) = .ok t' := by
  have hexec := h.exec
  rw [ResetCall.exec_handler] at hexec
  exact map_eq_ok_iff.mpr ⟨(reply, t'), hexec, rfl⟩

/-! ## Commits that are not refused -/

/-- Revoking a session keeps the identifiers of the sessions. -/
lemma map_id_revoke (sessionId : String) (now : Int) (sessions : List AuthSession) :
    (updateFirst (·.id) sessionId (·.revoke now) sessions).map (·.id) = sessions.map (·.id) :=
  map_updateFirst_of_eq _ fun _ => rfl

/-- A refresh of a session that was read at some moment is not refused. -/
lemma exists_commitRefresh (service : AuthService) (ht : t.Constraints) (session : AuthSession)
    {userId : Int} (huser : userId ∈ t.users.map (·.id)) (tokens : TokenPair) {sessionId : String}
    (hfresh : sessionId ∉ t.sessions.map (·.id)) (now : Int) :
    ∃ reply t', commitRefresh service session userId tokens sessionId now t = .ok (reply, t') := by
  have hids := map_id_revoke session.id now t.sessions
  have hcons : AuthTables.Constraints
      { t with sessions := updateFirst (·.id) session.id (·.revoke now) t.sessions ++
        [tokens.session service userId sessionId (some now)] } := by
    refine ⟨ht.userIds, ht.emails, ?_, ?_, ht.resetTokenIds, ht.tokenHashes, ht.resetTokenUsers⟩
    · rw [nodup_map_concat_iff, hids]
      refine ⟨ht.sessionIds, fun old hold heq => hfresh ?_⟩
      rw [← hids]
      exact List.mem_map.mpr ⟨old, hold, heq⟩
    · rw [List.forall_mem_append, List.forall_mem_singleton]
      exact ⟨forall_updateFirst ht.sessionUsers fun old hold _ => ht.sessionUsers old hold, huser⟩
  exact ⟨_, _, bind_eq_ok_iff.mpr ⟨_, AuthTables.flush_eq_ok_iff.mpr ⟨hcons, rfl⟩, rfl⟩⟩

/-- A reset with rows that were read at some moment is not refused. -/
lemma exists_commitReset (service : AuthService) (ht : t.Constraints) (data : ResetPasswordRequest)
    (row : PasswordResetToken) (user : AuthUser) (active : List AuthSession) (salt : String)
    (now : Int) :
    ∃ reply t', data.commit service row user active salt now t = .ok (reply, t') := by
  have husers : ∀ userId ∈ t.users.map (·.id),
      userId ∈ (updateFirst (·.id) user.id (fun user => { user with
        password := service.hashPassword data.newPassword salt }) t.users).map (·.id) := by
    intro userId huser
    rwa [map_updateFirst_of_eq AuthUser.id]
    exact fun _ => rfl
  have hids : (revokeSessions active now t.sessions).map (·.id) = t.sessions.map (·.id) := by
    rw [revokeSessions, List.map_map]
    refine List.map_congr_left fun session _ => ?_
    rw [Function.comp_apply]
    split <;> rfl
  have hcons : AuthTables.Constraints
      { users := updateFirst (·.id) user.id
          (fun user => { user with password := service.hashPassword data.newPassword salt }) t.users
        sessions := revokeSessions active now t.sessions
        resetTokens := updateFirst (·.id) row.id (fun row => { row with usedAt := some now })
          t.resetTokens } := by
    constructor
    · exact nodup_map_updateFirst _ (fun _ => rfl) ht.userIds
    · exact nodup_map_updateFirst _ (fun _ => rfl) ht.emails
    · exact hids ▸ ht.sessionIds
    · intro session hsession
      obtain ⟨old, hold, rfl⟩ := List.mem_map.mp hsession
      refine husers _ ?_
      split <;> exact ht.sessionUsers old hold
    · exact nodup_map_updateFirst _ (fun _ => rfl) ht.resetTokenIds
    · exact nodup_map_updateFirst _ (fun _ => rfl) ht.tokenHashes
    · exact forall_updateFirst (fun old hold => husers _ (ht.resetTokenUsers old hold))
        fun old hold _ => husers _ (ht.resetTokenUsers old hold)
  exact ⟨_, _, bind_eq_ok_iff.mpr ⟨_, AuthTables.flush_eq_ok_iff.mpr ⟨hcons, rfl⟩, rfl⟩⟩

/-! ## Two refreshes -/

/-- The stages of a refresh once it has read its session. -/
inductive RefreshStage (service : AuthService) (call : RefreshCall) (t₀ : AuthTables)
    (p : AuthHandler) : Prop
  /-- It has checked the session. -/
  | checked {claims : RefreshClaims} {session : AuthSession}
    (hclaims : call.toRefreshRequest.decode service call.decodedAt = .ok claims)
    (hsession : call.checkSession service call.now (t₀.getSession claims.sessionId) = .ok session)
    (stage : p = call.readUser service claims session)
  /-- It has passed its checks. -/
  | passed (pass : call.Passes service t₀) {session : AuthSession} {user : AuthUser}
    {tokens : TokenPair} (huser : user ∈ t₀.users)
    (stage : p = .commit
      (commitRefresh service session user.id tokens call.drawn.sessionId call.now))
  /-- It has not passed them. -/
  | failed (fail : ¬ call.Passes service t₀) {e : AuthRejection} (stage : p = .failed e)

/-- The first step of a refresh checks its session. -/
lemma refreshStage_handler :
    RefreshStage service call t₀ ((call.handler service).progress t₀) := by
  unfold RefreshCall.handler
  cases hclaims : call.toRefreshRequest.decode service call.decodedAt with
  | error e =>
    refine .failed ?_ rfl
    rintro ⟨claims, session, user, hclaims', -⟩
    cases hclaims.symm.trans hclaims'
  | ok claims =>
    simp only [Transaction.check_ok, Transaction.progress]
    cases hsession : call.checkSession service call.now (t₀.getSession claims.sessionId) with
    | ok session => exact .checked hclaims hsession rfl
    | error e =>
      refine .failed ?_ rfl
      rintro ⟨claims', session, user, hclaims', hsession', -⟩
      obtain rfl := Except.ok.inj (hclaims.symm.trans hclaims')
      cases hsession.symm.trans hsession'

/-- The next step of a refresh that nobody has overtaken. -/
lemma RefreshStage.progress {p : AuthHandler} (h : RefreshStage service call t₀ p)
    (ht : t₀.Constraints) (hfresh : call.Fresh t₀) :
    RefreshStage service call t₀ (p.progress t₀) := by
  cases h with
  | @checked claims session hclaims hsession stage =>
    rw [stage]
    simp only [RefreshCall.readUser, Transaction.progress]
    cases huser : t₀.getUserByEmail claims.subject with
    | some user =>
      exact .passed ⟨claims, session, user, hclaims, hsession, huser⟩
        (List.mem_of_find?_eq_some huser) rfl
    | none =>
      refine .failed ?_ rfl
      rintro ⟨claims', session', user, hclaims', -, huser'⟩
      obtain rfl := Except.ok.inj (hclaims.symm.trans hclaims')
      cases huser.symm.trans huser'
  | @passed pass session user tokens huser stage =>
    obtain ⟨reply, t', hcommit⟩ := exists_commitRefresh service ht session
      (List.mem_map_of_mem huser) tokens hfresh call.now
    rw [stage]
    simp only [Transaction.progress, hcommit]
    exact .passed pass huser rfl
  | failed fail stage =>
    rw [stage]
    exact .failed fail rfl

/-- What a refresh that commits alone leaves: a new session of its user, and the users and reset
tokens as they were. -/
lemma RefreshCall.commits_cases (h : (call.handler service).Commits t reply t') :
    ∃ (claims : RefreshClaims) (session : AuthSession) (user : AuthUser),
      call.toRefreshRequest.decode service call.decodedAt = .ok claims ∧
      t.getUserByEmail claims.subject = some user ∧ t'.users = t.users ∧
      t'.resetTokens = t.resetTokens ∧
      t'.sessions = updateFirst (·.id) session.id (·.revoke call.now) t.sessions ++
        [(claims.issue service user call.drawn call.issuedAt).session service user.id
          call.drawn.sessionId (some call.now)] := by
  have hexec := h.exec
  rw [RefreshCall.exec_handler] at hexec
  obtain ⟨claims, session, user, hclaims, -, huser, -, -, rfl⟩ := refreshTokens_cases hexec
  exact ⟨claims, session, user, hclaims, huser, rfl, rfl, rfl⟩

/-- When another refresh of the token commits, a refresh that has read the session before commits
exactly if it passes its checks, and one that has not does not. -/
lemma refresh_commits_iff (hsound : service.Sound) (h₀ : SessionsIssued service t₀)
    (hsame : call'.refreshToken = call.refreshToken) (hfresh : call'.Fresh t₀)
    (hdrawn : call'.drawn.sessionId ≠ call.drawn.sessionId)
    (hfirst : (call.handler service).Commits t₀ reply t₁) (n : ℕ) :
    (∃ reply' t', ((Transaction.progress t₀)^[n] (call'.handler service)).Commits t₁ reply' t') ↔
      0 < n ∧ call'.Passes service t₀ := by
  have hstep := RefreshCall.step_of_commits hfirst
  have h₁ := h₀.of_ok hstep
  cases n with
  | zero =>
    -- the session that it reads is revoked
    refine iff_of_false ?_ (by simp)
    rintro ⟨reply', t', hcommits⟩
    have hstep' : (authMachine service).step t₀ (.refreshTokens ⟨call.refreshToken⟩ _ _ _ _) =
        .ok t₁ := hstep
    have hrevoked := (refreshed_cases hsound h₀ hstep').2.2
    exact hrevoked.not_refreshed hsound h₁ (RefreshCall.step_of_commits hcommits)
      (congrArg some hsame)
  | succ n =>
    obtain ⟨claims₀, session₀, user₀, -, -, husers, -, hsessions⟩ :=
      RefreshCall.commits_cases hfirst
    have hfresh₁ : call'.drawn.sessionId ∉ t₁.sessions.map (·.id) := by
      rw [hsessions, List.map_append, List.mem_append, map_id_revoke]
      rintro (hold | hnew)
      · exact hfresh hold
      · exact hdrawn (List.mem_singleton.mp hnew)
    rw [Function.iterate_succ_apply]
    have hstage : RefreshStage service call' t₀
        ((Transaction.progress t₀)^[n] ((call'.handler service).progress t₀)) :=
      Function.Iterate.rec _ refreshStage_handler
        (fun _ h => h.progress h₀.constraints hfresh) n
    generalize (Transaction.progress t₀)^[n] ((call'.handler service).progress t₀) = p at hstage ⊢
    cases hstage with
    | @checked claims session hclaims hsession stage =>
      rw [stage]
      simp only [RefreshCall.readUser, Transaction.commits_read_iff, Transaction.commits_check_iff,
        Transaction.commits_commit_iff, found_eq_ok_iff, AuthTables.getUserByEmail, husers]
      constructor
      · rintro ⟨reply', t', user, huser, -⟩
        exact ⟨Nat.succ_pos n, claims, session, user, hclaims, hsession, huser⟩
      · rintro ⟨-, claims', session', user, hclaims', -, huser⟩
        obtain rfl := Except.ok.inj (hclaims.symm.trans hclaims')
        obtain ⟨reply', t', hcommit⟩ := exists_commitRefresh service h₁.constraints
          session (husers ▸ List.mem_map_of_mem (List.mem_of_find?_eq_some huser))
          (claims.issue service user call'.drawn call'.issuedAt) hfresh₁ call'.now
        exact ⟨reply', t', user, huser, hcommit⟩
    | @passed pass session user tokens huser stage =>
      obtain ⟨reply', t', hcommit⟩ := exists_commitRefresh service h₁.constraints
        session (husers ▸ List.mem_map_of_mem huser) tokens hfresh₁ call'.now
      rw [stage]
      exact iff_of_true ⟨reply', t', .commit hcommit⟩ ⟨Nat.succ_pos n, pass⟩
    | failed fail stage =>
      rw [stage]
      refine iff_of_false ?_ fun h => fail h.2
      rintro ⟨reply', t', hcommits⟩
      cases hcommits

/-- At most one of two refreshes of a token succeeds exactly when the first of them commits before
the other one has read the session, unless the other one does not pass its checks. -/
lemma refreshedOnce_iff (hsound : service.Sound) (h₀ : SessionsIssued service t₀)
    {calls : Bool → RefreshCall} (hsame : ∀ i j, (calls i).refreshToken = (calls j).refreshToken)
    (hfresh : ∀ i, (calls i).Fresh t₀)
    (hdrawn : (calls false).drawn.sessionId ≠ (calls true).drawn.sessionId)
    (hended : ∀ i, (((twoRefreshes service calls t₀).run schedule).pending i).Ended) :
    RefreshedOnce t₀ ((twoRefreshes service calls t₀).run schedule) ↔
      ¬ System.PassedBeforeCommit (twoRefreshes service calls t₀) 0
        (fun i => (calls i).Passes service t₀) schedule := by
  have hne : ∀ i j : Bool, j ≠ i → (calls j).drawn.sessionId ≠ (calls i).drawn.sessionId := by
    intro i j hji
    cases i <;> cases j
    · exact absurd rfl hji
    · exact hdrawn.symm
    · exact hdrawn
    · exact absurd rfl hji
  rw [← System.commits_length_le_one_iff (by decide) (fun i j n reply s₁ hji hfirst =>
    refresh_commits_iff hsound h₀ (hsame j i) (hfresh j) (hne i j hji) hfirst n) hended]
  refine ⟨fun h => h.commits, fun hle => ⟨hle, ?_⟩⟩
  match hcommits : ((twoRefreshes service calls t₀).run schedule).commits with
  | [] =>
    rw [(System.before_commit (c := twoRefreshes service calls t₀) hcommits).1]
    exact Nat.le_succ _
  | [i] =>
    obtain ⟨reply, halone⟩ := System.run_one_commit hcommits
    obtain ⟨claims, session, user, -, -, -, -, hsessions⟩ := RefreshCall.commits_cases halone
    have hlength := congrArg List.length (map_id_revoke session.id (calls i).now t₀.sessions)
    rw [List.length_map, List.length_map] at hlength
    rw [hsessions, List.length_append, hlength]
    exact le_rfl
  | i :: j :: rest =>
    rw [hcommits] at hle
    simp at hle

/-! ## Two resets -/

/-- The stages of a reset by the number of its steps. -/
inductive ResetStage (service : AuthService) (call : ResetCall) (t₀ : AuthTables) :
    ℕ → AuthHandler → Prop
  /-- It has checked the row of its token. -/
  | checked {row : PasswordResetToken}
    (hrow : ResetPasswordRequest.checkRow call.now
      (t₀.getResetToken service call.token) = .ok row) :
    ResetStage service call t₀ 1 (call.readUser service row)
  /-- It has read the user. -/
  | found {row : PasswordResetToken} {user : AuthUser}
    (hrow : ResetPasswordRequest.checkRow call.now (t₀.getResetToken service call.token) = .ok row)
    (huser : t₀.getUser row.userId = some user) :
    ResetStage service call t₀ 2 (call.readSessions service row user)
  /-- It has selected the sessions. -/
  | ready {n : ℕ} {row : PasswordResetToken} {user : AuthUser} (hn : 2 < n)
    (hrow : ResetPasswordRequest.checkRow call.now (t₀.getResetToken service call.token) = .ok row)
    (huser : t₀.getUser row.userId = some user) :
    ResetStage service call t₀ n (.commit
      (call.commit service row user (t₀.activeSessions user.id) call.salt call.now))
  /-- It has not passed its checks. -/
  | failed {n : ℕ} {e : AuthRejection} (fail : ¬ call.Passes service t₀) :
    ResetStage service call t₀ n (.failed e)

/-- The first step of a reset checks the row of its token. -/
lemma resetStage_handler :
    ResetStage service reset t₀ 1 ((reset.handler service).progress t₀) := by
  unfold ResetCall.handler
  simp only [Transaction.progress]
  cases hrow : ResetPasswordRequest.checkRow reset.now (t₀.getResetToken service reset.token) with
  | ok row => exact .checked hrow
  | error e =>
    refine .failed ?_
    rintro ⟨row, user, hrow', -⟩
    cases hrow.symm.trans hrow'

/-- The next step of a reset that nobody has overtaken. -/
lemma ResetStage.progress {n : ℕ} {p : AuthHandler} (h : ResetStage service reset t₀ n p)
    (ht : t₀.Constraints) : ResetStage service reset t₀ (n + 1) (p.progress t₀) := by
  cases h with
  | @checked row hrow =>
    simp only [ResetCall.readUser, Transaction.progress]
    cases huser : t₀.getUser row.userId with
    | some user => exact .found hrow huser
    | none =>
      refine .failed ?_
      rintro ⟨row', user, hrow', huser'⟩
      obtain rfl := Except.ok.inj (hrow.symm.trans hrow')
      cases huser.symm.trans huser'
  | found hrow huser => exact .ready (Nat.lt_succ_self 2) hrow huser
  | @ready _ row user hn hrow huser =>
    obtain ⟨reply, t', hcommit⟩ := exists_commitReset service ht
      reset.toResetPasswordRequest row user (t₀.activeSessions user.id) reset.salt reset.now
    simp only [Transaction.progress, hcommit]
    exact .ready (Nat.lt_succ_of_lt hn) hrow huser
  | failed fail => exact .failed fail

/-- The steps of a reset that nobody has overtaken. -/
lemma resetStage_iterate (service : AuthService) (reset : ResetCall) (ht : t₀.Constraints) (n : ℕ) :
    ResetStage service reset t₀ (n + 1)
      ((Transaction.progress t₀)^[n + 1] (reset.handler service)) := by
  induction n with
  | zero => exact resetStage_handler
  | succ n ih =>
    rw [Function.iterate_succ_apply']
    exact ih.progress ht

/-- A user with a stored identifier is found. -/
lemma exists_getUser {userId : Int} (h : userId ∈ t.users.map (·.id)) :
    ∃ user, t.getUser userId = some user := by
  obtain ⟨user, huser, hid⟩ := List.mem_map.mp h
  cases hfind : t.getUser userId with
  | some user => exact ⟨user, rfl⟩
  | none => exact absurd hid (find?_key_eq_none_iff.mp hfind user huser)

/-- What the reset of a password writes to the sessions. -/
lemma sessions_of_commitReset {data : ResetPasswordRequest} {row : PasswordResetToken}
    {user : AuthUser} {active : List AuthSession} {salt : String} {now : Int}
    (h : data.commit service row user active salt now t = .ok (reply, t')) :
    t'.sessions = revokeSessions active now t.sessions := by
  simp only [ResetPasswordRequest.commit, bind_eq_ok_iff, AuthTables.flush_eq_ok_iff] at h
  obtain ⟨_, ⟨-, rfl⟩, heq⟩ := h
  obtain ⟨-, rfl⟩ := Prod.mk.inj (Except.ok.inj heq)
  rfl

/-- When another reset with the token commits, a reset that has read the row of the token before
commits exactly if it passes its checks, and one that has not does not. -/
lemma reset_commits_iff (h₀ : SessionsIssued service t₀) (hsame : reset'.token = reset.token)
    (hfirst : (reset.handler service).Commits t₀ reply t₁) (n : ℕ) :
    (∃ reply' t', ((Transaction.progress t₀)^[n] (reset'.handler service)).Commits t₁ reply' t') ↔
      0 < n ∧ reset'.Passes service t₀ := by
  have hstep := ResetCall.step_of_commits hfirst
  have h₁ := h₀.of_ok hstep
  cases n with
  | zero =>
    -- the token that it reads is used
    refine iff_of_false ?_ (by simp)
    rintro ⟨reply', t', hcommits⟩
    have hused : UsedToken service reset.token t₁ := (resetWith_cases h₀ rfl hstep).2.1
    have hc : (AuthCommand.resetPassword reset'.toResetPasswordRequest reset'.salt
        reset'.now).resetWith = some reset.token := congrArg some hsame
    exact (resetWith_cases h₁ hc (ResetCall.step_of_commits hcommits)).1 hused
  | succ n =>
    have hexec := hfirst.exec
    rw [ResetCall.exec_handler] at hexec
    obtain ⟨row₀, user₀, -, -, -, ht₁⟩ := resetPassword_cases hexec
    have huserIds : t₁.users.map (·.id) = t₀.users.map (·.id) := by
      rw [ht₁]
      exact map_updateFirst_of_eq _ fun _ => rfl
    have hstage := resetStage_iterate service reset' h₀.constraints n
    generalize (Transaction.progress t₀)^[n + 1] (reset'.handler service) = p at hstage ⊢
    have hwrite : ∀ row user active, ∃ reply' t', reset'.commit service row user active reset'.salt
        reset'.now t₁ = .ok (reply', t') := fun row user active =>
      exists_commitReset service h₁.constraints reset'.toResetPasswordRequest row user active _ _
    cases hstage with
    | @checked row hrow =>
      obtain ⟨hread, -⟩ := checkRow_eq_ok_iff.mp hrow
      have huserId := h₀.constraints.resetTokenUsers row (mem_of_getResetToken hread).1
      obtain ⟨user, huser⟩ := exists_getUser huserId
      obtain ⟨user', huser'⟩ := exists_getUser (huserIds.symm ▸ huserId)
      obtain ⟨reply', t', hcommit⟩ := hwrite row user' (t₁.activeSessions user'.id)
      refine iff_of_true ⟨reply', t', ?_⟩ ⟨Nat.succ_pos _, row, user, hrow, huser⟩
      exact .read (Transaction.commits_check_iff.mpr
        ⟨user', found_eq_ok_iff.mpr huser', .read (.commit hcommit)⟩)
    | @found row user hrow huser =>
      obtain ⟨reply', t', hcommit⟩ := hwrite row user (t₁.activeSessions user.id)
      exact iff_of_true ⟨reply', t', .read (.commit hcommit)⟩
        ⟨Nat.succ_pos _, row, user, hrow, huser⟩
    | @ready _ row user hn hrow huser =>
      obtain ⟨reply', t', hcommit⟩ := hwrite row user (t₀.activeSessions user.id)
      exact iff_of_true ⟨reply', t', .commit hcommit⟩ ⟨Nat.succ_pos _, row, user, hrow, huser⟩
    | failed fail =>
      refine iff_of_false ?_ fun h => fail h.2
      rintro ⟨reply', t', hcommits⟩
      cases hcommits

/-! ## A refresh and a reset -/

/-- A reset that commits after a refresh revokes the sessions it has selected: those that are active
after the refresh if it has taken at most two steps before, and otherwise those that were active
before. -/
lemma reset_commits_after_refresh (h₀ : SessionsIssued service t₀) (husers : t₁.users = t₀.users)
    (htokens : t₁.resetTokens = t₀.resetTokens) {n : ℕ}
    (h : ((Transaction.progress t₀)^[n] (reset.handler service)).Commits t₁ reply t') :
    ∃ row user, ResetPasswordRequest.checkRow reset.now (t₀.getResetToken service reset.token) =
        .ok row ∧ t₀.getUser row.userId = some user ∧ t'.sessions = revokeSessions
          ((if 2 < n then t₀ else t₁).activeSessions user.id) reset.now t₁.sessions := by
  have hgetUser : ∀ userId, t₁.getUser userId = t₀.getUser userId := fun userId => by
    rw [AuthTables.getUser, husers]
    rfl
  cases n with
  | zero =>
    have hexec := h.exec
    rw [Function.iterate_zero_apply, ResetCall.exec_handler] at hexec
    obtain ⟨row, user, hrow, huser, -, rfl⟩ := resetPassword_cases hexec
    have hread : t₁.getResetToken service reset.token = t₀.getResetToken service reset.token := by
      rw [AuthTables.getResetToken, htokens]
      rfl
    exact ⟨row, user, hread ▸ hrow, hgetUser _ ▸ huser, rfl⟩
  | succ n =>
    have hstage := resetStage_iterate service reset h₀.constraints n
    generalize (Transaction.progress t₀)^[n + 1] (reset.handler service) = p at hstage h
    generalize hk : n + 1 = k at hstage
    cases hstage with
    | @checked row hrow =>
      rw [ResetCall.readUser, Transaction.commits_read_iff, Transaction.commits_check_iff] at h
      obtain ⟨user, huser, h⟩ := h
      rw [ResetCall.readSessions, Transaction.commits_read_iff, Transaction.commits_commit_iff] at h
      exact ⟨row, user, hrow, hgetUser _ ▸ found_eq_ok_iff.mp huser, sessions_of_commitReset h⟩
    | @found row user hrow huser =>
      rw [ResetCall.readSessions, Transaction.commits_read_iff, Transaction.commits_commit_iff] at h
      exact ⟨row, user, hrow, huser, sessions_of_commitReset h⟩
    | @ready _ row user hn hrow huser =>
      rw [Transaction.commits_commit_iff] at h
      rw [if_pos hn]
      exact ⟨row, user, hrow, huser, sessions_of_commitReset h⟩
    | failed => cases h

/-- When a reset commits after a refresh of its user, the new session is revoked exactly if the
reset has taken at most two steps before the refresh has committed. -/
lemma new_session_revoked_iff (h₀ : SessionsIssued service t₀) (hfresh : call.Fresh t₀)
    (hsame : SameUser service call reset t₀) {reply' : AuthReply}
    (hfirst : (call.handler service).Commits t₀ reply t₁) {n : ℕ}
    (hlast : ((Transaction.progress t₀)^[n] (reset.handler service)).Commits t₁ reply' t') :
    reset.Passes service t₀ ∧ ((∀ session ∈ t'.sessions, session.id = call.drawn.sessionId →
      session.revokedAt ≠ none) ↔ ¬ 2 < n) := by
  have h₁ := h₀.of_ok (RefreshCall.step_of_commits hfirst)
  obtain ⟨claims, session, user, hclaims, huser, husers, htokens, hsessions⟩ :=
    RefreshCall.commits_cases hfirst
  obtain ⟨row, user', hrow, huser', hafter⟩ := reset_commits_after_refresh h₀ husers htokens hlast
  have huserId : user'.id = user.id :=
    (mem_of_find?_key huser').2.trans
      (hsame claims user row hclaims huser (checkRow_eq_ok_iff.mp hrow).1)
  set new := (claims.issue service user call.drawn call.issuedAt).session service user.id
    call.drawn.sessionId (some call.now) with hnew
  have hmem : new ∈ t₁.sessions := hsessions ▸ List.mem_append_right _ List.mem_cons_self
  refine ⟨⟨row, user', hrow, huser'⟩, ?_⟩
  rw [hafter, huserId]
  constructor
  · -- what was active before the refresh does not contain the new session
    intro hrevoked hn
    rw [if_pos hn] at hrevoked
    have hnot : new.id ∉ (t₀.activeSessions user.id).map (·.id) := fun hin => by
      obtain ⟨old, hold, hid⟩ := List.mem_map.mp hin
      exact hfresh (List.mem_map.mpr ⟨old, (List.mem_filter.mp hold).1, hid⟩)
    exact hrevoked new (List.mem_map.mpr ⟨new, hmem, if_neg hnot⟩) rfl rfl
  · intro hn session' hsession' hid
    rw [if_neg hn] at hsession'
    obtain ⟨old, hold, rfl⟩ := List.mem_map.mp hsession'
    have hold_id : old.id = new.id := by
      rw [← show (if old.id ∈ (t₁.activeSessions user.id).map (·.id) then old.revoke reset.now
        else old).id = old.id by split <;> rfl]
      exact hid
    have heq : old = new := eq_of_key_eq h₁.constraints.sessionIds hold hmem hold_id
    have hactive : old ∈ t₁.activeSessions user.id :=
      List.mem_filter.mpr ⟨hold, by simp [heq, hnew, TokenPair.session]⟩
    rw [if_pos (List.mem_map_of_mem hactive)]
    simp [AuthSession.revoke]

/-- A reset that has selected the sessions commits, whatever was committed in between. -/
lemma exists_commits_of_selected (h₀ : SessionsIssued service t₀) (hcons : t₁.Constraints)
    (hpasses : reset.Passes service t₀) {n : ℕ} (hn : 2 < n) :
    ∃ reply' t', ((Transaction.progress t₀)^[n] (reset.handler service)).Commits t₁ reply' t' := by
  obtain ⟨n, rfl⟩ := Nat.exists_eq_add_one_of_ne_zero (Nat.ne_zero_of_lt hn)
  have hstage := resetStage_iterate service reset h₀.constraints n
  generalize (Transaction.progress t₀)^[n + 1] (reset.handler service) = p at hstage ⊢
  generalize n + 1 = k at hstage hn
  cases hstage with
  | checked | found => omega
  | @ready _ row user _ hrow huser =>
    obtain ⟨reply', t', hcommit⟩ := exists_commitReset service hcons
      reset.toResetPasswordRequest row user (t₀.activeSessions user.id) reset.salt reset.now
    exact ⟨reply', t', .commit hcommit⟩
  | failed fail => exact absurd hpasses fail

/-- When a reset commits last, it revokes the session of a refresh of its user exactly when the
refresh has not committed after the reset has selected the sessions. -/
lemma noSessionLeft_iff (h₀ : SessionsIssued service t₀) (hfresh : call.Fresh t₀)
    (hsame : SameUser service call reset t₀)
    (hended : ∀ i, (((refreshAndReset service call reset t₀).run schedule).pending i).Ended) :
    NoSessionLeft call ((refreshAndReset service call reset t₀).run schedule) ↔
      ¬ System.PassedBeforeCommit (refreshAndReset service call reset t₀) 2
        (fun i => i = true ∧ reset.Passes service t₀) schedule := by
  constructor
  · rintro hleft ⟨pre, post, i, j, rfl, hpre, hfirst, hji, hcount, rfl, hpasses⟩
    obtain rfl : i = false := by simpa using hji.symm
    have hcommits := System.two_commits_of_ended (j := true) (by decide) (by decide) hpre hfirst
      (fun reply s₁ halone => exists_commits_of_selected h₀
        (h₀.of_ok (RefreshCall.step_of_commits halone)).constraints hpasses hcount) (hended true)
    obtain ⟨s₁, reply, reply', halone, hlast⟩ :=
      System.run_two_commits (by decide) (by decide) hpre hfirst hcommits
    have hrevoked := (new_session_revoked_iff h₀ hfresh hsame halone hlast).2.mp
      (hleft (by rw [hcommits]; rfl))
    exact hrevoked hcount
  · intro hnone hlast
    rcases System.commits_cases (by decide) _ t₀ schedule with hnil | ⟨i, hone⟩ | ⟨i, j, hji, hboth⟩
    · rw [hnil] at hlast
      cases hlast
    · -- the refresh has not committed
      obtain rfl : i = true := by simpa [hone] using hlast
      obtain ⟨reply, halone⟩ := System.run_one_commit hone
      have hexec := Transaction.Commits.exec halone
      rw [if_pos rfl, ResetCall.exec_handler] at hexec
      obtain ⟨row, user, -, -, -, hstore⟩ := resetPassword_cases hexec
      intro session hsession hid
      rw [hstore] at hsession
      obtain ⟨old, hold, rfl⟩ := List.mem_map.mp hsession
      refine absurd (List.mem_map.mpr ⟨old, hold, ?_⟩) hfresh
      rw [← hid]
      split <;> rfl
    · obtain rfl : j = true := by simpa [hboth] using hlast
      obtain rfl : i = false := by simpa using hji.symm
      obtain ⟨pre, post, rfl, hpre, hfirst⟩ := System.exists_first_commit hboth
      obtain ⟨s₁, reply, reply', halone, hlast'⟩ :=
        System.run_two_commits (by decide) (by decide) hpre hfirst hboth
      obtain ⟨hpasses, hiff⟩ := new_session_revoked_iff h₀ hfresh hsame halone hlast'
      exact hiff.mpr fun hcount => hnone
        ⟨pre, post, false, true, rfl, hpre, hfirst, by decide, hcount, rfl, hpasses⟩

/-! ## Every schedule -/

/-- **When concurrent uses of a token take effect once.** Of two refreshes, or two resets, with one
token at most one succeeds exactly when the first one commits before the other one has read the row
of the token, unless the other one does not pass its checks.  A reset that commits last leaves no
session of a refresh of its user exactly when the refresh has not committed after the reset has
selected the sessions. -/
theorem single_use_iff (hsound : service.Sound) (h₀ : SessionsIssued service t₀)
    (schedule : List Bool) :
    (∀ calls : Bool → RefreshCall, (∀ i j, (calls i).refreshToken = (calls j).refreshToken) →
      (∀ i, (calls i).Fresh t₀) →
      (calls false).drawn.sessionId ≠ (calls true).drawn.sessionId →
      (∀ i, (((twoRefreshes service calls t₀).run schedule).pending i).Ended) →
      (RefreshedOnce t₀ ((twoRefreshes service calls t₀).run schedule) ↔
        ¬ System.PassedBeforeCommit (twoRefreshes service calls t₀) 0
          (fun i => (calls i).Passes service t₀) schedule)) ∧
    (∀ calls : Bool → ResetCall, (∀ i j, (calls i).token = (calls j).token) →
      (∀ i, (((twoResets service calls t₀).run schedule).pending i).Ended) →
      (((twoResets service calls t₀).run schedule).commits.length ≤ 1 ↔
        ¬ System.PassedBeforeCommit (twoResets service calls t₀) 0
          (fun i => (calls i).Passes service t₀) schedule)) ∧
    (∀ (refresh : RefreshCall) (reset : ResetCall), refresh.Fresh t₀ →
      SameUser service refresh reset t₀ →
      (∀ i, (((refreshAndReset service refresh reset t₀).run schedule).pending i).Ended) →
      (NoSessionLeft refresh ((refreshAndReset service refresh reset t₀).run schedule) ↔
        ¬ System.PassedBeforeCommit (refreshAndReset service refresh reset t₀) 2
          (fun i => i = true ∧ reset.Passes service t₀) schedule)) := by
  refine ⟨fun calls hsame hfresh hdrawn hended => ?_, fun calls hsame hended => ?_,
    fun refresh reset hfresh hsame hended => ?_⟩
  · exact refreshedOnce_iff hsound h₀ hsame hfresh hdrawn hended
  · exact System.commits_length_le_one_iff (by decide)
      (fun i j n reply s₁ hji hfirst => reset_commits_iff h₀ (hsame j i) hfirst n) hended
  · exact noSessionLeft_iff h₀ hfresh hsame hended

/-- What is stored when Alice has registered, logged in and asked for a reset of her password. -/
def aliceStore : AuthTables :=
  (authMachine aliceService).run .empty (aliceRun.take 2 ++
    [.forgotPassword ⟨"alice@example.com"⟩ "row" "reset" 0 true])

/-- Her session goes with its token. -/
lemma sessionsIssued_aliceStore : SessionsIssued aliceService aliceStore :=
  Machine.run_invariant (fun _ _ _ h hok => h.of_ok hok) sessionsIssued_empty _

/-- Refreshes of her token. -/
def aliceRefresh (i : Bool) : RefreshCall where
  refreshToken := "refresh1"
  drawn := if i then ⟨"s3", "a3", "r3"⟩ else ⟨"s2", "a2", "r2"⟩
  decodedAt := 0
  now := 0
  issuedAt := 0

/-- A reset of her password. -/
def aliceReset : ResetCall where
  token := "reset"
  newPassword := "secret2"
  newPassword_length := by decide
  salt := "salt"
  now := 0

/-- The refresh and the reset are hers. -/
lemma sameUser_alice : SameUser aliceService (aliceRefresh false) aliceReset aliceStore := by
  intro claims user row hclaims huser hrow
  obtain rfl := Except.ok.inj (hclaims.symm.trans
    (show _ = Except.ok ⟨"s1", "alice@example.com", ["user"]⟩ by decide))
  have hid := (show (aliceStore.getUserByEmail "alice@example.com").map (·.id) = some 1 by decide)
  have hrowUser := (show (aliceStore.getResetToken aliceService "reset").map (·.userId) = some 1 by
    decide)
  change aliceStore.getUserByEmail "alice@example.com" = some user at huser
  change aliceStore.getResetToken aliceService "reset" = some row at hrow
  rw [huser] at hid
  rw [hrow] at hrowUser
  exact (Option.some.inj hrowUser).trans (Option.some.inj hid).symm

/-- Alice's requests are carried out one after the other. -/
theorem single_use_iff_alice :
    (RefreshedOnce aliceStore ((twoRefreshes aliceService aliceRefresh aliceStore).run
        [false, false, false, true, true, true]) ↔
      ¬ System.PassedBeforeCommit (twoRefreshes aliceService aliceRefresh aliceStore) 0
        (fun i => (aliceRefresh i).Passes aliceService aliceStore)
        [false, false, false, true, true, true]) ∧
    (((twoResets aliceService (fun _ => aliceReset) aliceStore).run
        [true, true, true, true, false]).commits.length ≤ 1 ↔
      ¬ System.PassedBeforeCommit (twoResets aliceService (fun _ => aliceReset) aliceStore) 0
        (fun _ => aliceReset.Passes aliceService aliceStore) [true, true, true, true, false]) ∧
    (NoSessionLeft (aliceRefresh false)
        ((refreshAndReset aliceService (aliceRefresh false) aliceReset aliceStore).run
          [true, true, false, false, false, true, true]) ↔
      ¬ System.PassedBeforeCommit
        (refreshAndReset aliceService (aliceRefresh false) aliceReset aliceStore) 2
        (fun i => i = true ∧ aliceReset.Passes aliceService aliceStore)
        [true, true, false, false, false, true, true]) :=
  ⟨(single_use_iff aliceService_sound sessionsIssued_aliceStore
      [false, false, false, true, true, true]).1 aliceRefresh (fun _ _ => rfl)
      (by unfold RefreshCall.Fresh; decide) (by decide) (by decide),
    (single_use_iff aliceService_sound sessionsIssued_aliceStore
      [true, true, true, true, false]).2.1
      (fun _ => aliceReset) (fun _ _ => rfl) (by decide),
    (single_use_iff aliceService_sound sessionsIssued_aliceStore
      [true, true, false, false, false, true, true]).2.2 (aliceRefresh false) aliceReset
      (by unfold RefreshCall.Fresh; decide) sameUser_alice (by decide)⟩

/-- Two refreshes that have both read the session both succeed, two resets that have both read the
token both succeed, and a reset that has selected the sessions before a refresh commits leaves its
session. -/
theorem tokens_used_twice :
    (¬ ∀ (service : AuthService) (t₀ : AuthTables) (schedule : List Bool), service.Sound →
      SessionsIssued service t₀ → ∀ calls : Bool → RefreshCall,
      (∀ i j, (calls i).refreshToken = (calls j).refreshToken) → (∀ i, (calls i).Fresh t₀) →
      (calls false).drawn.sessionId ≠ (calls true).drawn.sessionId →
      RefreshedOnce t₀ ((twoRefreshes service calls t₀).run schedule)) ∧
    (¬ ∀ (service : AuthService) (t₀ : AuthTables) (schedule : List Bool), service.Sound →
      SessionsIssued service t₀ → ∀ calls : Bool → ResetCall,
      (∀ i j, (calls i).token = (calls j).token) →
      ((twoResets service calls t₀).run schedule).commits.length ≤ 1) ∧
    ¬ ∀ (service : AuthService) (t₀ : AuthTables) (schedule : List Bool), service.Sound →
      SessionsIssued service t₀ → ∀ (refresh : RefreshCall) (reset : ResetCall), refresh.Fresh t₀ →
      SameUser service refresh reset t₀ →
      NoSessionLeft refresh ((refreshAndReset service refresh reset t₀).run schedule) := by
  refine ⟨fun h => ?_, fun h => ?_, fun h => ?_⟩
  · have honce := h aliceService aliceStore [false, true, false, true, false, true]
      aliceService_sound sessionsIssued_aliceStore aliceRefresh (fun _ _ => rfl)
      (by unfold RefreshCall.Fresh; decide) (by decide)
    exact absurd honce.commits (by decide)
  · have honce := h aliceService aliceStore [false, true, false, false, false, true, true, true]
      aliceService_sound sessionsIssued_aliceStore (fun _ => aliceReset) fun _ _ => rfl
    exact absurd honce (by decide)
  · have hleft := h aliceService aliceStore [true, true, true, false, false, false, true]
      aliceService_sound sessionsIssued_aliceStore (aliceRefresh false) aliceReset
      (by unfold RefreshCall.Fresh; decide) sameUser_alice
    exact absurd hleft (by unfold NoSessionLeft; decide)

end PokerRoom
