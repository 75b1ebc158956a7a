import PokerRoom.Domain.Auth
import PokerRoom.Foundation.Machine

/-!
# Commands of the auth service

`application/commands/auth_authentication_command_service.py` and `auth_password_command_service.py`
with their helpers and `infrastructure/token_service.py`.  What is drawn at random and the readings
of the clock are arguments of a command.  A rejected command leaves nothing: what it has changed is
not committed.
-/

namespace PokerRoom

open Foundation

variable (service : AuthService)

/-! ## Tokens -/

/-- The identifiers drawn for a pair of tokens and its session. -/
structure DrawnIds where
  /-- Identifier of the session. -/
  sessionId : String
  /-- Identifier of the access token. -/
  accessJwtId : String
  /-- Identifier of the refresh token. -/
  refreshJwtId : String
deriving DecidableEq, Repr

/-- A pair of tokens. -/
structure TokenPair where
  /-- The access token. -/
  accessToken : String
  /-- The refresh token. -/
  refreshToken : String
  /-- When the access token expires. -/
  accessExpiresAt : Int
  /-- When the refresh token expires. -/
  refreshExpiresAt : Int
deriving DecidableEq, Repr

/-- The claims of an access token. -/
def accessClaims (userEmail : String) (roles : List String) (drawn : DrawnIds) (now : Int) :
    TokenClaims :=
  { subject := some userEmail
    roles := some roles
    issuedAt := some (seconds now)
    expiresAt := some (seconds (now + minutes service.accessTokenTtlMin))
    jwtId := some drawn.accessJwtId
    sessionId := some drawn.sessionId
    tokenType := none }

/-- The claims of a refresh token. -/
def refreshClaims (userEmail : String) (roles : List String) (drawn : DrawnIds) (now : Int) :
    TokenClaims :=
  { subject := some userEmail
    roles := some roles
    issuedAt := some (seconds now)
    expiresAt := some (seconds (now + days service.refreshTokenTtlDays))
    jwtId := some drawn.refreshJwtId
    sessionId := some drawn.sessionId
    tokenType := some refreshTokenType }

/-- Issue a pair of tokens. -/
def issueTokenPair (userEmail : String) (roles : List String) (drawn : DrawnIds) (now : Int) :
    TokenPair :=
  { accessToken := service.encodeToken (accessClaims service userEmail roles drawn now)
    refreshToken := service.encodeToken (refreshClaims service userEmail roles drawn now)
    accessExpiresAt := now + minutes service.accessTokenTtlMin
    refreshExpiresAt := now + days service.refreshTokenTtlDays }

/-- The answer with a pair of tokens. -/
def TokenPair.reply (tokens : TokenPair) (now : Int) : AuthReply :=
  .tokens tokens.accessToken tokens.refreshToken (seconds (tokens.accessExpiresAt - now))

/-- The session of a pair of tokens. -/
def TokenPair.session (tokens : TokenPair) (userId : Int) (sessionId : String)
    (lastSeenAt : Option Int) : AuthSession :=
  { id := sessionId
    userId := userId
    refreshTokenHash := service.hashToken tokens.refreshToken
    expiresAt := tokens.refreshExpiresAt
    revokedAt := none
    lastSeenAt := lastSeenAt }

/-- A claim that is missing or empty counts as missing. -/
def nonempty (claim : Option String) : Option String := claim.filter (· ≠ "")

/-! ## Lookups -/

/-- The user with an email address. -/
def AuthTables.getUserByEmail (t : AuthTables) (email : String) : Option AuthUser :=
  t.users.find? fun user => user.email = email

/-- The user with an identifier. -/
def AuthTables.getUser (t : AuthTables) (userId : Int) : Option AuthUser :=
  t.users.find? fun user => user.id = userId

/-- The session with an identifier. -/
def AuthTables.getSession (t : AuthTables) (sessionId : String) : Option AuthSession :=
  t.sessions.find? fun session => session.id = sessionId

/-- The row of a reset token. -/
def AuthTables.getResetToken (t : AuthTables) (token : String) : Option PasswordResetToken :=
  t.resetTokens.find? fun row => row.tokenHash = service.hashToken token

/-- The sessions of a user that are not revoked. -/
def AuthTables.activeSessions (t : AuthTables) (userId : Int) : List AuthSession :=
  t.sessions.filter fun session => session.userId = userId ∧ session.revokedAt = none

/-- Revoke a session. -/
def AuthSession.revoke (now : Int) (session : AuthSession) : AuthSession :=
  { session with revokedAt := some now }

/-- Revoke sessions that were read. -/
def revokeSessions (active : List AuthSession) (now : Int) (sessions : List AuthSession) :
    List AuthSession :=
  sessions.map fun session =>
    if session.id ∈ active.map (·.id) then session.revoke now else session

/-! ## Registering and logging in -/

/-- Register a user, under the identifier that the database assigns. -/
def register (t : AuthTables) (data : Register) (salt : String) (userId : Int) :
    Except AuthRejection (AuthReply × AuthTables) := do
  require (t.getUserByEmail data.email = none) (authException 409 .emailAlreadyExists)
  let t' ← AuthTables.flush
    { t with users := t.users ++
        [{ id := userId
           email := data.email
           password := service.hashPassword data.password salt
           roles := data.roles
           lastLoginAt := none }] }
  return (.registered data.roles, t')

/-- Log in. -/
def login (t : AuthTables) (data : Login) (drawn : DrawnIds) (now issuedAt : Int) :
    Except AuthRejection (AuthReply × AuthTables) := do
  let user ← found (authException 401 .invalidCredentials) (t.getUserByEmail data.email)
  require (service.verifyPassword data.password user.password = true)
    (authException 401 .invalidCredentials)
  let tokens := issueTokenPair service user.email user.roles drawn issuedAt
  let t' ← AuthTables.flush
    { t with
      users := updateFirst (·.id) user.id
        (fun user => { user with lastLoginAt := some now }) t.users
      sessions := t.sessions ++ [tokens.session service user.id drawn.sessionId none] }
  return (tokens.reply now, t')

/-! ## Refreshing tokens -/

/-- What a refresh reads from its token. -/
structure RefreshClaims where
  /-- Identifier of the session. -/
  sessionId : String
  /-- The email address of the user. -/
  subject : String
  /-- The roles of the user. -/
  roles : List String
deriving DecidableEq, Repr

/-- Decode a refresh token. -/
def RefreshRequest.decode (data : RefreshRequest) (decodedAt : Int) :
    Except AuthRejection RefreshClaims := do
  let claims ← found (authException 401 .invalidOrExpiredRefreshToken)
    (service.decodeToken decodedAt data.refreshToken)
  require (claims.tokenType = some refreshTokenType) (authException 401 .invalidTokenType)
  match nonempty claims.sessionId, nonempty claims.subject with
  | some sessionId, some subject => return ⟨sessionId, subject, claims.roles.getD []⟩
  | _, _ => .error (authException 401 .malformedRefreshToken)

/-- Check the session of a refresh token. -/
def RefreshRequest.checkSession (data : RefreshRequest) (now : Int) (read : Option AuthSession) :
    Except AuthRejection AuthSession := do
  let session ← found (authException 401 .sessionNotFound) read
  require (session.revokedAt = none) (authException 401 .sessionRevoked)
  require (now < session.expiresAt) (authException 401 .sessionExpired)
  require (session.refreshTokenHash = service.hashToken data.refreshToken)
    (authException 401 .invalidOrExpiredRefreshToken)
  return session

/-- The tokens a refresh issues. -/
def RefreshClaims.issue (claims : RefreshClaims) (user : AuthUser) (drawn : DrawnIds)
    (issuedAt : Int) : TokenPair :=
  issueTokenPair service user.email (if user.roles = [] then claims.roles else user.roles) drawn
    issuedAt

/-- Commit a refresh: the session that was read is revoked, and a new one is added. -/
def commitRefresh (session : AuthSession) (userId : Int) (tokens : TokenPair) (sessionId : String)
    (now : Int) (t : AuthTables) : Except AuthRejection (AuthReply × AuthTables) := do
  let t' ← AuthTables.flush
    { t with sessions := updateFirst (·.id) session.id (·.revoke now) t.sessions ++
        [tokens.session service userId sessionId (some now)] }
  return (tokens.reply now, t')

/-- Refresh tokens. -/
def refreshTokens (t : AuthTables) (data : RefreshRequest) (drawn : DrawnIds)
    (decodedAt now issuedAt : Int) : Except AuthRejection (AuthReply × AuthTables) := do
  let claims ← data.decode service decodedAt
  let session ← data.checkSession service now (t.getSession claims.sessionId)
  let user ← found (authException 401 .userNotFound) (t.getUserByEmail claims.subject)
  commitRefresh service session user.id (claims.issue service user drawn issuedAt)
    drawn.sessionId now t

/-! ## Logging out -/

/-- Log out. -/
def logout (t : AuthTables) (data : LogoutRequest) (decodedAt now : Int) :
    Except AuthRejection (AuthReply × AuthTables) := do
  let claims ← found (authException 401 .invalidOrExpiredRefreshToken)
    (service.decodeToken decodedAt data.refreshToken)
  let sessionId ← found (authException 401 .malformedRefreshToken) (nonempty claims.sessionId)
  match t.getSession sessionId with
  | none => return (.ok none, t)
  | some session =>
    require (session.refreshTokenHash = service.hashToken data.refreshToken)
      (authException 401 .invalidOrExpiredRefreshToken)
    if session.revokedAt = none then
      let t' ← AuthTables.flush
        { t with sessions := updateFirst (·.id) session.id (·.revoke now) t.sessions }
      return (.ok none, t')
    else return (.ok none, t)

/-! ## Resetting a password -/

/-- Ask for a reset of the password, with the identifier and the token that are drawn for it.  When
the email cannot be sent, nothing is stored. -/
def forgotPassword (t : AuthTables) (data : ForgotPasswordRequest)
    (rowId token : String) (now : Int)
    (delivered : Bool) : Except AuthRejection (AuthReply × AuthTables) :=
  match t.getUserByEmail data.email with
  | none => return (.ok none, t)
  | some user => do
    require (delivered = true) (authException 503 .passwordResetEmailFailed)
    let t' ← AuthTables.flush
      { t with resetTokens := t.resetTokens ++
          [{ id := rowId
             userId := user.id
             tokenHash := service.hashToken token
             expiresAt := now + minutes service.passwordResetTokenTtlMin
             usedAt := none }] }
    return (.ok (if service.passwordResetIncludeDebugToken then some token else none), t')

/-- Check the row of a reset token. -/
def ResetPasswordRequest.checkRow (now : Int) (read : Option PasswordResetToken) :
    Except AuthRejection PasswordResetToken := do
  let row ← found (authException 401 .invalidOrExpiredResetToken) read
  require (row.usedAt = none ∧ now < row.expiresAt) (authException 401 .invalidOrExpiredResetToken)
  return row

/-- Commit a reset: the password is replaced, the token that was read is used, and the sessions that
were read are revoked. -/
def ResetPasswordRequest.commit (data : ResetPasswordRequest) (row : PasswordResetToken)
    (user : AuthUser) (active : List AuthSession) (salt : String) (now : Int) (t : AuthTables) :
    Except AuthRejection (AuthReply × AuthTables) := do
  let t' ← AuthTables.flush
    { users := updateFirst (·.id) user.id
        (fun user => { user with password := service.hashPassword data.newPassword salt }) t.users
      sessions := revokeSessions active now t.sessions
      resetTokens := updateFirst (·.id) row.id (fun row => { row with usedAt := some now })
        t.resetTokens }
  return (.ok none, t')

/-- Reset the password. -/
def resetPassword (t : AuthTables) (data : ResetPasswordRequest) (salt : String) (now : Int) :
    Except AuthRejection (AuthReply × AuthTables) := do
  let row ← ResetPasswordRequest.checkRow now (t.getResetToken service data.token)
  let user ← found (authException 404 .userNotFound) (t.getUser row.userId)
  data.commit service row user (t.activeSessions user.id) salt now t

/-! ## The machine -/

/-- The commands of the auth service, with what is drawn and the readings of the clock. -/
inductive AuthCommand
  /-- Register a user. -/
  | register (data : Register) (salt : String) (userId : Int)
  /-- Log in. -/
  | login (data : Login) (drawn : DrawnIds) (now issuedAt : Int)
  /-- Refresh tokens. -/
  | refreshTokens (data : RefreshRequest) (drawn : DrawnIds) (decodedAt now issuedAt : Int)
  /-- Log out. -/
  | logout (data : LogoutRequest) (decodedAt now : Int)
  /-- Ask for a reset of the password. -/
  | forgotPassword (data : ForgotPasswordRequest) (rowId token : String) (now : Int)
    (delivered : Bool)
  /-- Reset the password. -/
  | resetPassword (data : ResetPasswordRequest) (salt : String) (now : Int)

/-- Carry out a command. -/
def AuthTables.perform (t : AuthTables) :
    AuthCommand → Except AuthRejection (AuthReply × AuthTables)
  | .register data salt userId => register service t data salt userId
  | .login data drawn now issuedAt => login service t data drawn now issuedAt
  | .refreshTokens data drawn decodedAt now issuedAt =>
    refreshTokens service t data drawn decodedAt now issuedAt
  | .logout data decodedAt now => logout service t data decodedAt now
  | .forgotPassword data rowId token now delivered =>
    forgotPassword service t data rowId token now delivered
  | .resetPassword data salt now => resetPassword service t data salt now

/-- The commands of the auth service. -/
def authMachine : Machine AuthTables AuthCommand AuthRejection where
  step t c := (t.perform service c).map (·.2)

end PokerRoom
