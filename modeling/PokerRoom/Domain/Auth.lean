import PokerRoom.Foundation.Checks
import PokerRoom.Foundation.KeyedTable
import Mathlib.Logic.Function.Basic

/-!
# Users, sessions and tokens

The rows of the auth service's `domain/models.py`, the texts of its messages, the claims of its
tokens, and the requests as `shared/schemas/auth.py` admits them.  Tokens are signed, and passwords
and tokens are hashed, by libraries: an `AuthService` gathers what they compute and the settings of
`infrastructure/config.py`.

Times are in microseconds.  The columns `created_at`, `ip` and `user_agent` are left out: no command
reads or writes them.
-/

namespace PokerRoom

open Foundation

/-! ## Constants -/

/-- Texts of the messages of the auth service. -/
inductive AuthMessage
  | emailAlreadyExists | userRegistered | invalidCredentials | invalidOrExpiredRefreshToken
  | invalidTokenType | malformedRefreshToken | sessionNotFound | sessionRevoked | sessionExpired
  | userNotFound | invalidOrExpiredResetToken | passwordResetEmailFailed
deriving DecidableEq, Repr

/-- The text of a message. -/
def AuthMessage.value : AuthMessage → String
  | .emailAlreadyExists => "Email already exists"
  | .userRegistered => "User registered"
  | .invalidCredentials => "Invalid credentials"
  | .invalidOrExpiredRefreshToken => "Invalid or expired refresh token"
  | .invalidTokenType => "Invalid token type"
  | .malformedRefreshToken => "Malformed refresh token"
  | .sessionNotFound => "Session not found"
  | .sessionRevoked => "Session revoked"
  | .sessionExpired => "Session expired"
  | .userNotFound => "User not found"
  | .invalidOrExpiredResetToken => "Invalid or expired reset token"
  | .passwordResetEmailFailed => "Password reset email could not be sent"

/-- Why the auth service rejects a request: an HTTP exception or a violated database constraint. -/
inductive AuthRejection
  | http (statusCode : ℕ) (detail : String)
  | integrityError
deriving DecidableEq, Repr

/-- An HTTP exception with one of the fixed messages. -/
def authException (statusCode : ℕ) (m : AuthMessage) : AuthRejection := .http statusCode m.value

/-- The type claim of refresh tokens. -/
def refreshTokenType : String := "refresh"

/-- The roles a user may have. -/
def allowedRoles : List String := ["user", "admin"]

/-! ## Rows -/

/-- A stored user. -/
structure AuthUser where
  /-- Identifier of the user. -/
  id : Int
  /-- The email address. -/
  email : String
  /-- The hash of the password. -/
  password : String
  /-- The roles. -/
  roles : List String
  /-- When the user logged in last. -/
  lastLoginAt : Option Int
deriving DecidableEq, Repr

/-- A stored session. -/
structure AuthSession where
  /-- Identifier of the session. -/
  id : String
  /-- The user. -/
  userId : Int
  /-- The hash of the refresh token. -/
  refreshTokenHash : String
  /-- When the session expires. -/
  expiresAt : Int
  /-- When the session was revoked, if it was. -/
  revokedAt : Option Int
  /-- When it was seen last, if not when it was created. -/
  lastSeenAt : Option Int
deriving DecidableEq, Repr

/-- A stored token for the reset of a password. -/
structure PasswordResetToken where
  /-- Identifier of the row. -/
  id : String
  /-- The user. -/
  userId : Int
  /-- The hash of the token. -/
  tokenHash : String
  /-- When the token expires. -/
  expiresAt : Int
  /-- When the token was used, if it was. -/
  usedAt : Option Int
deriving DecidableEq, Repr

/-- Everything the auth service stores, in the order of insertion. -/
structure AuthTables where
  /-- The users. -/
  users : List AuthUser
  /-- The sessions. -/
  sessions : List AuthSession
  /-- The tokens for the reset of a password. -/
  resetTokens : List PasswordResetToken
deriving DecidableEq, Repr

/-- The uniqueness constraints and the foreign keys of the tables. -/
structure AuthTables.Constraints (t : AuthTables) : Prop where
  /-- Users are distinct. -/
  userIds : (t.users.map (·.id)).Nodup
  /-- Email addresses are unique. -/
  emails : (t.users.map (·.email)).Nodup
  /-- Sessions are distinct. -/
  sessionIds : (t.sessions.map (·.id)).Nodup
  /-- Sessions have a user. -/
  sessionUsers : ∀ session ∈ t.sessions, session.userId ∈ t.users.map (·.id)
  /-- The rows of reset tokens are distinct. -/
  resetTokenIds : (t.resetTokens.map (·.id)).Nodup
  /-- Reset tokens are distinct. -/
  tokenHashes : (t.resetTokens.map (·.tokenHash)).Nodup
  /-- Reset tokens have a user. -/
  resetTokenUsers : ∀ row ∈ t.resetTokens, row.userId ∈ t.users.map (·.id)

instance : DecidablePred AuthTables.Constraints := fun t =>
  decidable_of_iff
    ((t.users.map (·.id)).Nodup ∧ (t.users.map (·.email)).Nodup ∧ (t.sessions.map (·.id)).Nodup ∧
      (∀ session ∈ t.sessions, session.userId ∈ t.users.map (·.id)) ∧
      (t.resetTokens.map (·.id)).Nodup ∧ (t.resetTokens.map (·.tokenHash)).Nodup ∧
      ∀ row ∈ t.resetTokens, row.userId ∈ t.users.map (·.id))
    ⟨fun ⟨h₁, h₂, h₃, h₄, h₅, h₆, h₇⟩ => ⟨h₁, h₂, h₃, h₄, h₅, h₆, h₇⟩,
      fun ⟨h₁, h₂, h₃, h₄, h₅, h₆, h₇⟩ => ⟨h₁, h₂, h₃, h₄, h₅, h₆, h₇⟩⟩

/-- Write the rows; the transaction is rolled back when they violate a constraint. -/
def AuthTables.flush (t : AuthTables) : Except AuthRejection AuthTables :=
  if t.Constraints then .ok t else .error .integrityError

/-- A flush that succeeds writes the rows it was given, and they satisfy the constraints. -/
lemma AuthTables.flush_eq_ok_iff {t t' : AuthTables} :
    t.flush = .ok t' ↔ t.Constraints ∧ t' = t := by
  unfold AuthTables.flush
  split
  · next h => simp [h, eq_comm]
  · next h => simp [h]

/-- Nothing is stored yet. -/
def AuthTables.empty : AuthTables := ⟨[], [], []⟩

/-! ## Tokens -/

/-- The claims of a token; those that are missing from it are `none`. -/
structure TokenClaims where
  /-- `sub`: the email address of the user. -/
  subject : Option String
  /-- `roles`: the roles of the user. -/
  roles : Option (List String)
  /-- `iat`: when the token was issued, in seconds. -/
  issuedAt : Option Int
  /-- `exp`: when the token expires, in seconds. -/
  expiresAt : Option Int
  /-- `jti`: identifier of the token. -/
  jwtId : Option String
  /-- `sid`: identifier of the session. -/
  sessionId : Option String
  /-- `typ`: the type of the token. -/
  tokenType : Option String
deriving DecidableEq, Repr

/-- The libraries and the settings of the auth service. -/
structure AuthService where
  /-- Sign claims. -/
  encodeToken : TokenClaims → String
  /-- Decode a token at a time. -/
  decodeToken : Int → String → Option TokenClaims
  /-- Hash a token. -/
  hashToken : String → String
  /-- Hash a password with a salt. -/
  hashPassword : String → String → String
  /-- Compare a password with a hash. -/
  verifyPassword : String → String → Bool
  /-- How long an access token is valid. -/
  accessTokenTtlMin : Int
  /-- How long a refresh token is valid. -/
  refreshTokenTtlDays : Int
  /-- How long a reset token is valid. -/
  passwordResetTokenTtlMin : Int
  /-- Whether the answer to a request for a reset contains the token. -/
  passwordResetIncludeDebugToken : Bool

/-- What is assumed of the libraries: decoding a token that was signed by the service yields the
claims that were signed, if it yields any, and no two tokens have the same hash. -/
structure AuthService.Sound (service : AuthService) : Prop where
  /-- Decoding. -/
  decode_encode : ∀ now claims claims',
    service.decodeToken now (service.encodeToken claims) = some claims' → claims' = claims
  /-- Hashing. -/
  hashToken_injective : Function.Injective service.hashToken

/-- A time in whole seconds. -/
def seconds (time : Int) : Int := time.tdiv 1000000

/-- A number of minutes. -/
def minutes (n : Int) : Int := n * 60000000

/-- A number of days. -/
def days (n : Int) : Int := n * 86400000000

/-! ## Requests -/

/-- A request to register, with the roles as the schema leaves them. -/
structure Register where
  /-- The email address. -/
  email : String
  /-- The password. -/
  password : String
  /-- The roles. -/
  roles : List String := ["user"]
  /-- The password is long enough. -/
  password_length : 6 ≤ password.length
  /-- Only roles a user may have. -/
  roles_allowed : ∀ role ∈ roles, role ∈ allowedRoles
  /-- Roles are distinct. -/
  roles_nodup : roles.Nodup
  /-- There is at least one role. -/
  roles_ne : roles ≠ []
deriving DecidableEq, Repr

/-- A request to log in. -/
structure Login where
  /-- The email address. -/
  email : String
  /-- The password. -/
  password : String
deriving DecidableEq, Repr

/-- A request to refresh tokens. -/
structure RefreshRequest where
  /-- The refresh token. -/
  refreshToken : String
deriving DecidableEq, Repr

/-- A request to log out. -/
structure LogoutRequest where
  /-- The refresh token. -/
  refreshToken : String
deriving DecidableEq, Repr

/-- A request for a reset of the password. -/
structure ForgotPasswordRequest where
  /-- The email address. -/
  email : String
deriving DecidableEq, Repr

/-- A request to reset the password. -/
structure ResetPasswordRequest where
  /-- The reset token. -/
  token : String
  /-- The new password. -/
  newPassword : String
  /-- The new password is long enough. -/
  newPassword_length : 6 ≤ newPassword.length
deriving DecidableEq, Repr

/-- What the auth service answers. -/
inductive AuthReply
  /-- The user is registered with these roles. -/
  | registered (roles : List String)
  /-- A pair of tokens, and the seconds after which the access token expires. -/
  | tokens (accessToken refreshToken : String) (expiresIn : Int)
  /-- The request is carried out. -/
  | ok (debugToken : Option String)
deriving DecidableEq, Repr

end PokerRoom
