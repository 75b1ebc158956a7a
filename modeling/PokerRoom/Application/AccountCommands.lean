import PokerRoom.Application.AuthCommands
import Mathlib.Data.List.DropRight

/-!
# Accounts

`application/commands/auth_user_command_service.py`: the password and the roles of a user are
changed, and a user is deleted.  The tables of sessions and reset tokens refer to the users with
`ondelete="CASCADE"`, so that the database deletes with a user what belongs to him.
`normalizeRoles` is `normalize_roles` of `shared/core/auth/roles.py`, by which the schemas pass the
roles of a request.
-/

namespace PokerRoom

open Foundation

/-! ## Roles -/

/-- The characters that are stripped from both ends of a text. -/
def isWhitespace (c : Char) : Bool :=
  c.toNat ∈ [9, 10, 11, 12, 13, 28, 29, 30, 31, 32, 133, 160, 5760, 8232, 8233, 8239, 8287, 12288] ∨
    (8192 ≤ c.toNat ∧ c.toNat ≤ 8202)

/-- A text without whitespace at both ends. -/
def strip (s : String) : String :=
  String.ofList ((s.toList.dropWhile isWhitespace).rdropWhile isWhitespace)

/-- A text in small letters.  No other characters than capital letters have the letters of a role as
their small ones. -/
def lower (s : String) : String := String.ofList (s.toList.map Char.toLower)

/-- Why a list of roles is not accepted. -/
inductive RolesError
  | invalidRole (role : String)
  | empty
deriving DecidableEq, Repr

/-- Add the roles to those that were taken already, in small letters, each of them once. -/
def addRoles (normalized : List String) : List String → Except RolesError (List String)
  | [] => .ok normalized
  | role :: roles =>
    let rr := lower (strip role)
    if rr ∈ allowedRoles then
      addRoles (if rr ∈ normalized then normalized else normalized ++ [rr]) roles
    else .error (.invalidRole role)

/-- The roles of a request, as they are stored. -/
def normalizeRoles (roles : List String) (default : Option (List String)) :
    Except RolesError (List String) := do
  let normalized ← addRoles [] roles
  if normalized = [] then found .empty default else return normalized

/-- Roles as they are stored: there are some, they are allowed and distinct. -/
structure RolesStored (roles : List String) : Prop where
  /-- Only roles a user may have. -/
  allowed : ∀ role ∈ roles, role ∈ allowedRoles
  /-- Roles are distinct. -/
  nodup : roles.Nodup
  /-- There is at least one role. -/
  ne : roles ≠ []

/-- Roles that are added are allowed and distinct. -/
lemma addRoles_spec {normalized roles result : List String}
    (h : addRoles normalized roles = .ok result)
    (hallowed : ∀ role ∈ normalized, role ∈ allowedRoles) (hnd : normalized.Nodup) :
    (∀ role ∈ result, role ∈ allowedRoles) ∧ result.Nodup := by
  induction roles generalizing normalized with
  | nil =>
    obtain rfl := Except.ok.inj h
    exact ⟨hallowed, hnd⟩
  | cons role roles ih =>
    rw [addRoles] at h
    split at h
    · next hrole =>
      refine ih h ?_ ?_
      · split
        · exact hallowed
        · exact List.forall_mem_append.mpr ⟨hallowed, List.forall_mem_singleton.mpr hrole⟩
      · split
        · exact hnd
        · next hnew => exact List.concat_eq_append ▸ hnd.concat hnew
    · cases h

/-- The roles that a schema passes on can be stored, also where it falls back to others. -/
theorem rolesStored_of_normalizeRoles {roles result : List String} {default : Option (List String)}
    (h : normalizeRoles roles default = .ok result) (hdefault : ∀ d ∈ default, RolesStored d) :
    RolesStored result := by
  obtain ⟨normalized, hadd, h⟩ := bind_eq_ok_iff.mp h
  obtain ⟨hallowed, hnd⟩ := addRoles_spec hadd (by simp) List.nodup_nil
  split at h
  · exact hdefault result (found_eq_ok_iff.mp h)
  · next hne =>
    obtain rfl := Except.ok.inj h
    exact ⟨hallowed, hnd, hne⟩

/-! ## Requests -/

/-- A request to change a user, with the roles as the schema leaves them. -/
structure UpdateAuthUser where
  /-- The new password, if there is one. -/
  password : Option String := none
  /-- The new roles, if there are some. -/
  roles : Option (List String) := none
  /-- A new password is long enough. -/
  password_length : ∀ p ∈ password, 6 ≤ p.length
  /-- New roles can be stored. -/
  roles_stored : ∀ r ∈ roles, RolesStored r

/-! ## Commands -/

variable (service : AuthService)

/-- The exception of a user who is not found. -/
def authUserNotFound : AuthRejection := .http 404 "Auth user not found"

/-- Change the password and the roles of a user, if there are new ones. -/
def UpdateAuthUser.write (data : UpdateAuthUser) (salt : String) (user : AuthUser) : AuthUser :=
  { user with
    password := (data.password.map fun p => service.hashPassword p salt).getD user.password
    roles := data.roles.getD user.roles }

/-- Change a user. -/
def updateAuthUser (t : AuthTables) (userId : Int) (data : UpdateAuthUser) (salt : String) :
    Except AuthRejection AuthTables := do
  let user ← found authUserNotFound (t.getUser userId)
  AuthTables.flush { t with users := updateFirst (·.id) user.id (data.write service salt) t.users }

/-- Delete a user; the database deletes his sessions and reset tokens. -/
def deleteAuthUser (t : AuthTables) (userId : Int) : Except AuthRejection AuthTables := do
  let user ← found authUserNotFound (t.getUser userId)
  AuthTables.flush
    { users := t.users.filter fun u => u.id ≠ user.id
      sessions := t.sessions.filter fun session => session.userId ≠ user.id
      resetTokens := t.resetTokens.filter fun row => row.userId ≠ user.id }

/-! ## The machine -/

/-- The commands of the auth service together with those on accounts. -/
inductive AccountCommand
  /-- A command of a user. -/
  | auth (c : AuthCommand)
  /-- Change a user. -/
  | updateAuthUser (userId : Int) (data : UpdateAuthUser) (salt : String)
  /-- Delete a user. -/
  | deleteAuthUser (userId : Int)

/-- The auth service with all its commands. -/
def accountMachine : Machine AuthTables AccountCommand AuthRejection where
  step t
    | .auth c => (authMachine service).step t c
    | .updateAuthUser userId data salt => updateAuthUser service t userId data salt
    | .deleteAuthUser userId => deleteAuthUser t userId

end PokerRoom
