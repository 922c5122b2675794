import Mathlib.Data.List.Dedup
import Operly.Python.Exceptions
import Operly.Python.Text

/-! Passwords, tokens and email addresses. -/

namespace Operly.Auth
open Python

structure Primitives where
  /-- HMAC-SHA256 of a purpose and a secret, in hexadecimal -/
  hashToken : (purpose secret : String) → String
  /-- `_argon2(salt).derive_phc_encoded(password)` -/
  derivePhcEncoded : (salt password : String) → String
  /-- whether `Argon2id.verify_phc_encoded` returns -/
  verifyPhcEncoded : (password stored : String) → Bool
  pbkdf2Hmac : (password : String) → (salt : List UInt8) → (iterations : Int) → Option (List UInt8)
  urlsafeB64decode : String → Option (List UInt8)
  casefold : String → String
  /-- `domain.encode("idna").decode("ascii")` -/
  idna : String → Option String
  commonPasswords : List String

def passwordMinBytes : Nat := 12
def passwordMaxBytes : Nat := 1024

structure PasswordVerification where
  valid : Bool
  upgradedHash : Option String := none

section Primitives
variable (primitives : Primitives)

def hashPassword (salt password : String) : String := primitives.derivePhcEncoded salt password

def splitAtMost (c : Char) : Nat → List Char → List (List Char)
  | 0, text => [text]
  | count + 1, text =>
      match text.dropWhile (· ≠ c) with
      | [] => [text]
      | _ :: rest => text.takeWhile (· ≠ c) :: splitAtMost c count rest

def verifyPbkdf2 (password stored : String) : Bool :=
  match (splitAtMost '$' 3 stored.toList).map String.ofList with
  | [algorithm, iterations, salt, hash] =>
      algorithm = "pbkdf2_sha256" && (do
        let salt ← primitives.urlsafeB64decode salt
        let expected ← primitives.urlsafeB64decode hash
        let iterations ← parseInt iterations
        return (← primitives.pbkdf2Hmac password salt iterations) == expected).getD false
  | _ => false

def verifyAndUpdatePassword (salt password : String) (stored : Option String) : PasswordVerification :=
  match stored.filter (· ≠ "") with
  | none => ⟨false, none⟩
  | some stored =>
      if passwordMaxBytes < password.utf8ByteSize then ⟨false, none⟩
      else if startsWith stored "$argon2id$" then ⟨primitives.verifyPhcEncoded password stored, none⟩
      else if verifyPbkdf2 primitives password stored then ⟨true, some (hashPassword primitives salt password)⟩
      else ⟨false, none⟩

/-- `validate_password`; the error is the text of its `PasswordPolicyError`. -/
def validatePassword (password email : String) : Except String Unit :=
  let folded := primitives.casefold password
  let compact := String.ofList (folded.toList.filter fun c => ('a' ≤ c ∧ c ≤ 'z') ∨ ('0' ≤ c ∧ c ≤ '9'))
  let start := primitives.casefold (String.ofList (email.toList.takeWhile (· ≠ '@')))
  if password.toList.contains (Char.ofNat 0) then .error "Choose a valid password"
  else if password.utf8ByteSize < passwordMinBytes then .error "Use at least 12 characters"
  else if passwordMaxBytes < password.utf8ByteSize then .error "Password is too long"
  else if folded ∈ primitives.commonPasswords ∨ compact ∈ primitives.commonPasswords then
    .error "Choose a less common password"
  else if password.toList.dedup.length < 4 then .error "Choose a less predictable password"
  else if email ≠ "" ∧ 4 ≤ start.length ∧ contains folded start then
    .error "Password should not contain your email name"
  else .ok ()

/-- The characters of the part of an address before the `@` -/
def isLocalChar (c : Char) : Bool :=
  ('A' ≤ c ∧ c ≤ 'Z') ∨ ('a' ≤ c ∧ c ≤ 'z') ∨ ('0' ≤ c ∧ c ≤ '9') ∨
    (".!#$%&'*+/=?^_`\x7b|\x7d~-".toList.contains c)

def isLabel (label : List Char) : Bool :=
  label ≠ [] && label.length ≤ 63 && label.head? ≠ some '-' && label.getLast? ≠ some '-' &&
    label.all fun c => ('a' ≤ c ∧ c ≤ 'z') ∨ ('0' ≤ c ∧ c ≤ '9') ∨ c = '-'

/-- `normalize_email`; `none` is its `EmailAddressError`. -/
def normalizeEmail (value : String) : Option String :=
  let email := (strip value).toList
  let start := email.takeWhile (· ≠ '@')
  let domain := (email.dropWhile (· ≠ '@')).drop 1
  if email = [] ∨ 320 < email.length ∨ email.contains (Char.ofNat 0) ∨ email.count '@' ≠ 1 then none
  else if start = [] ∨ 64 < start.length ∨ start.head? = some '.' ∨ start.getLast? = some '.' ∨
      contains (String.ofList start) ".." then none
  else if ¬ start.all isLocalChar then none
  else do
    let ascii := lower (← primitives.idna (String.ofList (domain.reverse.dropWhile (· = '.')).reverse))
    let labels := ascii.toList.splitOn '.'
    if ascii = "" ∨ 253 < ascii.length ∨ '.' ∉ ascii.toList ∨ ¬ labels.all isLabel then none
    else return s!"{lower (String.ofList start)}@{ascii}"

end Primitives

end Operly.Auth
