/-
What the authentication services share: API errors, password verification and
opaque tokens.
-/
import Mathlib.Tactic.Common

namespace IdProvider

structure ApiError where
  status : Nat
  code : String
  message : String
  deriving DecidableEq

def startsWith (text start : String) : Bool :=
  start.toList.isPrefixOf text.toList

/-- The hash functions, and the settings of the token and account services. -/
structure AuthEnv where
  argon2Verify : String → String → Bool
  hashOpaqueToken : String → String
  accessTokenTtlSeconds : Nat
  refreshTokenTtlSeconds : Nat
  accountDeletionGraceDays : Nat

def argon2Prefix : String := "$argon2"

/-- Only Argon2 hashes are handed to `argon2.verify(storedHash, password)`. -/
def verifyPassword (argon2Verify : String → String → Bool)
    (password storedHash : String) : Bool :=
  startsWith storedHash argon2Prefix && argon2Verify storedHash password

end IdProvider
