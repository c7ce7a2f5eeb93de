/-
Row types of the PostgreSQL schema, one structure per table, with the columns
the modelled statements read or write.
-/
import IdProvider.KeyedTable
import IdProvider.JsonText
import IdProvider.JsDate

namespace IdProvider

open JsonText KeyedTable

/-- The `status` column of `users`. -/
inductive UserStatus where
  | active
  | suspended
  | deleted
  deriving DecidableEq

structure User where
  id : String
  status : UserStatus
  deletedAt : Option Instant
  deletionRequestedAt : Option Instant
  deletionDueAt : Option Instant
  createdAt : Instant
  deriving DecidableEq

instance : Keyed User String := ⟨User.id⟩

structure UserEmail where
  id : String
  userId : String
  email : String
  isPrimary : Bool
  isVerified : Bool
  createdAt : Instant
  deriving DecidableEq

instance : Keyed UserEmail String := ⟨UserEmail.id⟩

structure UserPassword where
  userId : String
  passwordHash : String
  updatedAt : Instant
  deriving DecidableEq

instance : Keyed UserPassword String := ⟨UserPassword.userId⟩

structure PasswordResetToken where
  id : String
  userId : String
  tokenHash : String
  expiresAt : Instant
  consumedAt : Option Instant
  createdAt : Instant
  deriving DecidableEq

instance : Keyed PasswordResetToken String := ⟨PasswordResetToken.id⟩

structure EmailVerificationToken where
  id : String
  userId : String
  tokenHash : String
  expiresAt : Instant
  consumedAt : Option Instant
  createdAt : Instant
  deriving DecidableEq

instance : Keyed EmailVerificationToken String := ⟨EmailVerificationToken.id⟩

structure ExternalIdentity where
  id : String
  userId : String
  provider : String
  providerSubject : String
  email : Option String
  isEmailVerified : Bool
  createdAt : Instant
  deriving DecidableEq

instance : Keyed ExternalIdentity String := ⟨ExternalIdentity.id⟩

structure MfaFactor where
  id : String
  userId : String
  type : String
  secret : Option String
  enabled : Bool
  deriving DecidableEq

instance : Keyed MfaFactor String := ⟨MfaFactor.id⟩

structure MfaRecoveryCode where
  id : String
  userId : String
  lookupHash : String
  codeHash : String
  usedAt : Option Instant
  revokedAt : Option Instant
  deriving DecidableEq

instance : Keyed MfaRecoveryCode String := ⟨MfaRecoveryCode.id⟩

structure LoginAttempt where
  email : String
  success : Bool
  reason : String
  ipAddress : Option String
  createdAt : Instant
  deriving DecidableEq

structure UserSession where
  id : String
  userId : String
  accessTokenHash : String
  refreshTokenHash : String
  ipAddress : Option String
  userAgent : Option String
  expiresAt : Timestamp
  refreshExpiresAt : Timestamp
  revokedAt : Option Instant
  lastSeenAt : Instant
  createdAt : Instant
  deriving DecidableEq

instance : Keyed UserSession String := ⟨UserSession.id⟩

structure SecurityEvent where
  id : String
  userId : Option String
  eventType : String
  payload : Json
  createdAt : Timestamp
  deriving DecidableEq

instance : Keyed SecurityEvent String := ⟨SecurityEvent.id⟩

structure SecurityEventInput where
  eventType : String
  userId : Option String
  payload : Json
  deriving DecidableEq

structure AuditLog where
  id : String
  actorUserId : Option String
  action : String
  resourceType : String
  resourceId : Option String
  payload : Json
  prevHash : Option String
  entryHash : Option String
  integrityVersion : Nat
  createdAt : Timestamp
  deriving DecidableEq

instance : Keyed AuditLog String := ⟨AuditLog.id⟩

structure LegalHold where
  id : String
  userId : String
  reason : String
  expiresAt : Option Instant
  createdAt : Instant
  deriving DecidableEq

instance : Keyed LegalHold String := ⟨LegalHold.id⟩

end IdProvider
