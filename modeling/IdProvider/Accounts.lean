/-
The account tables and the statements of the user, identity, verification and
MFA repositories, as functions of the tables.
-/
import IdProvider.Sessions
import IdProvider.RowOrder
import IdProvider.Uuids
import Mathlib.Data.Prod.Lex

namespace IdProvider

open KeyedTable

/-- The value under `social_login.google` in `system_configs`. -/
structure SocialLoginConfig where
  providerEnabled : Bool
  clientId : String
  clientSecret : String
  deriving DecidableEq

structure AccountDb extends SessionDb where
  userEmails : Table UserEmail
  emailVerificationTokens : Table EmailVerificationToken
  externalIdentities : Table ExternalIdentity
  mfaFactors : Table MfaFactor
  mfaRecoveryCodes : Table MfaRecoveryCode
  socialLoginConfig : Option SocialLoginConfig

def defaultSocialLoginConfig : SocialLoginConfig where
  providerEnabled := true
  clientId := ""
  clientSecret := ""

def getSocialLoginConfig (db : AccountDb) : SocialLoginConfig :=
  db.socialLoginConfig.getD defaultSocialLoginConfig

/-! ## Users -/

def findById (db : AccountDb) (id : String) :
    Option (User × Option UserEmail) :=
  (leftJoin db.users.rows db.userEmails.rows fun user email =>
    user.id == email.userId).find? fun joined => joined.1.id == id

def findByEmail (db : AccountDb) (email : String) : Option (UserEmail × User) :=
  (innerJoin db.userEmails.rows db.users.rows fun email user =>
    email.userId == user.id).find? fun joined => joined.1.email == email

theorem findByEmail_eq_some {db : AccountDb} {email : String}
    {userEmail : UserEmail} {user : User}
    (hfind : findByEmail db email = some (userEmail, user)) :
    userEmail ∈ db.userEmails ∧ user ∈ db.users ∧
      userEmail.userId = user.id ∧ userEmail.email = email := by
  have hmem := List.mem_of_find?_eq_some hfind
  rw [mem_innerJoin] at hmem
  refine ⟨hmem.1, hmem.2.1, by simpa using hmem.2.2, ?_⟩
  simpa using List.find?_some hfind

/-- What `findWithPasswordByEmail` joins. -/
structure UserWithPassword where
  userEmail : UserEmail
  user : User
  password : UserPassword

def findWithPasswordByEmail (db : AccountDb) (email : String) :
    Option UserWithPassword :=
  ((innerJoin
    (innerJoin db.userEmails.rows db.users.rows fun email user =>
      email.userId == user.id)
    db.userPasswords.rows fun joined password =>
      joined.2.id == password.userId).find? fun joined =>
        joined.1.1.email == email).map fun joined =>
          ⟨joined.1.1, joined.1.2, joined.2⟩

/-- The rows that `findWithPasswordByEmail` may return. -/
structure UserWithPassword.Stored (found : UserWithPassword) (db : AccountDb)
    (email : String) : Prop where
  userEmail : found.userEmail ∈ db.userEmails
  user : found.user ∈ db.users
  password : found.password ∈ db.userPasswords
  emailOwner : found.userEmail.userId = found.user.id
  passwordOwner : found.password.userId = found.user.id
  email_eq : found.userEmail.email = email

theorem stored_of_findWithPasswordByEmail {db : AccountDb} {email : String}
    {found : UserWithPassword}
    (hfind : findWithPasswordByEmail db email = some found) :
    found.Stored db email := by
  rw [findWithPasswordByEmail, Option.map_eq_some_iff] at hfind
  obtain ⟨joined, hjoined, rfl⟩ := hfind
  have hmem := List.mem_of_find?_eq_some hjoined
  rw [mem_innerJoin, mem_innerJoin] at hmem
  obtain ⟨⟨hemail, huser, howner⟩, hpassword, hsame⟩ := hmem
  refine ⟨hemail, huser, hpassword, by simpa using howner, ?_, ?_⟩
  · exact (beq_iff_eq.mp hsame).symm
  · simpa using List.find?_some hjoined

/-! ## Sessions -/

/-- `ORDER BY last_seen_at DESC, created_at DESC LIMIT 1`. -/
def findLatestByUserId (db : AccountDb) (userId : String) :
    Option UserSession :=
  (RowOrder.descending
    (fun session : UserSession => toLex (session.lastSeenAt, session.createdAt))
    (db.userSessions.select fun session => session.userId == userId)).head?

def hasSeenUserAgent (db : AccountDb) (userId userAgent : String) : Bool :=
  db.userSessions.rows.any fun session =>
    session.userId == userId && session.userAgent == some userAgent

/-! ## External identities -/

def findByProvider (db : AccountDb) (provider providerSubject : String) :
    Option ExternalIdentity :=
  db.externalIdentities.first? fun identity =>
    identity.provider == provider &&
      identity.providerSubject == providerSubject

/-! ## Second factors -/

/-- `LIMIT 20`. -/
def findActiveFactorsByUserId (db : AccountDb) (userId : String) :
    List MfaFactor :=
  (db.mfaFactors.select fun factor =>
    factor.userId == userId && factor.enabled).take 20

/-- The user has an enabled factor. -/
def HasEnabledFactor (db : AccountDb) (userId : String) : Prop :=
  ∃ factor ∈ db.mfaFactors, factor.userId = userId ∧ factor.enabled = true

theorem findActiveFactorsByUserId_eq_nil {db : AccountDb} {userId : String} :
    findActiveFactorsByUserId db userId = [] ↔
      ¬ HasEnabledFactor db userId := by
  rw [findActiveFactorsByUserId, List.take_eq_nil_iff, HasEnabledFactor]
  constructor
  · rintro (hzero | hnone)
    · cases hzero
    · rintro ⟨factor, hfactor, howner, henabled⟩
      have hselected : factor ∈ db.mfaFactors.select fun factor =>
          factor.userId == userId && factor.enabled := by
        rw [Table.mem_select]
        exact ⟨hfactor, by simp [howner, henabled]⟩
      rw [hnone] at hselected
      cases hselected
  · intro hnone
    right
    rw [List.eq_nil_iff_forall_not_mem]
    intro factor hselected
    rw [Table.mem_select, Bool.and_eq_true, beq_iff_eq] at hselected
    exact hnone ⟨factor, hselected.1, hselected.2.1, hselected.2.2⟩

/-- The letter case of a text does not matter for the column, which holds a
`uuid`.  The schemas of the routes let no other text through. -/
def isFactorId (factorId : String) (factor : MfaFactor) : Bool :=
  parseUuid factorId == some factor.id

theorem isFactorId_iff {factorId : String} {factor : MfaFactor} :
    isFactorId factorId factor = true ↔
      parseUuid factorId = some factor.id :=
  beq_iff_eq

def findByFactorId (db : AccountDb) (factorId : String) : Option MfaFactor :=
  db.mfaFactors.first? (isFactorId factorId)

def isUnused (code : MfaRecoveryCode) : Bool :=
  code.usedAt.isNone && code.revokedAt.isNone

def findActiveByLookupHash (db : AccountDb) (lookupHash : String) :
    Option MfaRecoveryCode :=
  db.mfaRecoveryCodes.first? fun code =>
    code.lookupHash == lookupHash && isUnused code

def MfaRecoveryCode.withUsedAt (code : MfaRecoveryCode) (now : Instant) :
    MfaRecoveryCode :=
  { code with usedAt := some now }

theorem MfaRecoveryCode.key_withUsedAt (now : Instant)
    (code : MfaRecoveryCode) : key (code.withUsedAt now) = key code := rfl

/-- The update, and whether it returned a row. -/
def markUsed (db : AccountDb) (now : Instant) (codeId : String) :
    AccountDb × Bool :=
  let where_ := fun code : MfaRecoveryCode => code.id == codeId && isUnused code
  ({ db with
      mfaRecoveryCodes := db.mfaRecoveryCodes.update where_
        (fun code => code.withUsedAt now) (MfaRecoveryCode.key_withUsedAt now) },
    db.mfaRecoveryCodes.rows.any where_)

def countActiveByUserId (db : AccountDb) (userId : String) : Nat :=
  (db.mfaRecoveryCodes.select fun code =>
    code.userId == userId && isUnused code).length

end IdProvider
