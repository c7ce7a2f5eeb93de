/-
Formal model of the identity provider and of its example backend.
-/
import IdProvider.KeyedTable
import IdProvider.TableMaps
import IdProvider.JsonText
import IdProvider.JsonRoundTrip
import IdProvider.JsDate
import IdProvider.JsDateText
import IdProvider.JsText
import IdProvider.Uuids
import IdProvider.RequestSchemas
import IdProvider.Utf8
import IdProvider.Base64
import IdProvider.ChunkDrain
import IdProvider.StepSystem
import IdProvider.AnsweringSystem
import IdProvider.Histories
import IdProvider.ServiceCall
import IdProvider.TextChunks
import IdProvider.StableSort
import IdProvider.RowOrder
import IdProvider.ScopedLookup
import IdProvider.KeysetPages
import IdProvider.LivePages
import IdProvider.HashChain
import IdProvider.JsValue
import IdProvider.Schema
import IdProvider.AuthCore
import IdProvider.Sessions
import IdProvider.TokenChecks
import IdProvider.TokenConfirmation
import IdProvider.PasswordReset
import IdProvider.Accounts
import IdProvider.SessionSystem
import IdProvider.SessionEffects
import IdProvider.RefreshSafety
import IdProvider.RefreshReuse
import IdProvider.CredentialChange
import IdProvider.DataRetention
import IdProvider.LookupCache
import IdProvider.JsonReading
import IdProvider.Rbac
import IdProvider.RbacTransparency
import IdProvider.RbacInvalidation
import IdProvider.RowGroups
import IdProvider.Governance
import IdProvider.AccessScopes
import IdProvider.Entitlements
import IdProvider.OAuthClients
import IdProvider.OidcSecrets
import IdProvider.OidcStates
import IdProvider.ServerSdk
import IdProvider.SdkLogout
import IdProvider.TokenVerification
import IdProvider.TokenVerdicts
import IdProvider.WebAuthn
import IdProvider.PasskeyChallenges
import IdProvider.BffSession
import IdProvider.BffApp
import IdProvider.Interleaving
import IdProvider.SigningProvider
import IdProvider.KeyTracking
import IdProvider.Transactions
import IdProvider.ClientAuth
import IdProvider.ClientRegistry
import IdProvider.RegistrySteps
import IdProvider.SecretRotation
import IdProvider.IssuedSecrets
import IdProvider.GraceBound
import IdProvider.ClientUpdate
import IdProvider.AuditChain
import IdProvider.AuditCompleteness
import IdProvider.AuditPages
import IdProvider.AuditExport
import IdProvider.LiveExport
import IdProvider.AuditCommitment
import IdProvider.KeyOrder
import IdProvider.CanonicalForms
import IdProvider.HashStability
import IdProvider.LoginParts
import IdProvider.LoginService
import IdProvider.RecoveryCodes
import IdProvider.RecoverySingleUse
import IdProvider.RecoveryBatches
import IdProvider.CredentialFormats
import IdProvider.LoginSoundness
import IdProvider.LoginWrites
import IdProvider.MfaEnrolment
import IdProvider.AccountDeletion
import IdProvider.DeletionJob
import IdProvider.AccountService
import IdProvider.GoogleLinking
import IdProvider.AccountCreation
import IdProvider.AccountRaces
import IdProvider.OneTimeTokens
import IdProvider.TokenRaces
import IdProvider.PasswordChange
import IdProvider.BotRisk
import IdProvider.LoginLimits
import IdProvider.RateLimitKeys
import IdProvider.SteadyLogin
import IdProvider.LoginDoors
import IdProvider.DataRetentionCounts
import IdProvider.AuthCoreRbac
import IdProvider.RateWindows
import IdProvider.EndpointCookies
import IdProvider.BffCookies
import IdProvider.Placeholders
import IdProvider.TemplateText
import IdProvider.IdTokenChecks
import IdProvider.CallbackIdentity
import IdProvider.AuditRanges
import IdProvider.AuditTransactions
import IdProvider.CoreRefresh
import IdProvider.ProfileUpdates
import IdProvider.LegalHolds
import IdProvider.DeletionRequests
import IdProvider.AdvisoryLock
import IdProvider.ScheduledJob
import IdProvider.DeletionProcesses
import IdProvider.DeletionAtomicity
import IdProvider.FormUrlencoded
import IdProvider.HtmlTokens
import IdProvider.HtmlForms
import IdProvider.LoginPage
import IdProvider.LoginForm
import IdProvider.SearchParams
import IdProvider.AuthorizationUrl
import IdProvider.SignInProtocol
import IdProvider.SignInSafety
import IdProvider.SignInCompletion
import IdProvider.PairedCalls
import IdProvider.AccountPrivacy
