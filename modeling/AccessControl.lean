import AccessControl.Authorization
import AccessControl.ResourceType
import AccessControl.Privilege
import AccessControl.Event
import AccessControl.Lookup
import AccessControl.Decision
import AccessControl.Question
import AccessControl.LoginAlias
import AccessControl.Settings
import AccessControl.LogFilter
import AccessControl.Json.Records
import AccessControl.Store.Statement
import AccessControl.Store.Loading
import AccessControl.Store.Browsing
import AccessControl.Store.Sample
import AccessControl.Service.Http
import AccessControl.Command.Run
import AccessControl.Main
import AccessControl.Proofs.Decision.Inheritance
import AccessControl.Proofs.Decision.Distribution
import AccessControl.Proofs.Decision.Consultation
import AccessControl.Proofs.Store.Verdict
import AccessControl.Proofs.Store.Effect
import AccessControl.Proofs.Store.Growth
import AccessControl.Proofs.Store.Integrity
import AccessControl.Proofs.Store.Reading
import AccessControl.Proofs.Store.Registration
import AccessControl.Proofs.Store.Clearing
import AccessControl.Proofs.Store.Rollback
import AccessControl.Proofs.Text.LetterCase
import AccessControl.Proofs.Command.Arguments
import AccessControl.Proofs.Service.Agreement
import AccessControl.Proofs.Decision.Log
import AccessControl.Proofs.Store.RowByRow
import AccessControl.Proofs.Service.Answers
import AccessControl.Proofs.Store.Revocation
import AccessControl.Proofs.Decision.Scope
import AccessControl.Proofs.Catalog.TypeNames
import AccessControl.Proofs.Login.AliasEntries
import AccessControl.Proofs.Service.Silence
import AccessControl.Proofs.Login.Session
import AccessControl.Proofs.Decision.Phrasing
import AccessControl.Proofs.Store.Repetition
import AccessControl.Proofs.Service.Listing
import AccessControl.Proofs.Catalog.AuthorizationIds
import AccessControl.Proofs.Json.Survival
