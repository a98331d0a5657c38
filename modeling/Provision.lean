import Provision.Attempt
import Provision.ComputePool
import Provision.Decimal
import Provision.Identifier
import Provision.ImageRepository
import Provision.Instant
import Provision.Json.Basic
import Provision.Json.Reading
import Provision.Platform.Scripted
import Provision.Proofs.Acceptance
import Provision.Proofs.AcceptedRequests
import Provision.Proofs.Addressing
import Provision.Proofs.Atomicity
import Provision.Proofs.Backwards
import Provision.Proofs.Calendar
import Provision.Proofs.Clauses
import Provision.Proofs.Columns
import Provision.Proofs.Convergence
import Provision.Proofs.Conversation
import Provision.Proofs.Course
import Provision.Proofs.CreatedState
import Provision.Proofs.Creation
import Provision.Proofs.Defaults
import Provision.Proofs.Diagnosis
import Provision.Proofs.Documents
import Provision.Proofs.Following
import Provision.Proofs.FreeText
import Provision.Proofs.Grammar
import Provision.Proofs.IntegerColumns
import Provision.Proofs.Legibility
import Provision.Proofs.Listing
import Provision.Proofs.Lookup
import Provision.Proofs.Membership
import Provision.Proofs.Numerals
import Provision.Proofs.ObjectKinds
import Provision.Proofs.Offences
import Provision.Proofs.Overwriting
import Provision.Proofs.PoolChanges
import Provision.Proofs.PoolCreation
import Provision.Proofs.PoolPlatform
import Provision.Proofs.Qualification
import Provision.Proofs.Quotation
import Provision.Proofs.ReadSoundness
import Provision.Proofs.Reconciliation
import Provision.Proofs.RowBuilding
import Provision.Proofs.SameObject
import Provision.Proofs.SchemaValidity
import Provision.Proofs.Sentences
import Provision.Proofs.Sequences
import Provision.Proofs.Settings
import Provision.Proofs.SettledPool
import Provision.Proofs.Settling
import Provision.Proofs.StoredForm
import Provision.Proofs.StoredIdentity
import Provision.Proofs.StoredInstants
import Provision.Proofs.Tokens
import Provision.Proofs.TruthfulPlatform
import Provision.Proofs.UniqueReading
import Provision.Proofs.WantedResources
import Provision.Proofs.WrittenDocuments
import Provision.Proofs.WrittenNames
import Provision.Provider
import Provision.Provider.Catalog
import Provision.Provider.Config
import Provision.Provider.Fault
import Provision.Provider.Resources
import Provision.Resource
import Provision.Row
import Provision.Schema
import Provision.Statement
import Provision.Statement.Form
import Provision.Statement.Shown
import Provision.Table
import Provision.Text
