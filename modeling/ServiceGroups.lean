import ServiceGroups.Hcl.Reader
import ServiceGroups.Http.Service
import ServiceGroups.Main
import ServiceGroups.Proofs.Http.Agreement
import ServiceGroups.Proofs.Http.CleanErrors
import ServiceGroups.Proofs.Http.Confidentiality
import ServiceGroups.Proofs.Http.Isolation
import ServiceGroups.Proofs.Job.Faithful
import ServiceGroups.Database.Engine
import ServiceGroups.Proofs.Database.Rows
import ServiceGroups.Proofs.Database.Tables
import ServiceGroups.Proofs.Database.Reads
import ServiceGroups.Proofs.Database.Writes
import ServiceGroups.Proofs.Database.Agreement
import ServiceGroups.Proofs.Concurrency.Interleaving
import ServiceGroups.Proofs.Concurrency.Walk
import ServiceGroups.Proofs.Concurrency.Tolerance
import ServiceGroups.Proofs.Concurrency.Course
import ServiceGroups.Proofs.Concurrency.Contention
import ServiceGroups.Proofs.Concurrency.Resemblance
import ServiceGroups.Proofs.Concurrency.Errand
import ServiceGroups.Proofs.Concurrency.Serializability
import ServiceGroups.Proofs.Concurrency.Staleness
import ServiceGroups.Proofs.Concurrency.Crowd
import ServiceGroups.Proofs.Concurrency.Sections
import ServiceGroups.Proofs.Concurrency.Traffic
import ServiceGroups.Proofs.Concurrency.Creation
import ServiceGroups.Proofs.Http.WellFormed
import ServiceGroups.Proofs.Http.Secrecy
import ServiceGroups.Proofs.Json.Canonical
import ServiceGroups.Proofs.Nomad.Performed
import ServiceGroups.Proofs.Http.Guard
import ServiceGroups.Proofs.Http.ReadYourWrites
import ServiceGroups.Proofs.Job.Separation
import ServiceGroups.Proofs.Http.Paging
import ServiceGroups.Proofs.Nomad.Address
import ServiceGroups.Proofs.Nomad.Token
import ServiceGroups.Proofs.Nomad.Contacted
import ServiceGroups.Proofs.Database.RoundTrip
import ServiceGroups.Proofs.Agent.Order
import ServiceGroups.Proofs.Settings.Override
import ServiceGroups.Proofs.Settings.Redaction
import ServiceGroups.Proofs.Failure
import ServiceGroups.Proofs.Hcl.Quoting
import ServiceGroups.Proofs.Job.Metadata
