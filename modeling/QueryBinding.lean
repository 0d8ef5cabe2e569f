import QueryBinding.Catalog.HistoricIncident
import QueryBinding.Catalog.ProcessInstance
import QueryBinding.Catalog.Task
import QueryBinding.Converter.Registry
import QueryBinding.Correlation.Program
import QueryBinding.Scenario
import QueryBinding.Service
import QueryBinding.Service.Middleware
import QueryBinding.Engine.Part
import QueryBinding.Proofs.Catalog.Decoding
import QueryBinding.Proofs.Query.Sorting
import QueryBinding.Proofs.Service.Activity
import QueryBinding.Proofs.Duplicates
import QueryBinding.Proofs.Query.Binding
import QueryBinding.Proofs.Catalog.RoundTrip
import QueryBinding.Proofs.Catalog.Rejection
import QueryBinding.Proofs.Service.Reporting
import QueryBinding.Proofs.Engine.Succession
import QueryBinding.Proofs.Service.Limit
import QueryBinding.Proofs.Service.Logging
import QueryBinding.Proofs.Service.Listing
import QueryBinding.Proofs.Converter.Lists
import QueryBinding.Proofs.Converter.Refusal
import QueryBinding.Proofs.Converter.Dates
import QueryBinding.Proofs.Catalog.Repetition
import QueryBinding.Proofs.Query.Extension
import QueryBinding.Proofs.Query.Pairing
import QueryBinding.Proofs.Parameter.Outcome
import QueryBinding.Proofs.Body.Agreement
import QueryBinding.Proofs.Body.Cuts
import QueryBinding.Proofs.Body.Faults
import QueryBinding.Proofs.Parameter.Table
import QueryBinding.Proofs.Query.Presence
import QueryBinding.Proofs.Service.Gates
import QueryBinding.Proofs.Correlation.Identified
import QueryBinding.Proofs.Scenario.Verdict
import QueryBinding.Proofs.Page
