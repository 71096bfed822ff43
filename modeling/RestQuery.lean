import RestQuery.Builder.CacheKey
import RestQuery.Builder.Script
import RestQuery.Main
import RestQuery.Proofs.Binding.Effect
import RestQuery.Proofs.Binding.ReceivedCalls
import RestQuery.Proofs.Binding.WellFormed
import RestQuery.Proofs.Cache.Collisions
import RestQuery.Proofs.CommandLine.PrintedAddresses
import RestQuery.Proofs.CommandLine.PrintedQueries
import RestQuery.Proofs.Filters.Negation
import RestQuery.Proofs.Filters.Spellings
import RestQuery.Proofs.Json.Configurations
import RestQuery.Proofs.Json.ReadBack
import RestQuery.Proofs.Orderings.SortExpression
import RestQuery.Proofs.Queries.Pages
import RestQuery.Proofs.Queries.StoredDirectives
import RestQuery.Proofs.Relay.Exact
import RestQuery.Proofs.Relay.Segments
import RestQuery.Proofs.Service.AggregateRuns
import RestQuery.Proofs.Service.BaseAddresses
import RestQuery.Proofs.Service.Exchanges
import RestQuery.Proofs.Service.FailureStatus
import RestQuery.Proofs.Wire.DecodedValues
import RestQuery.Proofs.Wire.Directives
import RestQuery.Proofs.Wire.EncodedScalars
import RestQuery.Proofs.Wire.Fragments
import RestQuery.Proofs.Wire.JoinedQueries
import RestQuery.Proofs.Wire.MarkedKeys
import RestQuery.Proofs.Wire.ParameterChanges
import RestQuery.Proofs.Wire.Parts
import RestQuery.Proofs.Wire.QualifiedColumns
import RestQuery.Proofs.Wire.RecordIds
import RestQuery.Service.Connection
