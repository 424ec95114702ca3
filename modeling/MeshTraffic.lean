import MeshTraffic.Build.Amendment
import MeshTraffic.Build.Graph
import MeshTraffic.Document.Request
import MeshTraffic.Document.Telemetry
import MeshTraffic.Json.Writer
import MeshTraffic.Proofs.Accepted
import MeshTraffic.Proofs.Accumulation
import MeshTraffic.Proofs.ActiveSeries
import MeshTraffic.Proofs.Answered
import MeshTraffic.Proofs.Arrival
import MeshTraffic.Proofs.Ascending
import MeshTraffic.Proofs.AskedQueries
import MeshTraffic.Proofs.Balance
import MeshTraffic.Proofs.Consistency
import MeshTraffic.Proofs.Contributions
import MeshTraffic.Proofs.Counters
import MeshTraffic.Proofs.Depiction
import MeshTraffic.Proofs.Drawing
import MeshTraffic.Proofs.ExactMap
import MeshTraffic.Proofs.FocalTraffic
import MeshTraffic.Proofs.GraphBalance
import MeshTraffic.Proofs.GraphDocuments
import MeshTraffic.Proofs.IdReading
import MeshTraffic.Proofs.JoinedEdges
import MeshTraffic.Proofs.JsonTrees
import MeshTraffic.Proofs.KeptNodes
import MeshTraffic.Proofs.MarkedGraph
import MeshTraffic.Proofs.Marking
import MeshTraffic.Proofs.Means
import MeshTraffic.Proofs.MergeLaws
import MeshTraffic.Proofs.MergeOrder
import MeshTraffic.Proofs.Merging
import MeshTraffic.Proofs.Outcome
import MeshTraffic.Proofs.PathRates
import MeshTraffic.Proofs.QueryText
import MeshTraffic.Proofs.QuotedValues
import MeshTraffic.Proofs.Quotients
import MeshTraffic.Proofs.Readings
import MeshTraffic.Proofs.ReducedTwice
import MeshTraffic.Proofs.Reducible
import MeshTraffic.Proofs.Reduction
import MeshTraffic.Proofs.RequestMistakes
import MeshTraffic.Proofs.ResponseDocuments
import MeshTraffic.Proofs.Roots
import MeshTraffic.Proofs.SampleOrder
import MeshTraffic.Proofs.ScheduledGraphs
import MeshTraffic.Proofs.Schedules
import MeshTraffic.Proofs.SeriesSelection
import MeshTraffic.Proofs.ServiceEntries
import MeshTraffic.Proofs.ServiceFaults
import MeshTraffic.Proofs.ServiceHops
import MeshTraffic.Proofs.Sightings
import MeshTraffic.Proofs.StoredLabels
import MeshTraffic.Proofs.Survivor
import MeshTraffic.Proofs.Tally
import MeshTraffic.Proofs.TimedEdges
import MeshTraffic.Proofs.Versions
import MeshTraffic.Proofs.Visibility
import MeshTraffic.Proofs.WellFormed
import MeshTraffic.Proofs.WellFormedGraph
import MeshTraffic.Telemetry.Response
