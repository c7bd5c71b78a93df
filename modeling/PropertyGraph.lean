import PropertyGraph.Value.Array
import PropertyGraph.Reader
import PropertyGraph.Source
import PropertyGraph.Network.Change
import PropertyGraph.Table.Snapshot
import PropertyGraph.Settings.Reading
import PropertyGraph.Proofs.Number.Denotation
import PropertyGraph.Proofs.Value.Key
import PropertyGraph.Proofs.Value.Contents
import PropertyGraph.Proofs.Writing
import PropertyGraph.Proofs.Foreign
import PropertyGraph.Proofs.OrderedMap
import PropertyGraph.Proofs.Property.Content
import PropertyGraph.Proofs.Candidates
import PropertyGraph.Proofs.Mapping.Choices
import PropertyGraph.Proofs.Mapping.Completions
import PropertyGraph.Proofs.Mapping.Enumeration
import PropertyGraph.Proofs.Placement
import PropertyGraph.Proofs.Isomorphism
import PropertyGraph.Proofs.Parallels
import PropertyGraph.Proofs.Comparison.Search
import PropertyGraph.Proofs.Comparison.Verdict
import PropertyGraph.Proofs.Comparison.SameGraph
import PropertyGraph.Proofs.Comparison.Subgraph
import PropertyGraph.Proofs.Comparison.Invariance
import PropertyGraph.Proofs.Comparison.MutualSubgraphs
import PropertyGraph.Proofs.Comparison.Failures
import PropertyGraph.Proofs.Gathering
import PropertyGraph.Proofs.Network.Attributes
import PropertyGraph.Proofs.Property.Equality
import PropertyGraph.Proofs.Property.Reading
import PropertyGraph.Proofs.Snapshot.Integrity
import PropertyGraph.Proofs.Network.Rendering
import PropertyGraph.Proofs.Network.Traversal
import PropertyGraph.Proofs.Network.RoundTrip
import PropertyGraph.Proofs.Network.Refusal
import PropertyGraph.Proofs.Network.WellFormed
import PropertyGraph.Proofs.Network.FixedPoint
import PropertyGraph.Proofs.Payload.Acceptance
import PropertyGraph.Proofs.Draft.Agreement
import PropertyGraph.Proofs.Classes
import PropertyGraph.Proofs.Comparison.SearchSize
import PropertyGraph.Proofs.Comparison.Vocabulary
import PropertyGraph.Proofs.Comparison.Additions
import PropertyGraph.Proofs.Snapshot.FirstFault
import PropertyGraph.Proofs.Reader
import PropertyGraph.Proofs.Network.Ends
import PropertyGraph.Proofs.Network.Undirected
import PropertyGraph.Proofs.Network.AttributeOrder
import PropertyGraph.Proofs.Network.InsertionOrder
import PropertyGraph.Proofs.Comparison.Events
import PropertyGraph.Proofs.Payload.Restated
import PropertyGraph.Proofs.Property.Storable
import PropertyGraph.Proofs.Table.Readable
import PropertyGraph.Proofs.Table.MissingCells
import PropertyGraph.Proofs.Mapping.Iterations
import PropertyGraph.Proofs.Label.Restatement
import PropertyGraph.Proofs.Table.LabelCells
