import NodeQuery.Node.Document
import NodeQuery.Query.Engine
import NodeQuery.Report.Rendering
import NodeQuery.Proofs.LazySeq
import NodeQuery.Proofs.Query.Walk
import NodeQuery.Proofs.Outcome
import NodeQuery.Proofs.Query.Pipeline
import NodeQuery.Proofs.Query.Answer
import NodeQuery.Proofs.Selector.Steps
import NodeQuery.Proofs.Query.Matching
import NodeQuery.Proofs.Selector.Grammar
import NodeQuery.Proofs.Selector.Lexing
import NodeQuery.Proofs.Selector.Derivation
import NodeQuery.Proofs.Selector.Recognition
import NodeQuery.Proofs.Selector.Printing
import NodeQuery.Proofs.Predicate.Grammar
import NodeQuery.Proofs.Predicate.Transition
import NodeQuery.Proofs.Predicate.Derivation
import NodeQuery.Proofs.Predicate.Recognition
import NodeQuery.Proofs.Query.CacheHistory
import NodeQuery.Proofs.Query.Freshness
import NodeQuery.Proofs.Query.Recency
import NodeQuery.Proofs.Query.Composition
import NodeQuery.Proofs.Query.DepthLimit
import NodeQuery.Proofs.Predicate.Bracketing
import NodeQuery.Proofs.Predicate.Height
import NodeQuery.Proofs.Selector.Descent
import NodeQuery.Proofs.Selector.Shape
import NodeQuery.Proofs.Selector.Positions
import NodeQuery.Proofs.Selector.Spacing
import NodeQuery.Proofs.Selector.Viability
import NodeQuery.Proofs.Query.Merging
import NodeQuery.Proofs.Query.Traversal
import NodeQuery.Proofs.Query.Naming
import NodeQuery.Proofs.Query.Redundancy
import NodeQuery.Proofs.Predicate.Spelling
import NodeQuery.Proofs.Predicate.Printing
import NodeQuery.Proofs.Predicate.Threshold
import NodeQuery.Proofs.Predicate.Precompilation
import NodeQuery.Proofs.Query.DocumentOrder
import NodeQuery.Proofs.Query.MalformedBodies
import NodeQuery.Proofs.Predicate.Guards
import NodeQuery.Proofs.Predicate.Quotation
import NodeQuery.Proofs.Value.Truth
import NodeQuery.Proofs.Query.Classes
import NodeQuery.Proofs.Predicate.Beginnings
import NodeQuery.Proofs.Predicate.Viability
import NodeQuery.Proofs.Predicate.Negation
import NodeQuery.Proofs.Value.Equality
import NodeQuery.Proofs.Predicate.Members
import NodeQuery.Proofs.Query.Ordinals
import NodeQuery.Proofs.Selector.Closing
import NodeQuery.Proofs.Selector.Tiling
import NodeQuery.Proofs.Query.Inclusion
import NodeQuery.Proofs.Predicate.Footprint
