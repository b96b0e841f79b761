import DocFilter.Chain
import DocFilter.Filter.Applied
import DocFilter.Report.Written
import DocFilter.Reporter
import DocFilter.Session
import DocFilter.Proofs.Delivery
import DocFilter.Proofs.Chains
import DocFilter.Proofs.CompositeText
import DocFilter.Proofs.Outline
import DocFilter.Proofs.Walks
import DocFilter.Proofs.Translation
import DocFilter.Proofs.Accounting
import DocFilter.Proofs.NotesAndReport
import DocFilter.Proofs.Columns
import DocFilter.Proofs.Respelling
import DocFilter.Proofs.Handles
import DocFilter.Proofs.Adaptation
import DocFilter.Proofs.Conjuncts
import DocFilter.Proofs.Keys
import DocFilter.Proofs.Fates
import DocFilter.Proofs.Pruning
import DocFilter.Proofs.Meaning
import DocFilter.Proofs.NumberText
import DocFilter.Proofs.Splitting
import DocFilter.Proofs.Refusals
import DocFilter.Proofs.Isolation
import DocFilter.Proofs.Operations
import DocFilter.Proofs.Binding
import DocFilter.Proofs.Threading
import DocFilter.Proofs.Writing
import DocFilter.Proofs.Obstacles
import DocFilter.Proofs.CutShort
import DocFilter.Proofs.Applications
import DocFilter.Proofs.Endings
import DocFilter.Proofs.ImplicitEquality
import DocFilter.Proofs.Reordering
import DocFilter.Proofs.Conditions
import DocFilter.Proofs.Places
import DocFilter.Proofs.Wording
import DocFilter.Proofs.DistinctOmissions
import DocFilter.Proofs.Composition
import DocFilter.Proofs.Escapes
import DocFilter.Proofs.Matching
import DocFilter.Proofs.QuotedLists
import DocFilter.Proofs.Reporters
import DocFilter.Proofs.Connections
import DocFilter.Proofs.WholeNumbers
import DocFilter.Proofs.Digits
import DocFilter.Proofs.Projections
import DocFilter.Proofs.Leaves
import DocFilter.Proofs.OnePass
