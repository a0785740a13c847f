import Criteria.Compilation.Description
import Criteria.Compilation.Session
import Criteria.Derive.Expansion
import Criteria.Predicate.Evaluation
import Criteria.Proofs.Calendar.Days
import Criteria.Proofs.Calendar.Elapsed
import Criteria.Proofs.Calendar.Order
import Criteria.Proofs.Compilation.Accounting
import Criteria.Proofs.Compilation.Building
import Criteria.Proofs.Compilation.Fault
import Criteria.Proofs.Compilation.Inlining
import Criteria.Proofs.Compilation.Joining
import Criteria.Proofs.Compilation.Limit
import Criteria.Proofs.Compilation.Locality
import Criteria.Proofs.Compilation.Muting
import Criteria.Proofs.Compilation.Period
import Criteria.Proofs.Compilation.Rearrangement
import Criteria.Proofs.Compilation.Reference
import Criteria.Proofs.Compilation.Shape
import Criteria.Proofs.Compilation.Source
import Criteria.Proofs.Compilation.Verdict
import Criteria.Proofs.Derive.Agreement
import Criteria.Proofs.Derive.Merging
import Criteria.Proofs.Filter.Pruning
import Criteria.Proofs.Numeric.Nearest
import Criteria.Proofs.Numeric.Reading
import Criteria.Proofs.Pattern.Match
import Criteria.Proofs.Pattern.Words
import Criteria.Proofs.Predicate.Answer
import Criteria.Proofs.Predicate.Comparison
import Criteria.Proofs.Predicate.Day
import Criteria.Proofs.Predicate.Information
import Criteria.Proofs.Predicate.Kleene
import Criteria.Proofs.Predicate.Leaf
import Criteria.Proofs.Predicate.LetterCase
import Criteria.Proofs.Predicate.Polarity
import Criteria.Proofs.Predicate.Renaming
import Criteria.Proofs.Predicate.Spine
import Criteria.Proofs.Predicate.Strictness
import Criteria.Proofs.Predicate.Truth
import Criteria.Proofs.Schema.Composition
import Criteria.Proofs.Schema.Joining
import Criteria.Proofs.Schema.Kind
import Criteria.Proofs.Schema.RoundTrip
import Criteria.Proofs.Schema.Segments
import Criteria.Proofs.Schema.Walk
import Criteria.Proofs.Value.Duality
import Criteria.Proofs.Value.Family
import Criteria.Proofs.Value.Identity
import Criteria.Proofs.Value.Widening
import Criteria.Settings.Reader
import Criteria.Text.Accent
import Criteria.Value.Conversion
