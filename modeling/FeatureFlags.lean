import FeatureFlags.Evaluator
import FeatureFlags.Json.Writer
import FeatureFlags.Proofs.Lookup
import FeatureFlags.Proofs.Gates
import FeatureFlags.Proofs.Order
import FeatureFlags.Proofs.FirstMatch
import FeatureFlags.Proofs.Widening
import FeatureFlags.Proofs.RampUp
import FeatureFlags.Proofs.Extension
import FeatureFlags.Proofs.KeyIndex
import FeatureFlags.Proofs.Account
import FeatureFlags.Proofs.Writes
import FeatureFlags.Proofs.DetailsAgree
import FeatureFlags.Proofs.Replay
import FeatureFlags.Proofs.Commute
import FeatureFlags.Proofs.Justified
import FeatureFlags.Proofs.EntryPoints
import FeatureFlags.Proofs.Bystanders
import FeatureFlags.Proofs.Sticky
import FeatureFlags.Proofs.Relevance
import FeatureFlags.Proofs.RoundTrip
import FeatureFlags.Proofs.Partition
import FeatureFlags.Proofs.Rounding
import FeatureFlags.Proofs.CompleteSplit
import FeatureFlags.Proofs.GateRecords
import FeatureFlags.Proofs.Checks
import FeatureFlags.Proofs.KeyMoves
import FeatureFlags.Proofs.SharderCalls
import FeatureFlags.Proofs.ConstraintLanguage
import FeatureFlags.Proofs.Separation
import FeatureFlags.Proofs.Negation
import FeatureFlags.Proofs.WhiteSpace
import FeatureFlags.Proofs.Spelling
import FeatureFlags.Proofs.Excerpts
import FeatureFlags.Proofs.Arrangement
import FeatureFlags.Proofs.Conjunctions
import FeatureFlags.Proofs.Membership
import FeatureFlags.Proofs.Quotation
import FeatureFlags.Proofs.Surroundings
import FeatureFlags.Proofs.CatchAll
import FeatureFlags.Proofs.PreparedEntities
import FeatureFlags.Proofs.Publishing
import FeatureFlags.Proofs.ErrorKinds
import FeatureFlags.Proofs.OutcomeRecords
import FeatureFlags.Proofs.DirectReading
import FeatureFlags.Proofs.Restatements
