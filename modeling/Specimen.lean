import Specimen.Callback
import Specimen.Factory
import Specimen.Main
import Specimen.Proofs.Containment
import Specimen.Proofs.Faithfulness
import Specimen.Proofs.Loading
import Specimen.Proofs.NestingBound
import Specimen.Proofs.Strictness
import Specimen.Proofs.Totality
import Specimen.Proofs.Truncation
import Specimen.Provider
import Specimen.Proofs.Termination
import Specimen.Proofs.Exits
import Specimen.Proofs.Threading
import Specimen.Proofs.Transparency
import Specimen.Proofs.PatternIndependence
import Specimen.Proofs.Families
import Specimen.Proofs.NumericKeywords
import Specimen.Proofs.TypeLists
import Specimen.Proofs.Presence
import Specimen.Proofs.Formats
import Specimen.Proofs.Wrappers
import Specimen.Proofs.Enumerations
import Specimen.Proofs.NumberNodes
import Specimen.Proofs.SetMembers
import Specimen.Proofs.EntryDraws
import Specimen.Proofs.DateOrder
import Specimen.Proofs.IssuePaths
import Specimen.Proofs.Conjunctions
import Specimen.Proofs.Prefixes
import Specimen.Proofs.JsonForms
import Specimen.Proofs.CatalogIndex
import Specimen.Proofs.Fingerprints
import Specimen.Proofs.SetOrders
import Specimen.Proofs.WrittenEntries
import Specimen.Proofs.SequenceSeeds
