import BundleCheck.Main
import BundleCheck.Proofs.Bundle.EntryText
import BundleCheck.Proofs.Bundle.LineEnds
import BundleCheck.Proofs.Bundle.Malformed
import BundleCheck.Proofs.Bundle.Missing
import BundleCheck.Proofs.Bundle.Rebuilding
import BundleCheck.Proofs.Bundle.ReferenceComments
import BundleCheck.Proofs.Check.BreakSpaces
import BundleCheck.Proofs.Check.Cancellation
import BundleCheck.Proofs.Check.FileLines
import BundleCheck.Proofs.Check.KeyFormat
import BundleCheck.Proofs.Check.Locality
import BundleCheck.Proofs.Check.Parity
import BundleCheck.Proofs.Check.Retention
import BundleCheck.Proofs.Check.Substitutions
import BundleCheck.Proofs.Check.SymmetricMarks
import BundleCheck.Proofs.Run.Discovery
import BundleCheck.Proofs.Run.Neutrality
import BundleCheck.Proofs.Run.Order
import BundleCheck.Proofs.Run.Stability
import BundleCheck.Proofs.Run.Stringency
import BundleCheck.Proofs.Settings.LanguageFiles
import BundleCheck.Proofs.Settings.Omission
import BundleCheck.Proofs.Terminal.Listing
import BundleCheck.Proofs.Text.EndedLines
