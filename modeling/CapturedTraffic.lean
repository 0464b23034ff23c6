import CapturedTraffic.Main
import CapturedTraffic.Proofs.CommandLine.Placement
import CapturedTraffic.Proofs.Exchange.Arrangement
import CapturedTraffic.Proofs.Exchange.Merging
import CapturedTraffic.Proofs.FirstFailure
import CapturedTraffic.Proofs.Logging.Level
import CapturedTraffic.Proofs.Noninterference
import CapturedTraffic.Proofs.Pattern.LetterCase
import CapturedTraffic.Proofs.Query.Chain
import CapturedTraffic.Proofs.Query.Comparison
import CapturedTraffic.Proofs.Query.Complement
import CapturedTraffic.Proofs.Query.FreeText
import CapturedTraffic.Proofs.Query.LetterCase
import CapturedTraffic.Proofs.Query.Nesting
import CapturedTraffic.Proofs.Query.Polarity
import CapturedTraffic.Proofs.Query.Printed
import CapturedTraffic.Proofs.Query.TextOrder
import CapturedTraffic.Proofs.Scope.Compilation
import CapturedTraffic.Proofs.Scope.Containment
import CapturedTraffic.Proofs.Scope.Editing
import CapturedTraffic.Proofs.Scope.FirstHit
import CapturedTraffic.Proofs.Scope.LetterCase
import CapturedTraffic.Proofs.Scope.MoreHeaders
import CapturedTraffic.Proofs.Scope.Optional
import CapturedTraffic.Proofs.Scope.Sharing
import CapturedTraffic.Proofs.Scope.UrlPatterns
import CapturedTraffic.Proofs.Selection
import CapturedTraffic.Proofs.Stages
import CapturedTraffic.Proofs.StoredFiles
import CapturedTraffic.Proofs.Subcommands
