import SkyCatalog.Body.Sameness
import SkyCatalog.Catalog.Journal
import SkyCatalog.Command.Check
import SkyCatalog.Command.Taking
import SkyCatalog.Console.Process
import SkyCatalog.Main
import SkyCatalog.Proofs.Binary64.Order
import SkyCatalog.Proofs.Catalog.Forest
import SkyCatalog.Proofs.Catalog.Recognition
import SkyCatalog.Proofs.Catalog.Refinement
import SkyCatalog.Proofs.Command.Acceptance
import SkyCatalog.Proofs.Command.FirstFault
import SkyCatalog.Proofs.Command.Form
import SkyCatalog.Proofs.Command.Respacing
import SkyCatalog.Proofs.Command.Spelling
import SkyCatalog.Proofs.Command.Taking
import SkyCatalog.Proofs.Console.Conversation
import SkyCatalog.Proofs.Console.Portions
import SkyCatalog.Proofs.Console.Sharing
import SkyCatalog.Proofs.Report.Descent
import SkyCatalog.Proofs.Report.Numbers
import SkyCatalog.Proofs.Report.Recovery
import SkyCatalog.Proofs.Session.Account
import SkyCatalog.Proofs.Session.Coverage
import SkyCatalog.Proofs.Session.Exchange
import SkyCatalog.Proofs.Session.Persistence
import SkyCatalog.Proofs.Session.Stability
import SkyCatalog.Proofs.Session.Storable
import SkyCatalog.Proofs.Session.Totality
import SkyCatalog.Proofs.Spectral.Bands
import SkyCatalog.Report.Check
