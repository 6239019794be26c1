import Phrasebook.Main
import Phrasebook.Proofs.CSharp.Entity
import Phrasebook.Proofs.CSharp.Spelling
import Phrasebook.Proofs.ClassSource.Depth
import Phrasebook.Proofs.Command.Message
import Phrasebook.Proofs.Command.Override
import Phrasebook.Proofs.Command.Rerun
import Phrasebook.Proofs.Command.Verbatim
import Phrasebook.Proofs.Locale.Location
import Phrasebook.Proofs.Locale.MoreFiles
import Phrasebook.Proofs.Locale.Pairs
import Phrasebook.Proofs.Locale.PassNames
import Phrasebook.Proofs.Locale.Reordering
import Phrasebook.Proofs.Log.Nesting
import Phrasebook.Proofs.Naming.Legal
import Phrasebook.Proofs.Pass.Content
import Phrasebook.Proofs.Pass.Member
import Phrasebook.Proofs.Pass.Namespace
import Phrasebook.Proofs.Pass.Option
import Phrasebook.Proofs.Pass.Parameter
import Phrasebook.Proofs.Pass.Trace
import Phrasebook.Proofs.Placeholder.Scan
