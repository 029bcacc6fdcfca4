import Formwork.Main
import Formwork.Proofs.CommandLine.Damage
import Formwork.Proofs.CommandLine.Derivation
import Formwork.Proofs.CommandLine.Listing
import Formwork.Proofs.CommandLine.Messages
import Formwork.Proofs.CommandLine.Verbatim
import Formwork.Proofs.CommandLine.Warnings
import Formwork.Proofs.Config.File
import Formwork.Proofs.Naming.Conversion
import Formwork.Proofs.Naming.Slug
import Formwork.Proofs.Output.Interleaving
import Formwork.Proofs.Render.Escape
import Formwork.Proofs.Template.Concatenation
import Formwork.Proofs.Template.Validity
import Formwork.Render.Data
