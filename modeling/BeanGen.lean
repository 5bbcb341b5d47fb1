import BeanGen.Main
import BeanGen.Json.Printer
import BeanGen.Proofs.Generation.BoundClass
import BeanGen.Proofs.Text.Ascending
import BeanGen.Proofs.Conflict.Strategy
import BeanGen.Proofs.Generation.History
import BeanGen.Proofs.Generation.Remembering
import BeanGen.Proofs.Accessor.Form
import BeanGen.Proofs.Generation.Naming
import BeanGen.Proofs.Accessor.Clash
import BeanGen.Proofs.Accessor.Body
import BeanGen.Proofs.Generation.Separate
import BeanGen.Proofs.Generation.Accessors
import BeanGen.Proofs.Descriptor.Calls
import BeanGen.Proofs.Generation.Reach
import BeanGen.Proofs.Conflict.Registry
import BeanGen.Proofs.Conflict.Precedence
import BeanGen.Proofs.Descriptor.Identities
import BeanGen.Proofs.Run.FileTree
import BeanGen.Proofs.Run.Evaluation
import BeanGen.Proofs.Run.Ledger
import BeanGen.Proofs.Run.Account
import BeanGen.Proofs.Run.Outcome
import BeanGen.Proofs.Run.Backing
import BeanGen.Proofs.Conflict.Terminal
import BeanGen.Proofs.Run.Consent
import BeanGen.Proofs.Run.Below
import BeanGen.Proofs.Generation.Imports
import BeanGen.Proofs.Java.Spelling
import BeanGen.Proofs.Accessor.Spelling
import BeanGen.Proofs.Descriptor.Spelling
import BeanGen.Proofs.Generation.Completeness
import BeanGen.Proofs.Generation.Reordering
import BeanGen.Proofs.Generation.Listeners
import BeanGen.Proofs.Json.Printing
import BeanGen.Proofs.Json.Decoding
import BeanGen.Proofs.Schema.Codec
import BeanGen.Proofs.Text.Braces
import BeanGen.Proofs.Java.Braces
import BeanGen.Proofs.Accessor.Braces
import BeanGen.Proofs.Descriptor.Braces
import BeanGen.Proofs.Generation.Braces
import BeanGen.Proofs.Java.Name
import BeanGen.Proofs.Generation.Members
import BeanGen.Proofs.Descriptor.KeyOrder
import BeanGen.Proofs.Text.Affix
import BeanGen.Proofs.Descriptor.Locals
import BeanGen.Proofs.Accessor.Notices
import BeanGen.Proofs.Schema.Acceptance
import BeanGen.Proofs.Settings.Qualify
import BeanGen.Proofs.Generation.Refusal
import BeanGen.Proofs.Descriptor.Ancestry
import BeanGen.Proofs.Generation.Ancestry
import BeanGen.Proofs.Generation.Referents
import BeanGen.Proofs.Generation.Inheritance
import BeanGen.Proofs.Java.Denotation
import BeanGen.Proofs.Descriptor.Literals
import BeanGen.Proofs.Java.Constant
import BeanGen.Proofs.Schema.Defaults
import BeanGen.Proofs.Generation.Parameters
import BeanGen.Proofs.Accessor.Policies
import BeanGen.Proofs.Text.Pattern
import BeanGen.Proofs.Descriptor.Shape
import BeanGen.Proofs.Descriptor.Outline
import BeanGen.Proofs.Generation.Maximum
import BeanGen.Proofs.Settings.Codec
import BeanGen.Proofs.Schema.Document
import BeanGen.Proofs.Generation.Construction
import BeanGen.Proofs.Conflict.Decision
import BeanGen.Proofs.Schema.Comment
import BeanGen.Proofs.Java.Quotation
import BeanGen.Proofs.Settings.Package
import BeanGen.Proofs.Java.CompilationUnit
import BeanGen.Proofs.Java.Edit
import BeanGen.Proofs.Text.Casing
import BeanGen.Proofs.Text.Stretch
import BeanGen.Proofs.Java.Block
import BeanGen.Proofs.Conflict.Identifiers
