import Substance.Main
import Substance.Proofs.Accounting
import Substance.Proofs.Bytes
import Substance.Proofs.Collision
import Substance.Proofs.Completeness
import Substance.Proofs.Coupling
import Substance.Proofs.Cutting
import Substance.Proofs.Delivery
import Substance.Proofs.Directories
import Substance.Proofs.Distinct
import Substance.Proofs.Equivariance
import Substance.Proofs.Failure
import Substance.Proofs.FileView
import Substance.Proofs.Formats
import Substance.Proofs.Grammar
import Substance.Proofs.Interleaving
import Substance.Proofs.Iterators
import Substance.Proofs.Journal
import Substance.Proofs.Layout
import Substance.Proofs.Lexical
import Substance.Proofs.Loading
import Substance.Proofs.Newlines
import Substance.Proofs.Numerals
import Substance.Proofs.Outcome
import Substance.Proofs.Parsing
import Substance.Proofs.Position
import Substance.Proofs.Reading
import Substance.Proofs.Recovery
import Substance.Proofs.Refusal
import Substance.Proofs.Streams
import Substance.Proofs.Uniform
import Substance.Proofs.Vocabulary
import Substance.Proofs.WholeNames
import Substance.Proofs.Wishes
import Substance.Proofs.Writing
import Substance.Schema.Record
import Substance.Storage.Tree
