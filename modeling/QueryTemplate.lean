import QueryTemplate.FileTree
import QueryTemplate.Main
import QueryTemplate.Proofs.Chains
import QueryTemplate.Proofs.Execution
import QueryTemplate.Proofs.Grammar.Complete
import QueryTemplate.Proofs.Joining
import QueryTemplate.Proofs.Lifetime
import QueryTemplate.Proofs.Outline
import QueryTemplate.Proofs.Serialization
import QueryTemplate.Proofs.Unclosed
import QueryTemplate.Proofs.Declarations
import QueryTemplate.Proofs.Scanning.Texts
import QueryTemplate.Proofs.Rescanning
import QueryTemplate.Proofs.Separators
import QueryTemplate.Proofs.Scanning.Significant
import QueryTemplate.Proofs.Parameters
import QueryTemplate.Proofs.LetterCase
import QueryTemplate.Proofs.Operators
import QueryTemplate.Proofs.Commands
import QueryTemplate.Proofs.Literals
import QueryTemplate.Proofs.Expressions
import QueryTemplate.Proofs.Typing.Exchange
import QueryTemplate.Proofs.Greedy
import QueryTemplate.Proofs.Bodies
import QueryTemplate.Proofs.Parts
import QueryTemplate.Proofs.Shape
import QueryTemplate.Proofs.Appends
import QueryTemplate.Proofs.Cursor
import QueryTemplate.Proofs.Cursor.Readers
import QueryTemplate.Proofs.Cursor.Outcomes
