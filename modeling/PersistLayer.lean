import PersistLayer.Proofs.Scanner.Grammar
import PersistLayer.Proofs.Snippet.Statements
import PersistLayer.Proofs.Snippet.Rereading
import PersistLayer.Proofs.Render.File
import PersistLayer.Proofs.Render.Braces
import PersistLayer.Proofs.Client.Outcome
import PersistLayer.Proofs.Client.Skipping
import PersistLayer.Main
import PersistLayer.Proofs.TestWiring.Statement
import PersistLayer.Proofs.TestWiring.File
import PersistLayer.Proofs.Scopes.Reading
import PersistLayer.Proofs.Scopes.Snippets
import PersistLayer.Proofs.Scopes.Trees
import PersistLayer.Proofs.Client.Scopes
import PersistLayer.Proofs.Client.Imports
import PersistLayer.Proofs.Client.Declarations
import PersistLayer.Proofs.Client.Relations
import PersistLayer.Proofs.TestWiring.Outcome
import PersistLayer.Proofs.Client.KeyShape
import PersistLayer.Proofs.Client.Addresses
import PersistLayer.Proofs.Client.Wording
import PersistLayer.Proofs.Client.Locals
import PersistLayer.Proofs.Client.Literals
import PersistLayer.Proofs.Client.Image
import PersistLayer.Proofs.Scanner.Positions
import PersistLayer.Proofs.Scanner.StringLiterals
import PersistLayer.Proofs.Snippet.Slices
import PersistLayer.Proofs.Client.TypeNames
import PersistLayer.Proofs.Command.Run
import PersistLayer.Proofs.Config.Sample
import PersistLayer.Proofs.Sql.Drops
import PersistLayer.Proofs.Types.Reading
import PersistLayer.Proofs.Schema.Additions
