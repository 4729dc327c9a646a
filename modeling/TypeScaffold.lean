import TypeScaffold.Console.Table
import TypeScaffold.Generation.Options
import TypeScaffold.Generation.Run
import TypeScaffold.Generation.Shells
import TypeScaffold.Model.Encode
import TypeScaffold.Model.Load
import TypeScaffold.Proofs.Graph.Path
import TypeScaffold.Proofs.Graph.Ordering
import TypeScaffold.Proofs.Model.Arena
import TypeScaffold.Proofs.Model.References
import TypeScaffold.Proofs.Model.Merging
import TypeScaffold.Proofs.Validator.References
import TypeScaffold.Proofs.Initial.Constants
import TypeScaffold.Proofs.Initial.Inlining
import TypeScaffold.Proofs.Generation.Artifacts
import TypeScaffold.Proofs.Generation.SchemaReferences
import TypeScaffold.Proofs.Generation.StoreConstants
import TypeScaffold.Proofs.Model.Precedence
import TypeScaffold.Proofs.NameSet
import TypeScaffold.Proofs.Text.Endings
import TypeScaffold.Proofs.Text.Blocks
import TypeScaffold.Proofs.Text.Indent
import TypeScaffold.Proofs.Validator.Optional
import TypeScaffold.Proofs.Form.Required
import TypeScaffold.Proofs.Store.Fields
import TypeScaffold.Proofs.Store.Interface
import TypeScaffold.Proofs.Form.Build
import TypeScaffold.Proofs.Generation.FormReliance
import TypeScaffold.Proofs.Generation.OptionalFields
import TypeScaffold.Proofs.Generation.FieldSets
import TypeScaffold.Proofs.Form.OwnNames
import TypeScaffold.Proofs.Model.Spelling
import TypeScaffold.Proofs.Store.Spelling
import TypeScaffold.Proofs.Form.Spelling
import TypeScaffold.Proofs.Generation.OptionalSpelling
import TypeScaffold.Proofs.Form.Edits
import TypeScaffold.Proofs.Generation.ItemUpdates
import TypeScaffold.Proofs.Validator.Discriminator
import TypeScaffold.Proofs.Model.Values
import TypeScaffold.Proofs.Validator.Acceptance
import TypeScaffold.Proofs.Model.Literals
import TypeScaffold.Proofs.Validator.Literals
import TypeScaffold.Proofs.Validator.Meaning
import TypeScaffold.Proofs.Json.Quoted
import TypeScaffold.Proofs.Initial.Inhabitants
import TypeScaffold.Proofs.Text.Layout
import TypeScaffold.Proofs.Form.Choices
import TypeScaffold.Proofs.TypeExpr.Reading
import TypeScaffold.Proofs.TypeExpr.Terms
import TypeScaffold.Proofs.TypeExpr.Scanning
import TypeScaffold.Proofs.TypeExpr.Readings
import TypeScaffold.Proofs.TypeExpr.Grouping
import TypeScaffold.Proofs.TypeExpr.Intersections
import TypeScaffold.Proofs.Generation.StorageKeys
import TypeScaffold.Proofs.Model.Loading
import TypeScaffold.Proofs.Validation.Reading
import TypeScaffold.Proofs.Model.Completion
import TypeScaffold.Proofs.Model.Decoding
import TypeScaffold.Proofs.Model.RoundTrip
import TypeScaffold.Proofs.Model.Ordered
import TypeScaffold.Proofs.Graph.Listing
import TypeScaffold.Proofs.Graph.Sorting
import TypeScaffold.Proofs.Graph.Stability
import TypeScaffold.Proofs.Graph.Circles
import TypeScaffold.Proofs.Model.Needed
import TypeScaffold.Proofs.Model.DeclaredItems
import TypeScaffold.Proofs.Store.Alike
import TypeScaffold.Proofs.Model.Listing
import TypeScaffold.Proofs.Generation.Listing
import TypeScaffold.Proofs.Generation.Targets
import TypeScaffold.Proofs.Generation.Accounting
import TypeScaffold.Proofs.Generation.Shadowing
import TypeScaffold.Proofs.Generation.SavedSettings
import TypeScaffold.Proofs.Initial.Parts
import TypeScaffold.Proofs.Initial.Aliases
import TypeScaffold.Proofs.Model.Size
import TypeScaffold.Proofs.Initial.Recursion
import TypeScaffold.Proofs.Text.Unbroken
import TypeScaffold.Proofs.Generation.Persistence
import TypeScaffold.Proofs.Form.Treatment
import TypeScaffold.Proofs.Generation.Treatment
import TypeScaffold.Proofs.Initial.Merged
import TypeScaffold.Proofs.Model.TextLiterals
import TypeScaffold.Proofs.Model.Discriminator
import TypeScaffold.Proofs.Decimal.Rounding
import TypeScaffold.Proofs.Decimal.Shortest
import TypeScaffold.Proofs.Decimal.Spelling
import TypeScaffold.Proofs.Model.Denotation
import TypeScaffold.Proofs.TypeExpr.Literals
import TypeScaffold.Proofs.Initial.Literals
import TypeScaffold.Proofs.Generation.Literals
import TypeScaffold.Proofs.Model.Surroundings
import TypeScaffold.Proofs.Text.Comments
import TypeScaffold.Proofs.Validator.Surroundings
import TypeScaffold.Proofs.Validator.Comments
import TypeScaffold.Proofs.Validator.RawTexts
import TypeScaffold.Proofs.Generation.QuotedSettings
import TypeScaffold.Proofs.Text.ScriptLiterals
