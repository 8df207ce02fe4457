import NameCompletion.Main
import NameCompletion.Proofs.Bindings.History
import NameCompletion.Proofs.Candidates.Cursor
import NameCompletion.Proofs.Candidates.Printing
import NameCompletion.Proofs.CommandLine.Layering
import NameCompletion.Proofs.Completer.Chain
import NameCompletion.Proofs.Completer.Decoration
import NameCompletion.Proofs.Completer.Descent
import NameCompletion.Proofs.Completer.Narrowing
import NameCompletion.Proofs.Completer.Reachability
import NameCompletion.Proofs.Completer.Shadowing
import NameCompletion.Proofs.Editor.Accepting
import NameCompletion.Proofs.Editor.Word
import NameCompletion.Proofs.Prompt.ByHand
import NameCompletion.Proofs.Prompt.FirstWord
import NameCompletion.Proofs.Snapshot.Arity
import NameCompletion.Proofs.Snapshot.Frame
import NameCompletion.Proofs.Snapshot.Recognition
import NameCompletion.Proofs.Snapshot.Separate
import NameCompletion.Proofs.Value.Equivalence
import NameCompletion.Proofs.Value.Inheritance
import NameCompletion.Value.Display
