import TypeScaffold.Console.Markup
import TypeScaffold.Console.Wrap

/-!
# Messages

A message is printed in the style of its kind and wrapped at the width of the console. It is
escaped, so that brackets in it are no tags.
-/

namespace TypeScaffold.Console

open Text

/-- The kinds of message. -/
inductive MessageKind where
  | success
  | warning
  deriving DecidableEq, Repr

def MessageKind.style : MessageKind → String
  | success => "bold green"
  | warning => "bold yellow"

def MessageKind.markup (kind : MessageKind) (message : String) : List Char :=
  Markup.styled kind.style (Markup.escape message.toList)

def printMessage (width : Nat) (kind : MessageKind) (message : String) :
    Except Markup.Fault String := do
  let lines := wrap .folded width (← Markup.render (kind.markup message))
  return String.ofList (joinLines (lines.map (cut width)) ++ ['\n'])

end TypeScaffold.Console
