import MigrationStatus.Migration.State
/-!
Colours on a terminal: a text between the escape sequences that switch styles on and the one that
switches them off again.
-/

namespace MigrationStatus.Report

open Migration

/-- A style of a text on a terminal. -/
inductive Style where
  | green
  | yellow
  | red
  | bold
  | dim
  deriving DecidableEq, Repr

namespace Style

/-- The number that selects the style. -/
def code : Style → Nat
  | .bold => 1
  | .dim => 2
  | .red => 31
  | .green => 32
  | .yellow => 33

/-- The styles in which a state is shown. -/
def ofState : State → List Style
  | .success => [.green]
  | .pending | .ignored => [.yellow]
  | .failed => [.red, .bold]
  | .missingFailed | .futureFailed => [.red]
  | .preInit | .missingSuccess | .futureSuccess => [.dim]

/-- The text in these styles, or as it is where colours are switched off. -/
def paint (colors : Bool) (styles : List Style) (text : String) : String :=
  if colors then
    String.join (styles.map fun style => s!"\x1b[{style.code}m") ++ text ++ "\x1b[0m"
  else text

end Style

end MigrationStatus.Report
