import RosBindings.Text.Blank
import RosBindings.Text.Lines

/-!
# Repeated rows

A row that holds the repeat marker is written once for every item. Each copy keeps the
indentation of the row; all copies but the last end in a separator, and the last one
ends in what stood behind the marker.
-/

namespace RosBindings.Repetition

/-- The marker of a row to be repeated. -/
def defaultMarker : Text := "$\x7b...\x7d"

/-- The copies of a row for the given items. -/
def copies (indent separator tail : Text) : List Text → List Text
  | [] => []
  | [item] => [indent ++ item ++ tail]
  | item :: items => (indent ++ item ++ separator) :: copies indent separator tail items

/-- What becomes of one row. -/
def expandRow (marker : Text) (items : List Text) (separator row : Text) : List Text :=
  match Text.cut? marker row with
  | none => [row]
  | some (_, tail) => copies (Text.indentation row) separator tail items

/-- The text with its marked rows repeated; nothing at all when there are no items. -/
def expand (marker text : Text) (items : List Text) (separator : Text) : Option Text :=
  if items.isEmpty then none
  else some (Text.unrows ((Text.rows text).flatMap (expandRow marker items separator)))

/-- Repeats rows under a marker of the caller's choice, which must not be empty as soon
as there is something to repeat. -/
def expand? (marker text : Text) (items : List Text) (separator : Text) :
    Option (Option Text) :=
  if marker.isEmpty && !items.isEmpty then none else some (expand marker text items separator)

end RosBindings.Repetition
