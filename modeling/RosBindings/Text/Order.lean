import RosBindings.Text.Basic

/-!
# Order of texts

Texts are ordered by code point, character by character. `sortedSet` lists texts in
that order, each of them once.
-/

namespace RosBindings.Text

/-- A text put at its place in an increasing list, unless it is there already. -/
def insertSorted (t : Text) : List Text → List Text
  | [] => [t]
  | u :: us =>
    if t < u then t :: u :: us
    else if t = u then u :: us
    else u :: insertSorted t us

/-- The given texts in increasing order, without repetitions. -/
def sortedSet (ts : List Text) : List Text := ts.foldr insertSorted []

end RosBindings.Text
