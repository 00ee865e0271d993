/-!
# Text

Definitions, templates and generated classes are all scanned from the front, one
character after the other, so text is the list of its characters here, and string
literals are read as such lists.

* `pieces` cuts a text at every separator and keeps the empty pieces; `words` drops
  them.
* `trimBy` removes a class of characters from both ends.
* `cut?` cuts a text around the first occurrence of a marker.
-/

namespace RosBindings

/-- Text, as the list of its characters from left to right. -/
abbrev Text := List Char

/-- A string literal stands for its characters. -/
instance coeStringText : Coe String Text := ⟨String.toList⟩

namespace Text

/-- The pieces of a text between its separators, the empty ones included. There is
always at least one piece. -/
def pieces (sep : Char → Bool) : Text → List Text
  | [] => [[]]
  | c :: cs =>
    if sep c then [] :: pieces sep cs
    else match pieces sep cs with
      | [] => [[c]]
      | p :: ps => (c :: p) :: ps

/-- The non-empty pieces of a text between its separators. -/
def words (sep : Char → Bool) (t : Text) : List Text :=
  (pieces sep t).filter (fun w => !w.isEmpty)

/-- Texts joined with a separator between them. -/
def join (sep : Text) (ts : List Text) : Text := List.intercalate sep ts

/-- The text without the leading characters of a class. -/
def trimStartBy (p : Char → Bool) (t : Text) : Text := t.dropWhile p

/-- The text without the trailing characters of a class. -/
def trimEndBy (p : Char → Bool) (t : Text) : Text := (t.reverse.dropWhile p).reverse

/-- The text without the characters of a class at either end. -/
def trimBy (p : Char → Bool) (t : Text) : Text := trimEndBy p (trimStartBy p t)

/-- The text before a suffix, if the text ends in it. -/
def beforeSuffix? (suffix t : Text) : Option Text := suffix.isSuffixOf? t

/-- What stands before and after the first occurrence of a marker. -/
def cut? (marker : Text) : Text → Option (Text × Text)
  | [] => if marker.isEmpty then some ([], []) else none
  | c :: cs =>
    match marker.isPrefixOf? (c :: cs) with
    | some rest => some ([], rest)
    | none => (cut? marker cs).map fun (before, rest) => (c :: before, rest)

/-- The number of bytes of a text in UTF-8. -/
def byteLength (t : Text) : Nat := t.foldl (fun size c => size + c.utf8Size) 0

/-- The decimal digits of a number. -/
def ofNat (n : Nat) : Text := Nat.toDigits 10 n

end Text

end RosBindings
