/-!
# Fields between separators

* `fieldsOf` — the parts of a text between the occurrences of a separator.
* `fields` — the same for strings.
* `cutAt?` — the two sides of the first occurrence of a separator.
* `join` — texts put together with another text between them.
-/

namespace Phrasebook.Text

/-- The parts between the occurrences of a separator, one more than there are occurrences. -/
def fieldsOf (sep : Char) : List Char → List (List Char)
  | [] => [[]]
  | c :: rest =>
    if c = sep then [] :: fieldsOf sep rest
    else
      match fieldsOf sep rest with
      | [] => [[c]]
      | first :: others => (c :: first) :: others

/-- The parts of a text between the occurrences of a separator. -/
def fields (sep : Char) (s : String) : List String :=
  (fieldsOf sep s.toList).map String.ofList

/-- What stands before and after the first occurrence of a separator. -/
def cutAt? (sep : Char) : List Char → Option (List Char × List Char)
  | [] => none
  | c :: rest =>
    if c = sep then some ([], rest) else (cutAt? sep rest).map fun p => (c :: p.1, p.2)

/-- The texts in a row, with `between` between neighbours. -/
def join (between : String) : List String → String
  | [] => ""
  | [s] => s
  | s :: rest => s ++ between ++ join between rest

end Phrasebook.Text
