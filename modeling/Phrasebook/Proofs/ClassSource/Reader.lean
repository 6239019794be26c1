import Phrasebook.ClassSource.Section
import Phrasebook.Proofs.CSharp.Lexeme

/-!
# Reading a generated class

A generated class is read back as C# would read it, from its lines alone:

* `enclosed?`, `commaItems` — what stands between two ends, and the items of a list;
* `readMember`, `readItem`, `readArguments` — an expression that hands values on;
* `readParameter`, `readDeclaration`, `readCall` — the two lines of a method that matter;
* `ReadMethod`, `readMethod` — the whole method, behind its comment;
* `constantsOf`, `methodsOf`, `remarksOf` — what a whole source declares, line by line.
-/

namespace Phrasebook

open Phrasebook.CSharp Phrasebook.Text

namespace ClassSource

/-! ### Lists between two ends -/

section Lists

variable {α : Type} [DecidableEq α]

/-- What stands between an opening and a closing, when a list has both. -/
def enclosed? (opening closing l : List α) : Option (List α) :=
  let rest := l.drop opening.length
  let inner := rest.take (rest.length - closing.length)
  if l = opening ++ inner ++ closing then some inner else none

theorem enclosed?_append (opening inner closing : List α) :
    enclosed? opening closing (opening ++ inner ++ closing) = some inner := by
  have hrest : (opening ++ inner ++ closing).drop opening.length = inner ++ closing := by
    rw [List.append_assoc, List.drop_left]
  have hlength : (inner ++ closing).length - closing.length = inner.length := by
    rw [List.length_append]
    omega
  simp only [enclosed?, hrest, hlength, List.take_left, if_true]

theorem enclosed?_eq_some {opening closing l inner : List α}
    (h : enclosed? opening closing l = some inner) : l = opening ++ inner ++ closing := by
  simp only [enclosed?] at h
  split at h
  · rename_i heq
    rw [Option.some.injEq] at h
    rw [h] at heq
    exact heq
  · exact absurd h (by simp)

end Lists

/-- The items of a list, which may have none. -/
def commaItems (l : List Lexeme) : List (List Lexeme) :=
  if l.isEmpty then [] else l.splitOn (.sign ',')

/-- Items come back when they are not empty and have no comma in them. -/
theorem commaItems_intercalate {items : List (List Lexeme)}
    (h : ∀ item ∈ items, item ≠ [] ∧ Lexeme.sign ',' ∉ item) :
    commaItems ([Lexeme.sign ','].intercalate items) = items := by
  cases items with
  | nil => rfl
  | cons first rest =>
    have hne : ([Lexeme.sign ','].intercalate (first :: rest)).isEmpty = false := by
      have hfirst := (h first List.mem_cons_self).1
      cases rest with
      | nil =>
        rw [List.intercalate_singleton]
        exact List.isEmpty_eq_false_iff.mpr hfirst
      | cons second rest =>
        rw [List.intercalate_cons_cons]
        exact List.isEmpty_eq_false_iff.mpr (by simp)
    rw [commaItems, hne, if_neg Bool.false_ne_true]
    exact List.splitOn_intercalate _ (fun item hi => (h item hi).2) (List.cons_ne_nil _ _)

/-! ### Expressions -/

/-- A member of an anonymous object: its name and the parameter that it takes its value from.
Without a name of its own it is called like the parameter. -/
def readMember : List Lexeme → Option (Text × String)
  | [.identifier parameter] => some (unescaped parameter, parameter)
  | [.identifier name, .sign '=', .identifier parameter] => some (unescaped name, parameter)
  | _ => none

/-- An item of a dictionary: its key and the parameter that it takes its value from. -/
def readItem : List Lexeme → Option (Text × String)
  | [.sign '[', .literal key, .sign ']', .sign '=', .identifier parameter] => some (key, parameter)
  | _ => none

/-- What opens an anonymous object. -/
def objectOpening : List Lexeme :=
  [.keyword "new", .sign '\x7b']

/-- What opens a dictionary. -/
def dictionaryOpening : List Lexeme :=
  [.keyword "new", .identifier "Dictionary", .sign '<', .keyword "string", .sign ',',
   .keyword "object", .sign '?', .sign '>', .sign '\x7b']

/-- An expression that hands values on: its style, and the names with the parameters. -/
def readArguments (l : List Lexeme) : Option (ArgumentStyle × List (Text × String)) :=
  match enclosed? objectOpening [.sign '\x7d'] l with
  | some inner => ((commaItems inner).mapM readMember).map (.anonymousObject, ·)
  | none =>
    match enclosed? dictionaryOpening [.sign '\x7d'] l with
    | some inner => ((commaItems inner).mapM readItem).map (.dictionary, ·)
    | none => none

/-! ### Methods -/

/-- A parameter of a method. -/
def readParameter : List Lexeme → Option String
  | [.keyword "object", .sign '?', .identifier parameter] => some parameter
  | _ => none

/-- The line that declares a method: its name and its parameters. -/
def readDeclaration (line : Text) : Option (String × List String) :=
  (lexemes? line).bind fun lexemes =>
    match enclosed? [.keyword "public", .keyword "static", .keyword "string"] [.sign ')'] lexemes with
    | some (.identifier method :: .sign '(' :: parameters) =>
      ((commaItems parameters).mapM readParameter).map (method, ·)
    | _ => none

/-- What stands in front of the arguments of the call. -/
def callOpening (o : ClassOptions) : Text :=
  "            return " ++ o.className ++ ".GetByKey("

/-- The line with the call: the constant that it names, and what it hands on. -/
def readCall (o : ClassOptions) (line : Text) :
    Option (String × Option (ArgumentStyle × List (Text × String))) :=
  (enclosed? (callOpening o) [] line).bind fun rest =>
    (lexemes? rest).bind fun lexemes =>
      match enclosed? [.identifier "Keys", .sign '.'] [.sign ')', .sign ';'] lexemes with
      | some [.identifier constant] => some (constant, none)
      | some (.identifier constant :: .sign ',' :: arguments) =>
        (readArguments arguments).map fun a => (constant, some a)
      | _ => none

/-- What a method declares and what it does. -/
structure ReadMethod where
  name : String
  parameters : List String
  constant : String
  arguments : Option (ArgumentStyle × List (Text × String))
  deriving DecidableEq, Repr

/-- An empty line or one of a comment. -/
def isCommentLine (line : Text) : Bool :=
  line.isEmpty || (ofString "        ///").isPrefixOf line

/-- The method whose declaration and body are these lines. -/
def readBody (o : ClassOptions) (declaration opening call closing : Text) : Option ReadMethod :=
  if opening = ofString "        \x7b" ∧ closing = ofString "        \x7d" then
    (readDeclaration declaration).bind fun d =>
      (readCall o call).map fun c => ⟨d.1, d.2, c.1, c.2⟩
  else none

/-- The method that some lines are, behind empty lines and comments. -/
def readMethod (o : ClassOptions) (lines : List Text) : Option ReadMethod :=
  match lines.dropWhile isCommentLine with
  | [declaration, opening, call, closing] => readBody o declaration opening call closing
  | _ => none

/-! ### Whole sources -/

/-- What begins a line that declares a constant. -/
def constantOpening : Text :=
  "            public const string "

/-- What begins a line that declares the method of an entry. -/
def methodOpening : Text :=
  "        public static string "

/-- What begins the line that refers to a method for an example. -/
def remarkOpening : Text :=
  "        /// <remarks>You should usually use a strongly-typed method like <see cref=\""

/-- What ends that line. -/
def remarkClosing : Text :=
  "\" /> instead.</remarks>"

/-- A line that declares a constant: its name and its value. -/
def readConstant (line : Text) : Option (String × Text) :=
  (enclosed? constantOpening [] line).bind fun rest =>
    match lexemes? rest with
    | some [.identifier name, .sign '=', .literal value, .sign ';'] => some (name, value)
    | _ => none

/-- The constants that some lines declare. -/
def constantsOf (lines : List Text) : List (Option (String × Text)) :=
  (lines.filter constantOpening.isPrefixOf).map readConstant

/-- The method whose declaration stands in front of some lines: the first three are its body. -/
def readBefore (o : ClassOptions) (declaration : Text) : List Text → Option ReadMethod
  | opening :: call :: closing :: _ => readBody o declaration opening call closing
  | _ => none

/-- The methods that some lines declare. -/
def methodsOf (o : ClassOptions) : List Text → List (Option ReadMethod)
  | [] => []
  | line :: rest =>
    if methodOpening.isPrefixOf line then readBefore o line rest :: methodsOf o rest
    else methodsOf o rest

/-- The methods that the remarks in some lines refer to. -/
def remarksOf (lines : List Text) : List (Option Text) :=
  (lines.filter remarkOpening.isPrefixOf).map (enclosed? remarkOpening remarkClosing)

end ClassSource

end Phrasebook
