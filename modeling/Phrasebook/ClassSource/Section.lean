import Phrasebook.ClassOptions
import Phrasebook.ClassSource.Bundle

/-!
# Sections of a generated class

Each section is a list of lines.  Only those of the keys and of the methods show what the locale
files hold, and their lines may have halves of characters in them.

* `headerLines`, `openLines`, `keyLines`, `initLines`, `accessorLines`, `lookupLines`,
  `closeLines` — the sections in the order in which they are written.
* `example?` — the entry that the comment of the lookup method points to.
-/

namespace Phrasebook

open Phrasebook.CSharp Phrasebook.Text

namespace ClassSource

/-- The directives in front of the class.  Dictionaries need one more namespace. -/
def headerLines (entries : List Entry) : List String :=
  ["#nullable enable",
   "using System;",
   "using System.CodeDom.Compiler;"]
  ++ (if entries.any (·.style == .dictionary) then ["using System.Collections.Generic;"] else [])
  ++ ["using System.Diagnostics.CodeAnalysis;",
      "using StardewModdingAPI;",
      ""]

/-- The beginning of the namespace and of the class, and its field. -/
def openLines (o : ClassOptions) : List String :=
  ["namespace " ++ o.namespaceName,
   "\x7b",
   "    /// <summary>Get translations from the mod's <c>i18n</c> folder.</summary>",
   "    /// <remarks>This is auto-generated from the <c>i18n/default.json</c> file when the "
     ++ "project is compiled.</remarks>",
   "    [GeneratedCode(\"TranslationClassBuilder\", \"1.0.0\")]",
   "    [SuppressMessage(\"ReSharper\", \"InconsistentNaming\", Justification = \"Deliberately "
     ++ "named for consistency and to match translation conventions.\")]",
   "    " ++ o.modifiers ++ " class " ++ o.className,
   "    \x7b",
   "        /*********",
   "        ** Fields",
   "        *********/",
   "        /// <summary>The mod's translation helper.</summary>",
   "        private static ITranslationHelper? Translations;",
   "",
   ""]

/-- The constant that holds the key of an entry. -/
def keyConstantLines (e : Entry) : List Text :=
  ["            /// <summary>The unique key for a translation equivalent to \"" ++ e.docText
     ++ "\".</summary>",
   "            public const string " ++ e.method ++ " = " ++ StringLiteral.encode e.key ++ ";"]

/-- The constants of all entries, with an empty line between two of them. -/
def keyConstantsLines : List Entry → List Text
  | [] => []
  | [e] => keyConstantLines e
  | e :: rest => keyConstantLines e ++ [] :: keyConstantsLines rest

/-- The nested class with one constant for each key. -/
def keyLines (entries : List Entry) : List Text :=
  plain
    ["        /*********",
     "        ** Accessors",
     "        *********/",
     "        /// <summary>A lookup of available translation keys.</summary>",
     "        [SuppressMessage(\"ReSharper\", \"MemberHidesStaticFromOuterClass\", Justification = "
       ++ "\"Using the same key is deliberate.\")]",
     "        public static class Keys",
     "        \x7b"]
  ++ keyConstantsLines entries
  ++ plain
    ["        \x7d",
     "",
     ""]

/-- The method that takes the helper. -/
def initLines (o : ClassOptions) : List String :=
  ["        /*********",
   "        ** Public methods",
   "        *********/",
   "        /// <summary>Construct an instance.</summary>",
   "        /// <param name=\"translations\">The mod's translation helper.</param>",
   "        public static void Init(ITranslationHelper translations)",
   "        \x7b",
   "            " ++ o.className ++ ".Translations = translations;",
   "        \x7d"]

/-- The comment on the parameter of a placeholder. -/
def parameterLine (p : Placeholder) : String :=
  "        /// <param name=\"" ++ unescaped p.parameter
    ++ "\">The value to inject for the <c>\x7b\x7b" ++ p.key ++ "\x7d\x7d</c> token.</param>"

/-- The parameters of a method. -/
def parameterList (placeholders : List Placeholder) : String :=
  join ", " (placeholders.map fun p => "object? " ++ p.parameter)

/-- The comment on the method of an entry. -/
def summaryLine (e : Entry) : Text :=
  "        /// <summary>Get a translation equivalent to \"" ++ e.docText ++ "\".</summary>"

/-- The call by which a method gets its translation. -/
def callLine (o : ClassOptions) (e : Entry) : Text :=
  "            return " ++ o.className ++ ".GetByKey(Keys." ++ e.method
    ++ (e.bundle?.elim [] ((", " : Text) ++ ·)) ++ ");"

/-- The method of an entry, after an empty line. -/
def accessorLines (o : ClassOptions) (e : Entry) : List Text :=
  [[], summaryLine e]
  ++ plain (e.placeholders.map parameterLine
    ++ ["        public static string " ++ e.method ++ "(" ++ parameterList e.placeholders ++ ")",
        "        \x7b"])
  ++ [callLine o e, "        \x7d"]

/-- The entry that the comment of the lookup method points to: the first one without
placeholders, or else the first one. -/
def example? (entries : List Entry) : Option Entry :=
  (entries.find? (·.placeholders.isEmpty)).or entries.head?

/-- The method that every other method calls. -/
def lookupLines (o : ClassOptions) (entries : List Entry) : List String :=
  ["",
   "        /// <summary>Get a translation by its key.</summary>",
   "        /// <param name=\"key\">The translation key.</param>",
   "        /// <param name=\"tokens\">An object containing token key/value pairs. This can be an "
     ++ "anonymous object (like <c>new \x7b value = 42, name = \"Cranberries\" \x7d</c>), a "
     ++ "dictionary, or a class instance.</param>"]
  ++ ((example? entries).map fun e =>
      "        /// <remarks>You should usually use a strongly-typed method like <see cref=\""
        ++ e.method ++ "\" /> instead.</remarks>").toList
  ++ ["        public static Translation GetByKey(string key, object? tokens = null)",
      "        \x7b",
      "            if (" ++ o.className ++ ".Translations == null)",
      "                throw new InvalidOperationException($\"You must call \x7bnameof("
        ++ o.className ++ ")\x7d.\x7bnameof(" ++ o.className
        ++ ".Init)\x7d from the mod's entry method before reading translations.\");",
      "",
      "            return " ++ o.className ++ ".Translations.Get(key, tokens);",
      "        \x7d"]

/-- The end of the class and of the namespace. -/
def closeLines : List String :=
  ["    \x7d",
   "\x7d"]

/-- All lines of the class. -/
def lines (o : ClassOptions) (entries : List Entry) : List Text :=
  plain (headerLines entries ++ openLines o) ++ keyLines entries ++ plain (initLines o)
    ++ entries.flatMap (accessorLines o) ++ plain (lookupLines o entries ++ closeLines)

/-- The source of the class; every line ends with LF. -/
def source (o : ClassOptions) (entries : List Entry) : Text :=
  unlines (lines o entries)

end ClassSource

end Phrasebook
