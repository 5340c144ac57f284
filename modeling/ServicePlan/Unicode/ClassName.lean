import ServicePlan.Unicode.Category
import ServicePlan.Unicode.Folding
import ServicePlan.Unicode.Property
import ServicePlan.Unicode.Script

/-!
# Classes of characters

A class of characters is named by a property, a category or a script, or by one of these kinds with
a value.  Case, blanks, lines and hyphens in names do not matter, nor does the word "is" in front.

* `Unicode.ClassName`: names of classes, and `ClassName.set?`: the code points of a class.
* `Unicode.digits`, `Unicode.blanks`, `Unicode.wordChars`: the classes with names of their own.
-/

namespace ServicePlan.Unicode

/-- The name of a class of characters. -/
structure ClassName where
  /-- The name of a property, a category or a script, or of a kind of class. -/
  name : String
  /-- The class among those of its kind. -/
  value : Option String
  deriving DecidableEq, Repr

/-- A name in lower case, without characters that do not matter. -/
def plainName (name : String) : String :=
  let isFiller (c : Char) : Bool := c == ' ' || c == '_' || c == '-' || 127 < c.toNat
  let letters := name.toList.map Char.toLower
  let start := ['i', 's'].isPrefixOf letters
  let rest := (if start then letters.drop 2 else letters).filter (!isFiller ·)
  if start && rest == ['c'] then "isc" else String.ofList rest

/-- Short names of categories that are short names of properties as well. -/
def categoriesOnly : List String := ["cf", "lc", "sc"]

/-- Whether a name is that of no class because no character belongs to it. -/
def isSurrogate (name : String) : Bool := name = "cs" ∨ name = "surrogate"

/-- The code points of a category. -/
def knownCategory? (name : String) : Option CodeSet :=
  if isSurrogate name then none else category? name

namespace ClassName

/-- The code points of a class, if the name is that of one. -/
def set? (n : ClassName) : Option CodeSet :=
  let name := plainName n.name
  match n.value.map plainName with
  | none =>
    (if categoriesOnly.contains name then none else property? name).or <|
      (knownCategory? name).or (script? name)
  | some value =>
    if name = "gc" ∨ name = "generalcategory" then knownCategory? value
    else if name = "sc" ∨ name = "script" then script? value
    else if name = "scx" ∨ name = "scriptextensions" then scriptExtensions? value
    else none

end ClassName

/-- The decimal digits of all scripts. -/
def digits : CodeSet := (category? "nd").getD .empty

/-- The blanks. -/
def blanks : CodeSet := (property? "whitespace").getD .empty

/-- The letters, and marks that belong to them. -/
def letters : CodeSet := (property? "alphabetic").getD .empty

/-- The numbers. -/
def numbers : CodeSet := (category? "n").getD .empty

/-- The characters of words. -/
def wordChars : CodeSet :=
  .unions <| [some letters, category? "m", category? "nd", category? "pc",
    property? "joincontrol"].filterMap id

/-- Whether a character can be part of a word. -/
def isWordChar (c : Char) : Bool := wordChars.contains c

end ServicePlan.Unicode
