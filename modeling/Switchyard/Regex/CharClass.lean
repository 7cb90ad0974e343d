import Switchyard.Text.Category
import Switchyard.Text.Property
import Switchyard.Text.Script

/-!
# Named character classes

The classes that a regular expression can name: the short escapes such as `\d`, the bracketed ASCII
classes such as `[:alpha:]`, and the categories, scripts and properties of Unicode.
-/

namespace Switchyard.Regex

open Text

/-- The set of a one-letter class escape in lower case; `ascii` keeps to ASCII characters. -/
def escapeClass? (ascii : Bool) (c : Char) : Option Charset :=
  match c with
  | 'd' => some (if ascii then .ofTable "30-39" else Property.decimalDigit)
  | 's' => some (if ascii then .ofTable "9-D 20" else Property.whiteSpace)
  | 'w' => some (if ascii then .ofTable "30-39 41-5A 5F 61-7A" else Property.word)
  | _ => none

/-- The set of a bracketed ASCII class. -/
def asciiClass? (name : String) : Option Charset :=
  match name with
  | "alnum" => some (.ofTable "30-39 41-5A 61-7A")
  | "alpha" => some (.ofTable "41-5A 61-7A")
  | "ascii" => some (.ofTable "0-7F")
  | "blank" => some (.ofTable "9 20")
  | "cntrl" => some (.ofTable "0-1F 7F")
  | "digit" => some (.ofTable "30-39")
  | "graph" => some (.ofTable "21-7E")
  | "lower" => some (.ofTable "61-7A")
  | "print" => some (.ofTable "20-7E")
  | "punct" => some (.ofTable "21-2F 3A-40 5B-60 7B-7E")
  | "space" => some (.ofTable "9-D 20")
  | "upper" => some (.ofTable "41-5A")
  | "word" => some (.ofTable "30-39 41-5A 5F 61-7A")
  | "xdigit" => some (.ofTable "30-39 41-46 61-66")
  | _ => none

/-- A name as names are compared: ASCII letters in lower case, without blanks, underscores and
hyphens and without a leading `is`. The name `isc` is an alias of a property and stays. -/
def plainName (name : List Char) : String :=
  let isPrefixed := (name.take 2).map Char.toLower == ['i', 's']
  let rest := if isPrefixed then name.drop 2 else name
  let kept := (rest.filter fun c => c.toNat < 128 && c != ' ' && c != '_' && c != '-').map
    Char.toLower
  if isPrefixed && kept == ['c'] then "isc" else String.ofList kept

/-- The set of a property, category or script. Three short names are those of categories although
properties have them too. -/
def propertyClass? (name : List Char) : Option Charset :=
  let plain := plainName name
  let property := if ["cf", "sc", "lc"].contains plain then none else Property.byName? plain
  match property with
  | some set => some set
  | none =>
    match Category.byName? plain with
    | some set => some set
    | none => Script.byName? plain

/-- The set of a property that has a value. Only general categories and scripts are known; the
extensions of a script are read as the script. -/
def propertyValueClass? (property value : List Char) : Option Charset :=
  match plainName property with
  | "gc" | "generalcategory" => Category.byName? (plainName value)
  | "sc" | "script" | "scx" | "scriptextensions" => Script.byName? (plainName value)
  | _ => none

end Switchyard.Regex
