import CausalPath.Unicode.Age
import CausalPath.Unicode.Break

/-!
# Sets by their names

A set of characters can be asked for by the name of a property, category or script, or by the name
of a property and one of its values. Names are compared loosely: case, blanks, bars and minus signs
do not count, and neither does `is` in front of a name.
-/

namespace CausalPath

namespace Unicode

/-- What counts in a name. `isc` stays whole, for it is not the category `c`. -/
def looseName (name : List Char) : String :=
  let counts (c : Char) : Bool := CharSet.ascii.contains c && !(c = ' ' || c = '_' || c = '-')
  let lower (cs : List Char) : String := String.ofList ((cs.filter counts).map Char.toLower)
  match name with
  | i :: s :: rest =>
    if i.toLower = 'i' ∧ s.toLower = 's' then
      if lower rest = "c" then "isc" else lower rest
    else
      lower name
  | _ => lower name

/-- The characters of a property, category or script, by its name. -/
def named? (name : List Char) : Option CharSet :=
  let name := looseName name
  (property? name).or ((category? name).or (script? name))

/-- The characters that have a value of a property, by the names of both. -/
def valued? (property value : List Char) : Option CharSet :=
  let value := looseName value
  match looseName property with
  | "gc" | "generalcategory" => category? value
  | "sc" | "script" => script? value
  | "scx" | "scriptextensions" => scriptExtension? value
  | "age" => age? value
  | "gcb" | "graphemeclusterbreak" => clusterBreak? value
  | "wb" | "wordbreak" => wordBreak? value
  | "sb" | "sentencebreak" => sentenceBreak? value
  | _ => none

end Unicode

end CausalPath
