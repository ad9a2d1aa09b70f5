import InlineRelay.Unicode.Age
import InlineRelay.Unicode.Property
import InlineRelay.Unicode.Script

/-!
Character properties by name. Names match loosely: case, spaces, hyphens, underscores and a
leading `is` do not count.
-/
namespace InlineRelay.Unicode

/-- What is left of a name to compare; `isc` alone keeps its `is`. -/
def looseName (cs : List Char) : List Char :=
  let squeeze := fun cs => cs.filterMap fun (c : Char) =>
    if c = ' ' ∨ c = '_' ∨ c = '-' ∨ 0x7F < c.toNat then none else some c.toLower
  match cs with
  | a :: b :: rest =>
    if a.toLower = 'i' ∧ b.toLower = 's' then
      if squeeze rest = ['c'] then ['i', 's', 'c'] else squeeze rest
    else squeeze cs
  | _ => squeeze cs

def Named.answersTo (names : List String) (key : List Char) : Bool :=
  names.any fun n => looseName n.toList == key

def findNamed? (entries : List Named) (key : List Char) : Option CharSet :=
  (entries.find? fun e => Named.answersTo e.names key).map (·.chars)

def findScript? (key : List Char) : Option Script :=
  Script.all.find? fun s => Named.answersTo s.names key

/-- The characters of a yes-or-no property, a general category or a script, in this order. -/
def property? (name : List Char) : Option CharSet :=
  let key := looseName name
  findNamed? Property.named key <|> findNamed? Category.named key <|>
    (findScript? key).map (·.chars)

/-- The characters for which the property `name` has the value `value`. -/
def propertyValue? (name value : List Char) : Option CharSet :=
  let key := looseName value
  let property := String.ofList (looseName name)
  if property = "gc" ∨ property = "generalcategory" then findNamed? Category.named key
  else if property = "sc" ∨ property = "script" then (findScript? key).map (·.chars)
  else if property = "scx" ∨ property = "scriptextensions" then (findScript? key).map (·.extended)
  else if property = "age" then findNamed? Age.named key
  else none

end InlineRelay.Unicode
