import InlineRelay.Json.Double

/-!
JSON values. Objects are lists of members; the ones this library builds have their keys in
order, each once.
-/
namespace InlineRelay

namespace Json

/-- Integers from `-2^63` to `2^64 - 1` are exact, all other numbers doubles. -/
inductive Number
  | int (i : Int)
  | double (d : Double)
  deriving DecidableEq, Repr

end Json

inductive Json
  | null
  | bool (b : Bool)
  | num (n : Json.Number)
  | str (s : String)
  | arr (items : List Json)
  | obj (members : List (String × Json))
  deriving Repr

namespace Json

instance : Inhabited Json := ⟨.null⟩

def int (i : Int) : Json := .num (.int i)

def isNull : Json → Bool
  | .null => true
  | _ => false

/-- Members of an object. -/
abbrev Fields := List (String × Json)

namespace Fields

def get? (fs : Fields) (key : String) : Option Json :=
  (fs.find? (·.1 == key)).map (·.2)

/-- Set a member, in its place by key order. -/
def insert (key : String) (value : Json) : Fields → Fields
  | [] => [(key, value)]
  | (k, v) :: fs =>
    if key < k then (key, value) :: (k, v) :: fs
    else if key = k then (key, value) :: fs
    else (k, v) :: insert key value fs

/-- Set all of `more` in turn. -/
def insertAll (fs more : Fields) : Fields :=
  more.foldl (fun acc m => insert m.1 m.2 acc) fs

/-- Keys in order, and of a repeated key the last value. -/
def ofMembers (ms : Fields) : Fields := insertAll [] ms

/-- Keys in order, each once. -/
def Sorted (fs : Fields) : Prop := fs.Pairwise (·.1 < ·.1)

/-- A member that is there and not null. -/
def present? (fs : Fields) (key : String) : Option Json :=
  (fs.get? key).filter (!·.isNull)

end Fields

/-- An object of these members. -/
def ofFields (ms : Fields) : Json := .obj (Fields.ofMembers ms)

/-- A record of its own members and the ones it only passes on; those win. -/
def ofRecord (own extra : Fields) : Json := .obj (Fields.insertAll (Fields.ofMembers own) extra)

mutual
/-- Keys in order, and of a repeated key the last value, at every level. -/
def canonical : Json → Json
  | .arr items => .arr (canonicalItems items)
  | .obj ms => .obj (Fields.ofMembers (canonicalMembers ms))
  | v => v
def canonicalItems : List Json → List Json
  | [] => []
  | v :: vs => canonical v :: canonicalItems vs
def canonicalMembers : List (String × Json) → List (String × Json)
  | [] => []
  | (k, v) :: ms => (k, canonical v) :: canonicalMembers ms
end

end Json

end InlineRelay
