import InlineRelay.Json.Document
import InlineRelay.Text.Quoted

/-!
Decoding: from JSON to the types of this library. A decoder runs on a value at hand, on members
set aside until the tag of their record is known, and on a text as it is read; these differ only
in what is left unread and in a few errors.
-/
namespace InlineRelay

namespace Json

/-- What stands where something else was expected. -/
inductive Found
  | null
  | bool (b : Bool)
  | num (n : Number)
  | str (s : String)
  | sequence
  | map
  deriving DecidableEq, Repr

def Found.text : Found → String
  | .null => "null"
  | .bool true => "boolean `true`"
  | .bool false => "boolean `false`"
  | .num (.int i) => s!"integer `{i}`"
  | .num (.double d) => s!"floating point `{d.positional}`"
  | .str s => s!"string {Text.quoted s}"
  | .sequence => "sequence"
  | .map => "map"

/-- What a decoder expects. -/
inductive Shape
  | string
  | boolean
  | int32
  | int64
  | sequence
  | unit
  /-- The tag of a record. -/
  | tag
  /-- One word of a fixed list. -/
  | word
  | singleKey
  | record (title : String)
  | sizedRecord (title : String) (size : Nat)
  | taggedRecord (name : String)
  | fewerItems
  | items (count : Nat)
  deriving DecidableEq, Repr

def Shape.text : Shape → String
  | .string => "a string"
  | .boolean => "a boolean"
  | .int32 => "i32"
  | .int64 => "i64"
  | .sequence => "a sequence"
  | .unit => "unit"
  | .tag => "variant identifier"
  | .word => "string or map"
  | .singleKey => "map with a single key"
  | .record title => title
  | .sizedRecord title size =>
    s!"{title} with {size} element" ++ (if size = 1 then "" else "s")
  | .taggedRecord name => s!"internally tagged enum {name}"
  | .fewerItems => "fewer elements in array"
  | .items count => s!"{count} element" ++ (if count = 1 then "" else "s") ++ " in sequence"

end Json

/-- Why a value does not decode. -/
inductive DecodeError
  | unreadable (fault : Json.Fault)
  | wrongType (found : Json.Found) (expected : Json.Shape)
  | wrongValue (found : Json.Found) (expected : Json.Shape)
  | wrongLength (length : Nat) (expected : Json.Shape)
  | missingField (name : String)
  | duplicateField (name : String)
  | unknownWord (word : String) (known : List String)
  /-- A media result without a medium. -/
  | bareMedia (id : String)
  deriving DecidableEq, Repr

namespace DecodeError

/-- The words a decoder knows, as its error lists them. -/
def listed : List String → String
  | [] => "there are no variants"
  | [a] => s!"expected `{a}`"
  | [a, b] => s!"expected `{a}` or `{b}`"
  | as => "expected one of " ++ ", ".intercalate (as.map fun a => s!"`{a}`")

def message : DecodeError → String
  | .unreadable .malformed => "malformed text"
  | .unreadable .truncated => "text ends too early"
  | .wrongType found expected => s!"invalid type: {found.text}, expected {expected.text}"
  | .wrongValue found expected => s!"invalid value: {found.text}, expected {expected.text}"
  | .wrongLength n expected => s!"invalid length {n}, expected {expected.text}"
  | .missingField name => s!"missing field `{name}`"
  | .duplicateField name => s!"duplicate field `{name}`"
  | .unknownWord word known => s!"unknown variant `{word}`, {listed known}"
  | .bareMedia id => s!"media result {id} carries neither photo, document nor game"

end DecodeError

namespace Json

abbrev Decoded := Except DecodeError

/-- One level of a value. `cut` tells where a text goes wrong after the parts listed. -/
inductive View (τ : Type)
  | null
  | bool (b : Bool)
  | num (n : Number)
  | str (s : String)
  | arr (items : List τ) (cut : Option Fault)
  | obj (members : List (String × τ)) (cut : Option Fault)
  | broken (fault : Fault)

/-- What decoders read from. -/
class Source (τ : Type) where
  view : τ → View τ
  /-- All of it, as written. -/
  content : τ → Decoded Json
  /-- Pass over it. -/
  skip : τ → Decoded Unit
  /-- The error where an array of `count` items has more than the `taken` a record has. -/
  surplus (taken count : Nat) : DecodeError
  /-- The error where neither a string nor an object stands for a word. -/
  noWord : Found → DecodeError
  /-- Whether an object without members will do for null beside a word. -/
  emptyIsNull : Bool

/-- Members set aside until the tag of their record is known. -/
structure Aside where
  value : Json

instance : Source Json where
  view
    | .null => .null
    | .bool b => .bool b
    | .num n => .num n
    | .str s => .str s
    | .arr items => .arr items none
    | .obj ms => .obj ms none
  content := .ok
  skip _ := .ok ()
  surplus _ count := .wrongLength count .fewerItems
  noWord found := .wrongType found .word
  emptyIsNull := false

instance : Source Aside where
  view v := match v.value with
    | .null => .null
    | .bool b => .bool b
    | .num n => .num n
    | .str s => .str s
    | .arr items => .arr (items.map Aside.mk) none
    | .obj ms => .obj (ms.map fun m => (m.1, ⟨m.2⟩)) none
  content v := .ok v.value
  skip _ := .ok ()
  surplus taken count := .wrongLength count (.items taken)
  noWord found := .wrongType found .word
  emptyIsNull := true

/-- Members up to the first key without a name, which is where a reader stops. -/
def Doc.legible : List (Option String × Doc) → Option Fault → List (String × Doc) × Option Fault
  | [], cut => ([], cut)
  | (none, _) :: _, _ => ([], some .malformed)
  | (some k, d) :: ms, cut => ((k, d) :: (legible ms cut).1, (legible ms cut).2)

instance : Source Doc where
  view
    | .null => .null
    | .bool b => .bool b
    | .num n => .num n
    | .str s => .str s
    | .arr items cut => .arr items cut
    | .obj ms cut => .obj (Doc.legible ms cut).1 (Doc.legible ms cut).2
    | .spoilt (.arr _ _) => .arr [] (some .malformed)
    | .spoilt (.obj _ _) => .obj [] (some .malformed)
    | .spoilt _ => .broken .malformed
    | .broken f _ => .broken f
  content d := (Doc.content d).mapError .unreadable
  skip d := (Doc.skip d).mapError .unreadable
  surplus _ _ := .unreadable .malformed
  noWord _ := .unreadable .malformed
  emptyIsNull := false

/-- The error where a value of another shape was expected. -/
def View.mismatch {τ : Type} (expected : Shape) : View τ → DecodeError
  | .null => .wrongType .null expected
  | .bool b => .wrongType (.bool b) expected
  | .num n => .wrongType (.num n) expected
  | .str s => .wrongType (.str s) expected
  | .arr _ _ => .wrongType .sequence expected
  | .obj _ _ => .wrongType .map expected
  | .broken f => .unreadable f

/-- Where the text goes wrong here, it cannot be decoded. -/
def intact : Option Fault → Decoded Unit
  | none => .ok ()
  | some f => .error (.unreadable f)

section Decoders
variable {τ α : Type} [Source τ]

def string (v : τ) : Decoded String :=
  match Source.view v with
  | .str s => .ok s
  | w => .error (w.mismatch .string)

def boolean (v : τ) : Decoded Bool :=
  match Source.view v with
  | .bool b => .ok b
  | w => .error (w.mismatch .boolean)

def integer (least greatest : Int) (shape : Shape) (v : τ) : Decoded Int :=
  match Source.view v with
  | .num (.int i) =>
    if least ≤ i ∧ i ≤ greatest then .ok i else .error (.wrongValue (.num (.int i)) shape)
  | w => .error (w.mismatch shape)

def int32 (v : τ) : Decoded Int := integer (-0x80000000) 0x7FFFFFFF .int32 v

def int64 (v : τ) : Decoded Int := integer (-0x8000000000000000) 0x7FFFFFFFFFFFFFFF .int64 v

/-- Any value, to be passed on. -/
def anything (v : τ) : Decoded Json := do
  return (← Source.content v).canonical

/-- Null stands for nothing. -/
def nullable (read : τ → Decoded α) (v : τ) : Decoded (Option α) :=
  match Source.view v with
  | .null => .ok none
  | _ => do return some (← read v)

def list (read : τ → Decoded α) (v : τ) : Decoded (List α) :=
  match Source.view v with
  | .arr items cut => do
    let xs ← items.mapM read
    intact cut
    return xs
  | w => .error (w.mismatch .sequence)

/-- The meaning of a word. -/
def meaning (words : List (String × α)) (w : String) : Decoded α :=
  match words.lookup w with
  | some a => .ok a
  | none => .error (.unknownWord w (words.map (·.1)))

/-- Null, which is what a word has beside it. -/
def unit (v : τ) : Decoded Unit :=
  match Source.view v with
  | .null => .ok ()
  | .obj [] none => if Source.emptyIsNull τ then .ok () else .error (.wrongType .map .unit)
  | w => .error (w.mismatch .unit)

/-- One of a list of words; an object with the word as its only key and null under it will do. -/
def word (words : List (String × α)) (v : τ) : Decoded α :=
  match Source.view v with
  | .str s => meaning words s
  | .obj [(k, x)] none => do
    let a ← meaning words k
    unit x
    return a
  | .obj _ (some f) => .error (.unreadable f)
  | .obj _ none => .error (.wrongValue .map .singleKey)
  | .null => .error (Source.noWord τ .null)
  | .bool b => .error (Source.noWord τ (.bool b))
  | .num n => .error (Source.noWord τ (.num n))
  | .arr _ _ => .error (Source.noWord τ .sequence)
  | .broken f => .error (.unreadable f)

end Decoders

/-- Decode the value at the front of a text. -/
def decodeFront {α : Type} (read : Doc → Decoded α) (text : String) : Decoded α :=
  read (Doc.readPart text.toList).1

/-- Decode a text that holds one value and nothing else. -/
def decodeText {α : Type} (read : Doc → Decoded α) (text : String) : Decoded α := do
  let (d, rest) := Doc.readPart text.toList
  let a ← read d
  match rest with
  | some cs => if (Doc.skipGap cs).isEmpty then return a else .error (.unreadable .malformed)
  | none => .error (.unreadable .malformed)

end Json

end InlineRelay
