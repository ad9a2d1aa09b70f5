import InlineRelay.Json.Decode
import InlineRelay.Text.Utf8

/-!
JSON texts that come as octets. Octets that are part of no character are a fault, except that in a
string they are one only to who reads it: who skips the string passes over them.
-/
namespace InlineRelay.Json

/-- Where in a text one is. -/
inductive Setting
  | between
  | string
  /-- After a backslash in a string. -/
  | escape

/-- A surrogate that stands by itself, even after another one. A string that holds it can be skipped
but not read. -/
def unpaired : List Char := ['\\', 'u', 'd', 'c', '0', '0', '\\', 'u', 'd', 'c', '0', '0']

/-- A character that the grammar has no place for. -/
def stray : Char := '\uFFFD'

/-- A text with something in place of what are no characters that a reader goes wrong at as it does at
them. -/
def mend : Setting → List Text.Sign → List Char
  | _, [] => []
  | .between, .char c :: us => c :: mend (if c = '"' then .string else .between) us
  | .string, .char c :: us =>
    c :: mend (if c = '"' then .between else if c = '\\' then .escape else .string) us
  | .escape, .char c :: us => c :: mend .string us
  | .string, .octet _ :: us => unpaired ++ mend .string us
  | s, .octet _ :: us => stray :: mend s us

def textOf (octets : List UInt8) : String := String.ofList (mend .between (Text.signs 0 octets))

end InlineRelay.Json
