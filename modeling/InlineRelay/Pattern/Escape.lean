import InlineRelay.Pattern.Basic
import InlineRelay.Pattern.Flags
import InlineRelay.Unicode.Name

/-! Escapes: what a backslash and the characters after it stand for. -/
namespace InlineRelay.Pattern
open Unicode (CharSet)

/-- The smallest things patterns and bracketed classes are made of. -/
inductive Primitive
  /-- A character; `octet` if it was written as an octet of two digits. -/
  | literal (c : Char) (octet : Bool)
  | anchor (a : Anchor)
  | chars (chars : CharSet)
  deriving DecidableEq, Repr

/-- Classes of ASCII characters by their names. -/
def asciiClasses : List (String × CharSet) :=
  [("alnum", .ofText "30-39 41-5A 61-7A"), ("alpha", .ofText "41-5A 61-7A"),
   ("ascii", .ofText "0-7F"), ("blank", .ofText "9 20"), ("cntrl", .ofText "0-1F 7F"),
   ("digit", .ofText "30-39"), ("graph", .ofText "21-7E"), ("lower", .ofText "61-7A"),
   ("print", .ofText "20-7E"), ("punct", .ofText "21-2F 3A-40 5B-60 7B-7E"),
   ("space", .ofText "9-D 20"), ("upper", .ofText "41-5A"),
   ("word", .ofText "30-39 41-5A 5F 61-7A"), ("xdigit", .ofText "30-39 41-46 61-66")]

def asciiClass? (name : String) : Option CharSet := asciiClasses.lookup name

def asciiClass (name : String) : CharSet := (asciiClass? name).getD .empty

namespace Flags

/-- What counts as a letter of a word. -/
def word (f : Flags) : CharSet :=
  if f.unicode then Unicode.Property.word else asciiClass "word"

/-- The class a lower-case letter stands for. -/
def shorthand? (f : Flags) : Char → Option CharSet
  | 'd' => some (if f.unicode then Unicode.Category.decimalNumber else asciiClass "digit")
  | 's' => some (if f.unicode then Unicode.Property.whiteSpace else asciiClass "space")
  | 'w' => some f.word
  | _ => none

/-- The complement of a set. Octets above ASCII are no characters, so without `unicode` there
is none. -/
def complement? (f : Flags) (chars : CharSet) : Option CharSet :=
  if f.unicode then some (.compl chars) else none

/-- A set, or its complement; cases come before complements. -/
def signed? (f : Flags) (negated : Bool) (chars : CharSet) : Option CharSet :=
  if negated then f.complement? (f.cases chars) else some (f.cases chars)

/-- So many hexadecimal digits. -/
def hexDigits (f : Flags) : Nat → List Char → Option (List Char × List Char)
  | 0, cs => some ([], cs)
  | n + 1, cs =>
    match f.skip cs with
    | c :: rest =>
      if (Unicode.hexDigit? c).isSome then
        (f.hexDigits n rest).map fun (digits, rest) => (c :: digits, rest)
      else none
    | [] => none

end Flags

/-- The character of a code point in hexadecimal. -/
def charOfHex? (digits : List Char) : Option Char :=
  let n := Unicode.ofHex digits
  if digits.all (fun c => (Unicode.hexDigit? c).isSome) && n.isValidChar then some (.ofNat n)
  else none

/-- A code point in braces or as `digits` digits. -/
def codePoint (f : Flags) (digits : Nat) (cs : List Char) : Option (Primitive × List Char) :=
  match f.skip cs with
  | '\x7b' :: rest => do
    let (content, rest) ← f.braced false rest
    if content.isEmpty then none
    else return (.literal (← charOfHex? content) false, rest)
  | rest => do
    let (content, rest) ← f.hexDigits digits rest
    return (.literal (← charOfHex? content) (digits == 2), rest)

/-- Where a text begins with `part`, what stands before and after it. -/
def cutAt? (part : List Char) : List Char → Option (List Char × List Char)
  | [] => none
  | c :: cs =>
    if part.isPrefixOf (c :: cs) then some ([], (c :: cs).drop part.length)
    else (cutAt? part cs).map fun (before, after) => (c :: before, after)

/-- A property by name, or by name and value; `!=`, `:` and `=` all part the two. -/
def namedProperty? (content : List Char) : Option CharSet :=
  match cutAt? ['!', '='] content <|> cutAt? [':'] content <|> cutAt? ['='] content with
  | some (name, value) => Unicode.propertyValue? name value
  | none => Unicode.property? content

/-- A property in braces or as one letter. -/
def property (f : Flags) (negated : Bool) (cs : List Char) : Option (Primitive × List Char) := do
  let (name, rest) ← match f.skip cs with
    | [] | '\\' :: _ => none
    | '\x7b' :: rest => f.braced false rest
    | c :: rest => some ([c], rest)
  if f.unicode then return (.chars (← f.signed? negated (← namedProperty? name)), rest) else none

/-- Escapes for characters that are awkward to type. -/
def control? : Char → Option Char
  | 'a' => some '\x07'
  | 'f' => some '\x0C'
  | 't' => some '\t'
  | 'n' => some '\n'
  | 'r' => some '\r'
  | 'v' => some '\x0B'
  | _ => none

/-- Word edges by name. -/
def edge? (name : List Char) : Option Edge :=
  [("start", Edge.start), ("end", .finish), ("start-half", .startHalf), ("end-half", .finishHalf)]
    |>.lookup (String.ofList name)

/-- A word boundary. A name in braces may follow; braces that begin otherwise are something else. -/
def boundary (f : Flags) (cs : List Char) : Option (Primitive × List Char) :=
  let plain := some (.anchor (.edge .boundary f.word), cs)
  match cs with
  | '\x7b' :: rest =>
    match f.skip rest with
    | [] => none
    | c :: _ =>
      if c.isAlpha || c = '-' then do
        let (name, rest) ← f.braced false rest
        return (.anchor (.edge (← edge? name) f.word), rest)
      else plain
  | _ => plain

/-- What may stand after a backslash for itself. -/
def isEscapable (c : Char) : Bool :=
  c.toNat ≤ 0x7F && !c.isAlphanum && c ≠ '<' && c ≠ '>'

/-- What the characters after a backslash stand for. -/
def escape (f : Flags) : List Char → Option (Primitive × List Char)
  | [] => none
  | c :: cs =>
    if isEscapable c then some (.literal c false, cs)
    else match f.shorthand? c, f.shorthand? c.toLower, control? c with
      | some chars, _, _ => some (.chars chars, cs)
      | none, some chars, _ => (f.complement? chars).map fun chars => (.chars chars, cs)
      | none, none, some d => some (.literal d false, cs)
      | none, none, none =>
        match c with
        | 'x' => codePoint f 2 cs
        | 'u' => codePoint f 4 cs
        | 'U' => codePoint f 8 cs
        | 'p' => property f false cs
        | 'P' => property f true cs
        | 'A' => some (.anchor .textStart, cs)
        | 'z' => some (.anchor .textEnd, cs)
        | 'b' => boundary f cs
        | 'B' => some (.anchor (.edge .noBoundary f.word), cs)
        | '<' => some (.anchor (.edge .start f.word), cs)
        | '>' => some (.anchor (.edge .finish f.word), cs)
        | _ => none

end InlineRelay.Pattern
