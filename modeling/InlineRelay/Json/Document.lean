import InlineRelay.Json.Basic
import InlineRelay.Unicode.Stretch

/-!
JSON texts as read. A document keeps what a decoder may still ask about: the order of members,
repeated keys, and the place where the text goes wrong, because a decoder that refuses an
earlier part never comes to it.
-/
namespace InlineRelay.Json

/-- How a text goes wrong: it breaks the grammar, or it ends too early. -/
inductive Fault
  | malformed
  | truncated
  deriving DecidableEq, Repr

inductive Doc
  | null
  | bool (b : Bool)
  | num (n : Number)
  | str (s : String)
  /-- `cut` is set where the list breaks off between items. -/
  | arr (items : List Doc) (cut : Option Fault)
  /-- A key without a name is a string that denotes no characters. -/
  | obj (members : List (Option String × Doc)) (cut : Option Fault)
  /-- A text of this form that has no value: a number too large, an unpaired surrogate, or
  containers nested too deep. It can be skipped. -/
  | spoilt (form : Doc)
  /-- The text goes wrong here: what one finds who reads the value, and who skips it. -/
  | broken (read skip : Fault)
  deriving Repr

instance : Inhabited Doc := ⟨.null⟩

namespace Doc

/-- The characters JSON allows between tokens. -/
def isGap (c : Char) : Bool := c = ' ' || c = '\n' || c = '\t' || c = '\r'

def skipGap (cs : List Char) : List Char := cs.dropWhile isGap

/-! ### Numbers -/

/-- Digits onto a significand below `2^64`; the digits from the first that does not fit are left
over. -/
def significand : Nat → List Char → Nat × List Char
  | s, [] => (s, [])
  | s, c :: cs =>
    let t := s * 10 + (c.toNat - '0'.toNat)
    if t < 0x10000000000000000 then significand t cs else (s, c :: cs)

/-- The number with these integer digits, fraction digits and exponent. Integer digits beyond the
significand scale it, fraction digits beyond it are dropped. -/
def numberOf (negative : Bool) (whole fraction : List Char) (power : Option Int) : Doc :=
  let (s, surplus) := significand 0 whole
  let decimal := fun n e =>
    match Double.ofDecimal? negative n e with
    | some d => Doc.num (.double d)
    | none => .spoilt .null
  if fraction.isEmpty && power.isNone && surplus.isEmpty then
    if negative then
      if s = 0 ∨ 0x8000000000000000 < s then decimal s 0 else .num (.int (-s))
    else .num (.int s)
  else
    let (t, dropped) := significand s fraction
    decimal t (surplus.length - (fraction.length - dropped.length : Nat) + power.getD 0)

/-- The exponent of a number, after its `e` and sign. -/
def powerOf (sign : Int) (ds : List Char) : Except Doc (Int × List Char) :=
  match ds with
  | [] => .error (.broken .truncated .malformed)
  | c :: _ =>
    if c.isDigit then
      let n := (ds.takeWhile Char.isDigit).foldl (fun n c => n * 10 + (c.toNat - '0'.toNat)) 0
      .ok (sign * n, ds.dropWhile Char.isDigit)
    else .error (.broken .malformed .malformed)

/-- The exponent of a number, after its `e`. -/
def readPower (cs : List Char) : Except Doc (Int × List Char) :=
  match cs with
  | '+' :: r => powerOf 1 r
  | '-' :: r => powerOf (-1) r
  | r => powerOf 1 r

/-- What follows the integer and fraction digits. -/
def readScaled (negative : Bool) (whole fraction rest : List Char) : Doc × Option (List Char) :=
  let finish := fun power rest => (numberOf negative whole fraction power, some rest)
  match rest with
  | c :: cs =>
    if c = 'e' ∨ c = 'E' then
      match readPower cs with
      | .ok (p, r) => finish (some p) r
      | .error d => (d, none)
    else finish none rest
  | [] => finish none []

/-- A number after its sign. -/
def readMagnitude (negative : Bool) (cs : List Char) : Doc × Option (List Char) :=
  let whole := cs.takeWhile Char.isDigit
  match whole, cs.dropWhile Char.isDigit with
  | [], [] => (.broken .truncated .malformed, none)
  | [], _ => (.broken .malformed .malformed, none)
  | '0' :: _ :: _, _ => (.broken .malformed .malformed, none)
  | _, '.' :: r =>
    let fraction := r.takeWhile Char.isDigit
    if fraction.isEmpty then
      (.broken (if r.isEmpty then .truncated else .malformed) .malformed, none)
    else readScaled negative whole fraction (r.dropWhile Char.isDigit)
  | _, rest => readScaled negative whole [] rest

/-! ### Strings -/

/-- The characters of a string up to its closing quote, nothing for a unit that is no character,
and the text after the quote. -/
structure Quoted where
  units : List (Option Char)
  rest : Except Fault (List Char)

namespace Quoted

def push (u : Option Char) (q : Quoted) : Quoted := ⟨u :: q.units, q.rest⟩

def fail (f : Fault) : Quoted := ⟨[], .error f⟩

def chars? (q : Quoted) : Option (List Char) := q.units.mapM id

end Quoted

/-- The value of four hexadecimal digits. -/
def hex4? (a b c d : Char) : Option Nat := do
  return ((← Unicode.hexDigit? a) * 16 + (← Unicode.hexDigit? b)) * 256 +
    ((← Unicode.hexDigit? c) * 16 + (← Unicode.hexDigit? d))

/-- Four bytes must follow `\u`, whatever they are, or the text counts as ended. -/
def hexFault (cs : List Char) : Fault :=
  if (String.ofList cs).utf8ByteSize < 4 then .truncated else .malformed

/-- The character a one-letter escape stands for. -/
def escaped? (c : Char) : Option Char :=
  if c = '"' ∨ c = '\\' ∨ c = '/' then some c
  else if c = 'b' then some '\x08'
  else if c = 'f' then some '\x0c'
  else if c = 'n' then some '\n'
  else if c = 'r' then some '\r'
  else if c = 't' then some '\t'
  else none

def isLead (n : Nat) : Bool := 0xD800 ≤ n && n < 0xDC00

def isTrail (n : Nat) : Bool := 0xDC00 ≤ n && n < 0xE000

/-- The rest of a string. -/
def readQuoted : List Char → Quoted
  | [] => .fail .truncated
  | '"' :: cs => ⟨[], .ok cs⟩
  | ['\\'] => .fail .truncated
  | '\\' :: 'u' :: a :: b :: c :: d :: cs =>
    match hex4? a b c d with
    | none => .fail .malformed
    | some n =>
      if isTrail n then (readQuoted cs).push none
      else if isLead n then
        match cs with
        | [] => .fail .truncated
        | ['\\'] => .fail .truncated
        | '\\' :: 'u' :: e :: f :: g :: h :: cs =>
          match hex4? e f g h with
          | none => .fail .malformed
          | some m =>
            if isTrail m then
              (readQuoted cs).push
                (some (Char.ofNat (0x10000 + (n - 0xD800) * 0x400 + (m - 0xDC00))))
            else (readQuoted cs).push none
        | '\\' :: 'u' :: cs => .fail (hexFault cs)
        | cs => (readQuoted cs).push none
      else (readQuoted cs).push (some (Char.ofNat n))
  | '\\' :: 'u' :: cs => .fail (hexFault cs)
  | '\\' :: c :: cs =>
    match escaped? c with
    | some c => (readQuoted cs).push (some c)
    | none => .fail .malformed
  | c :: cs => if c.toNat < 0x20 then .fail .malformed else (readQuoted cs).push (some c)

def readString (cs : List Char) : Doc × Option (List Char) :=
  let q := readQuoted cs
  match q.chars?, q.rest with
  | some s, .ok rest => (.str (String.ofList s), some rest)
  | none, .ok rest => (.spoilt (.str ""), some rest)
  | some _, .error f => (.broken f f, none)
  | none, .error f => (.broken .malformed f, none)

/-! ### Values -/

/-- The rest of a word such as `null` after its first letter. -/
def readWord (value : Doc) : List Char → List Char → Doc × Option (List Char)
  | [], cs => (value, some cs)
  | _ :: _, [] => (.broken .truncated .truncated, none)
  | w :: ws, c :: cs =>
    if c = w then readWord value ws cs else (.broken .malformed .malformed, none)

/-- A document may nest this many containers. -/
def nesting : Nat := 127

/-- What a list of items or members came to: its parts, where it broke off, the text after it. -/
structure Run (α : Type) where
  parts : List α
  cut : Option Fault
  rest : Option (List Char)

namespace Run

def closed {α : Type} (rest : List Char) : Run α := ⟨[], none, some rest⟩

def cutOff {α : Type} (f : Fault) : Run α := ⟨[], some f, none⟩

def cons {α : Type} (a : α) (r : Run α) : Run α := { r with parts := a :: r.parts }

end Run

mutual
/-- The value at the front of a text inside `depth` containers, and the text after it unless the
text goes wrong in it. -/
def readValue : Nat → Nat → List Char → Doc × Option (List Char)
  | 0, _, _ => (.broken .malformed .malformed, none)
  | fuel + 1, depth, cs =>
    let bound := fun (d : Doc) => if nesting ≤ depth then .spoilt d else d
    match skipGap cs with
    | [] => (.broken .truncated .truncated, none)
    | 'n' :: cs => readWord .null ['u', 'l', 'l'] cs
    | 't' :: cs => readWord (.bool true) ['r', 'u', 'e'] cs
    | 'f' :: cs => readWord (.bool false) ['a', 'l', 's', 'e'] cs
    | '-' :: cs => readMagnitude true cs
    | '"' :: cs => readString cs
    | '[' :: cs =>
      let r := match skipGap cs with
        | [] => Run.cutOff .truncated
        | ']' :: cs => Run.closed cs
        | cs => readItems fuel (depth + 1) cs
      (bound (.arr r.parts r.cut), r.rest)
    | '\x7b' :: cs =>
      let r := match skipGap cs with
        | '\x7d' :: cs => Run.closed cs
        | cs => readMembers fuel (depth + 1) cs
      (bound (.obj r.parts r.cut), r.rest)
    | c :: cs =>
      if c.isDigit then readMagnitude false (c :: cs) else (.broken .malformed .malformed, none)

/-- The items of an array from one of them on. -/
def readItems : Nat → Nat → List Char → Run Doc
  | 0, _, _ => Run.cutOff .malformed
  | fuel + 1, depth, cs =>
    match readValue fuel depth cs with
    | (d, none) => ⟨[d], none, none⟩
    | (d, some rest) =>
      .cons d <| match skipGap rest with
        | [] => Run.cutOff .truncated
        | ',' :: cs => readItems fuel depth cs
        | ']' :: cs => Run.closed cs
        | _ => Run.cutOff .malformed

/-- The members of an object from one of them on. -/
def readMembers : Nat → Nat → List Char → Run (Option String × Doc)
  | 0, _, _ => Run.cutOff .malformed
  | fuel + 1, depth, cs =>
    match skipGap cs with
    | [] => Run.cutOff .truncated
    | '"' :: cs =>
      let q := readQuoted cs
      let key := q.chars?.map String.ofList
      match q.rest with
      | .error f => if key.isSome then Run.cutOff f else ⟨[(none, .broken f f)], none, none⟩
      | .ok rest =>
        match skipGap rest with
        | [] => ⟨[(key, .broken .truncated .truncated)], none, none⟩
        | ':' :: cs =>
          match readValue fuel depth cs with
          | (d, none) => ⟨[(key, d)], none, none⟩
          | (d, some rest) =>
            .cons (key, d) <| match skipGap rest with
              | [] => Run.cutOff .truncated
              | ',' :: cs => readMembers fuel depth cs
              | '\x7d' :: cs => Run.closed cs
              | _ => Run.cutOff .malformed
        | _ => ⟨[(key, .broken .malformed .malformed)], none, none⟩
    | _ => Run.cutOff .malformed
end

/-- The value at the front of a text and the text after it. -/
def readPart (cs : List Char) : Doc × Option (List Char) := readValue (2 * cs.length + 2) 0 cs

/-! ### What a document holds -/

mutual
/-- The value as written, repeated keys and all, or the fault one comes to first. -/
def content : Doc → Except Fault Json
  | .null => .ok .null
  | .bool b => .ok (.bool b)
  | .num n => .ok (.num n)
  | .str s => .ok (.str s)
  | .arr items cut => do
    let vs ← contentItems items
    match cut with
    | none => .ok (.arr vs)
    | some f => .error f
  | .obj members cut => do
    let ms ← contentMembers members
    match cut with
    | none => .ok (.obj ms)
    | some f => .error f
  | .spoilt _ => .error .malformed
  | .broken f _ => .error f
def contentItems : List Doc → Except Fault (List Json)
  | [] => .ok []
  | d :: ds => do return (← content d) :: (← contentItems ds)
def contentMembers : List (Option String × Doc) → Except Fault (List (String × Json))
  | [] => .ok []
  | (none, _) :: _ => .error .malformed
  | (some k, d) :: ms => do return (k, ← content d) :: (← contentMembers ms)
end

mutual
/-- Pass over a value: only the grammar counts. -/
def skip : Doc → Except Fault Unit
  | .arr items cut => do
    skipItems items
    match cut with
    | none => .ok ()
    | some f => .error f
  | .obj members cut => do
    skipMembers members
    match cut with
    | none => .ok ()
    | some f => .error f
  | .spoilt d => skip d
  | .broken _ f => .error f
  | _ => .ok ()
def skipItems : List Doc → Except Fault Unit
  | [] => .ok ()
  | d :: ds => do skip d; skipItems ds
def skipMembers : List (Option String × Doc) → Except Fault Unit
  | [] => .ok ()
  | (_, d) :: ms => do skip d; skipMembers ms
end

end Doc

/-- The value of a text that holds one value and nothing else. -/
def ofText? (text : String) : Option Json :=
  match Doc.readPart text.toList with
  | (d, some rest) =>
    match Doc.content d with
    | .ok v => if (Doc.skipGap rest).isEmpty then some (canonical v) else none
    | .error _ => none
  | (_, none) => none

end InlineRelay.Json
