import InlineRelay.Text.Utf8
import InlineRelay.Unicode.Stretch

/-!
Hosts of web addresses: names in lower case, and IP addresses in the form that all their spellings
share. Names beyond ASCII, which take the tables of international names, are not read.
-/
namespace InlineRelay.Http

/-- What stands between separators. -/
def segments (isSeparator : Char → Bool) : List Char → List (List Char)
  | [] => [[]]
  | c :: cs =>
    if isSeparator c then [] :: segments isSeparator cs
    else match segments isSeparator cs with
      | s :: ss => (c :: s) :: ss
      | [] => [[c]]

namespace Host

/-- The number that digits denote. -/
def number? (base : Nat) (cs : List Char) : Option Nat :=
  cs.foldlM (fun n c => do
    let d ← Unicode.hexDigit? c
    if d < base then some (n * base + d) else none) 0

/-! ### Addresses of 32 bits -/

/-- A part of such an address: in hexadecimal, in octal or in decimal. -/
def part? : List Char → Option Nat
  | [] => none
  | '0' :: 'x' :: cs => number? 16 cs
  | '0' :: c :: cs => number? 8 (c :: cs)
  | cs => number? 10 cs

/-- The labels of a name. A point at its end does not count. -/
def labels (name : List Char) : List (List Char) :=
  let ls := segments (· = '.') name
  if 1 < ls.length ∧ ls.getLast? = some [] then ls.dropLast else ls

/-- A name that ends in a number has to be an address. -/
def endsInNumber (name : List Char) : Bool :=
  (labels name).getLast?.any fun l => (!l.isEmpty && l.all Char.isDigit) || (part? l).isSome

/-- The address of these parts; the last one fills what the others leave. -/
def join? (ns : List Nat) : Option Nat :=
  let front := ns.dropLast
  let room := Nat.pow 256 (4 - front.length)
  let last := ns.getLast?.getD 0
  if front.length < 4 ∧ front.all (· < 256) ∧ last < room then
    some (front.foldl (fun n k => n * 256 + k) 0 * room + last)
  else none

def dotted (n : Nat) : List Char :=
  ['.'].intercalate <| [n / 0x1000000, n / 0x10000 % 256, n / 256 % 256, n % 256].map fun k =>
    Nat.toDigits 10 k

/-! ### Addresses of 128 bits -/

/-- Four octets in decimal, as an address of 128 bits may end in them. -/
def octet? (cs : List Char) : Option Nat := do
  let n ← number? 10 cs
  if n < 256 ∧ cs = Nat.toDigits 10 n then some n else none

def pieces? : List (List Char) → Option (List Nat)
  | [] => some []
  | [s] =>
    if '.' ∈ s then do
      match ← (segments (· = '.') s).mapM octet? with
      | [a, b, c, d] => some [a * 256 + b, c * 256 + d]
      | _ => none
    else do
      let n ← number? 16 s
      if s.isEmpty ∨ 4 < s.length then none else some [n]
  | s :: ss => do
    let n ← number? 16 s
    if s.isEmpty ∨ 4 < s.length then none else return n :: (← pieces? ss)

/-- What stands before and after the two colons that are put for zeros. -/
def splitZeros? : List Char → Option (List Char × List Char)
  | ':' :: ':' :: cs => some ([], cs)
  | c :: cs => (splitZeros? cs).map fun p => (c :: p.1, p.2)
  | [] => none

def eightPieces? (cs : List Char) : Option (List Nat) :=
  let side := fun (cs : List Char) => if cs.isEmpty then some [] else pieces? (segments (· = ':') cs)
  match splitZeros? cs with
  | none => do
    let ns ← side cs
    if ns.length = 8 then some ns else none
  | some (front, back) => do
    let ns ← side front
    let ms ← side back
    if ns.length + ms.length < 8 ∧ '.' ∉ front then
      some (ns ++ List.replicate (8 - ns.length - ms.length) 0 ++ ms)
    else none

/-- Hexadecimal pieces with colons, two for the first of the longest runs of several zeros. -/
def colons (ns : List Nat) : List Char :=
  let run := fun i => ((ns.drop i).takeWhile (· = 0)).length
  let longest := ((List.range 8).map run).foldl max 0
  let join := fun (ns : List Nat) => [':'].intercalate (ns.map (Nat.toDigits 16))
  match (List.range 8).find? fun i => run i = longest with
  | some i => if longest < 2 then join ns else
    join (ns.take i) ++ [':', ':'] ++ join (ns.drop (i + longest))
  | none => join ns

/-! ### Hosts -/

/-- The octets of a text in which some may be written with a percent sign. -/
def unescape : List Char → List UInt8
  | [] => []
  | '%' :: a :: b :: cs =>
    match Unicode.hexDigit? a, Unicode.hexDigit? b with
    | some m, some n => .ofNat (m * 16 + n) :: unescape cs
    | _, _ => 0x25 :: unescape (a :: b :: cs)
  | c :: cs => String.utf8EncodeChar c ++ unescape cs

/-- What may not stand in a name. -/
def isBarred (c : Char) : Bool :=
  c.toNat ≤ 0x20 || 0x7F ≤ c.toNat ||
    c ∈ ['%', '#', '/', ':', '<', '>', '?', '@', '[', '\\', ']', '^', '|']

/-- A host of the web. -/
def read? (cs : List Char) : Option (List Char) :=
  match cs with
  | '[' :: cs => do
    if cs.getLast? = some ']' then
      return '[' :: colons (← eightPieces? cs.dropLast) ++ [']']
    else none
  | cs => do
    let name := (← Text.ofOctets? (unescape cs)).toList.map Char.toLower
    if name.isEmpty || name.any isBarred then none
    else if endsInNumber name then return dotted (← join? (← (labels name).mapM part?))
    else return name

end Host

end InlineRelay.Http
