import InlineRelay.Http.Host

/-!
Addresses in the form requests carry them: scheme and host in lower case, no port where the scheme
has it anyway, no dots as path segments, and other characters than plain ones as octets.
-/
namespace InlineRelay.Http

structure Address where
  text : String
  /-- With the port. Empty where no request can be made, which takes a scheme of the web. -/
  host : String
  path : String
  deriving DecidableEq, Repr

namespace Address

/-- The schemes that requests are made to. -/
def posted : List String := ["http", "https"]

/-- The schemes with hosts and ports of the same kind. -/
def webPorts : List (String × Nat) :=
  [("http", 80), ("https", 443), ("ws", 80), ("wss", 443), ("ftp", 21)]

def isScheme (cs : List Char) : Bool :=
  match cs with
  | c :: cs => c.isAlpha && cs.all fun c => c.isAlphanum || c = '+' || c = '-' || c = '.'
  | [] => false

/-- A host, and what stands after it. Colons between brackets are part of a host. -/
def splitPort : (inBrackets : Bool) → List Char → List Char × List Char
  | _, [] => ([], [])
  | inBrackets, c :: cs =>
    if c = ':' && !inBrackets then ([], c :: cs)
    else
      let (host, port) := splitPort (c = '[' || (inBrackets && c ≠ ']')) cs
      (c :: host, port)

/-- The port that is written after a host, unless it is left out or the one of the scheme. -/
def port? (scheme : Option Nat) : List Char → Option (List Char)
  | [] => some []
  | _ :: digits => do
    let n ← if digits.all Char.isDigit then Host.number? 10 digits else none
    if digits.isEmpty || scheme = some n then return []
    else if n < 0x10000 then return ':' :: Nat.toDigits 10 n
    else none

/-- A host with its port. Who asks is not part of it. -/
def authority? (host? : List Char → Option (List Char)) (scheme : Option Nat) (cs : List Char) :
    Option (List Char) := do
  let (host, port) := splitPort false (cs.reverse.takeWhile (· ≠ '@')).reverse
  return (← host? host) ++ (← port? scheme port)

def hexDigit (n : Nat) : Char := Char.ofNat (if n < 10 then '0'.toNat + n else 'A'.toNat + (n - 10))

def escapeOctet (b : UInt8) : List Char := ['%', hexDigit (b.toNat / 16), hexDigit (b.toNat % 16)]

/-- Characters not among the plain ones as octets. -/
def escape (special : List Char) (cs : List Char) : List Char :=
  cs.flatMap fun c =>
    if 0x20 < c.toNat ∧ c.toNat < 0x7F ∧ c ∉ special then [c]
    else (String.utf8EncodeChar c).flatMap escapeOctet

def inPath : List Char := ['"', '#', '<', '>', '?', '\x60', '\x7b', '\x7d']

def inQuery : List Char := ['"', '#', '<', '>', '\'']

/-- Segments that stand for the place itself or for the one above. -/
def isHere (segment : List Char) : Bool :=
  [".", "%2e"].contains (String.ofList (segment.map Char.toLower))

def isAbove (segment : List Char) : Bool :=
  ["..", ".%2e", "%2e.", "%2e%2e"].contains (String.ofList (segment.map Char.toLower))

/-- The segments of a path without dots, after those in `done`, the last one first. -/
def resolve (done : List (List Char)) : List (List Char) → List (List Char)
  | [] => done.reverse
  | [s] =>
    (if isAbove s then [] :: done.tail else if isHere s then [] :: done else s :: done).reverse
  | s :: ss =>
    resolve (if isAbove s then done.tail else if isHere s then done else s :: done) ss

/-- An address from its scheme, its host, and all that follows. -/
def ofParts (isSlash : Char → Bool) (scheme host rest : List Char) : Address :=
  let path := rest.takeWhile fun c => c ≠ '?' && c ≠ '#'
  let query := rest.dropWhile fun c => c ≠ '?' && c ≠ '#'
  let path := (resolve [] (segments isSlash (path.drop 1))).flatMap fun s => '/' :: escape inPath s
  let query := query.take 1 ++ escape inQuery (query.drop 1)
  ⟨String.ofList (scheme ++ [':', '/', '/'] ++ host ++ path ++ query),
    if posted.contains (String.ofList scheme) then String.ofList host else "", String.ofList path⟩

/-- A host of another scheme, which is taken as it is. -/
def anyHost? (cs : List Char) : Option (List Char) :=
  if cs.any fun c => Host.isBarred c && c ≠ '%' then none else some cs

/-- The address a text stands for, if it names its scheme. -/
def ofText? (text : String) : Option Address := do
  let isBlank := fun (c : Char) => c.toNat ≤ 0x20
  let cs := ((text.toList.dropWhile isBlank).reverse.dropWhile isBlank).reverse
  let cs := cs.filter fun c => c ≠ '\t' && c ≠ '\n' && c ≠ '\r'
  let scheme := cs.takeWhile (· ≠ ':')
  let rest ← (cs.dropWhile (· ≠ ':')).tail?
  if !isScheme scheme then none
  let scheme := scheme.map Char.toLower
  match webPorts.lookup (String.ofList scheme) with
  | some port =>
    let isSlash := fun c => c = '/' || c = '\\'
    let rest := rest.dropWhile isSlash
    let inHost := fun c => !isSlash c && c ≠ '?' && c ≠ '#'
    let host ← authority? Host.read? (some port) (rest.takeWhile inHost)
    return ofParts isSlash scheme host (rest.dropWhile inHost)
  | none =>
    match rest with
    | '/' :: '/' :: rest =>
      let inHost := fun c => c ≠ '/' && c ≠ '?' && c ≠ '#'
      let host ← authority? anyHost? none (rest.takeWhile inHost)
      return ofParts (· = '/') scheme host (rest.dropWhile inHost)
    | _ => return ⟨String.ofList (scheme ++ ':' :: rest), "", String.ofList rest⟩

end Address

end InlineRelay.Http
