import InlineRelay.Pattern.Bracket

/-!
Reading a pattern. Groups nest, sequences bind closer than bars, and flags set inside a group hold
to its end. What cannot be matched in one pass over the text is not part of the language: there is
no looking around and no referring back.
-/
namespace InlineRelay.Pattern

/-- A part of a pattern as it was written. -/
structure Piece where
  pattern : Pattern Atom
  depth : Nat
  /-- Whether a repetition may follow; setting flags is nothing to repeat. -/
  repeatable : Bool

namespace Piece

def ofAtom (a : Atom) : Piece := ⟨.leaf a, 0, true⟩

/-- Several pieces as one, which nests one deeper; a single piece stays as it is. -/
def join (combine : List (Pattern Atom) → Pattern Atom) : List Piece → Piece
  | [p] => p
  | ps =>
    ⟨combine (ps.map (·.pattern)), if ps.isEmpty then 0 else (ps.map (·.depth)).foldl max 0 + 1,
      true⟩

def group (p : Piece) : Piece := ⟨p.pattern, p.depth + 1, true⟩

def times (p : Piece) (least : Nat) (most : Option Nat) : Piece :=
  ⟨p.pattern.repeating least most, p.depth + 1, true⟩

end Piece

/-- What has been read of a group: the branches before the last bar and the pieces since, each
list with the last one first. -/
structure Level where
  branches : List Piece
  pieces : List Piece

namespace Level

def empty : Level := ⟨[], []⟩

def push (l : Level) (p : Piece) : Level := { l with pieces := p :: l.pieces }

def branch (l : Level) : Piece := .join sequence l.pieces.reverse

def bar (l : Level) : Level := ⟨l.branch :: l.branches, []⟩

def close (l : Level) : Piece := .join choice (l.branch :: l.branches).reverse

/-- Repeat the last piece. -/
def times? (l : Level) (least : Nat) (most : Option Nat) : Option Level :=
  match l.pieces with
  | p :: ps => if p.repeatable then some { l with pieces := p.times least most :: ps } else none
  | [] => none

end Level

/-- How far reading has come. -/
structure Reader where
  level : Level
  /-- The groups around, each with the flags that hold again after the group inside it. -/
  outer : List (Level × Flags)
  flags : Flags
  /-- The names of groups so far. -/
  names : List (List Char)

namespace Reader

def start : Reader := ⟨.empty, [], .standard, []⟩

def push (r : Reader) (p : Piece) : Reader := { r with level := r.level.push p }

def enter (r : Reader) (flags : Flags) : Reader :=
  { r with level := .empty, outer := (r.level, r.flags) :: r.outer, flags }

def leave? (r : Reader) : Option Reader :=
  match r.outer with
  | (level, flags) :: outer => some { r with level := level.push r.level.close.group, outer, flags }
  | [] => none

def times? (r : Reader) (least : Nat) (most : Option Nat) : Option Reader :=
  (r.level.times? least most).map fun level => { r with level }

/-- The pattern, once no group is open, with its depth. -/
def finish? (r : Reader) : Option Piece :=
  if r.outer.isEmpty then some r.level.close else none

end Reader

def Flags.anchorStart (f : Flags) : Anchor := if f.multiLine then .lineStart f.crlf else .textStart

def Flags.anchorEnd (f : Flags) : Anchor := if f.multiLine then .lineEnd f.crlf else .textEnd

/-- What the dot takes. -/
def Flags.dot? (f : Flags) : Option Unicode.CharSet :=
  if !f.unicode then none
  else if f.dotAll then some .all
  else if f.crlf then some (.compl (.union (.single '\n') (.single '\r')))
  else some (.compl (.single '\n'))

/-- A primitive outside of a class. -/
def Flags.atom? (f : Flags) : Primitive → Option Atom
  | .literal c octet =>
    if octet && !f.unicode && 0x7F < c.toNat then none else some (.char (f.cases (.single c)))
  | .anchor a => some (.anchor a)
  | .chars chars => some (.char chars)

/-- A number in decimal of at most 32 bits; blanks around it do not count. -/
def count? (cs : List Char) : Option Nat :=
  let digits := Text.trim cs
  let n := digits.foldl (fun n c => n * 10 + (c.toNat - '0'.toNat)) 0
  if !digits.isEmpty && digits.all Char.isDigit && n < 0x100000000 then some n else none

/-- What braces after a piece say: `n`, `n,` or `n,m`. -/
def bounds? (content : List Char) : Option (Nat × Option Nat) := do
  let least ← count? (content.takeWhile (· ≠ ','))
  match content.dropWhile (· ≠ ',') with
  | [] => return (least, some least)
  | [_] => return (least, none)
  | _ :: cs =>
    let most ← count? cs
    if least ≤ most then return (least, some most) else none

/-- Without its question mark a repetition is greedy, which does not matter here. -/
def dropLazy : List Char → List Char
  | '?' :: cs => cs
  | cs => cs

/-- What a group's name may be made of. -/
def isNameChar (first : Bool) (c : Char) : Bool :=
  c = '_' || Unicode.Property.alphabetic.contains c.toNat ||
    (!first && (c = '.' || c = '[' || c = ']' || Unicode.Category.number.contains c.toNat))

/-- A group's name, up to its closing angle. -/
def groupName (first : Bool) : List Char → Option (List Char × List Char)
  | [] => none
  | c :: cs =>
    if c = '>' then some ([], cs)
    else if isNameChar first c then
      (groupName false cs).map fun (name, rest) => (c :: name, rest)
    else none

namespace Reader

/-- A group with a name. No two groups have the same. -/
def enterNamed (r : Reader) (cs : List Char) : Option (Reader × List Char) := do
  let (name, rest) ← groupName true cs
  if name.isEmpty || name ∈ r.names then none
  else return ({ r.enter r.flags with names := name :: r.names }, rest)

/-- What an opening parenthesis begins: a group, or a change of flags that holds from here on. -/
def openGroup (r : Reader) (cs : List Char) : Option (Reader × List Char) :=
  match r.flags.skip cs with
  | '?' :: '=' :: _ | '?' :: '!' :: _ | '?' :: '<' :: '=' :: _ | '?' :: '<' :: '!' :: _ => none
  | '?' :: 'P' :: '<' :: cs | '?' :: '<' :: cs => r.enterNamed cs
  | '?' :: cs =>
    match r.flags.change? true [] cs with
    | some (flags, _, ':' :: rest) => some (r.enter flags, rest)
    | some (flags, _ :: _, _ :: rest) =>
      some ({ r with flags, level := r.level.push ⟨.empty, 0, false⟩ }, rest)
    | _ => none
  | cs => some (r.enter r.flags, cs)

/-- Read what begins with `c`. -/
def read (r : Reader) (c : Char) (cs : List Char) : Option (Reader × List Char) := do
  match c with
  | '(' => r.openGroup cs
  | ')' => return (← r.leave?, cs)
  | '|' => return ({ r with level := r.level.bar }, cs)
  | '[' =>
    let (part, rest) ← bracketClass r.flags cs
    return (r.push ⟨.leaf (.char part.chars), part.depth, true⟩, rest)
  | '?' => return (← r.times? 0 (some 1), dropLazy cs)
  | '*' => return (← r.times? 0 none, dropLazy cs)
  | '+' => return (← r.times? 1 none, dropLazy cs)
  | '\x7b' =>
    let (content, rest) ← r.flags.braced false cs
    let (least, most) ← bounds? content
    return (← r.times? least most, dropLazy (r.flags.skip rest))
  | '.' => return (r.push (.ofAtom (.char (← r.flags.dot?))), cs)
  | '^' => return (r.push (.ofAtom (.anchor r.flags.anchorStart)), cs)
  | '$' => return (r.push (.ofAtom (.anchor r.flags.anchorEnd)), cs)
  | '\\' =>
    let (p, rest) ← escape r.flags cs
    return (r.push (.ofAtom (← r.flags.atom? p)), rest)
  | c => return (r.push (.ofAtom (← r.flags.atom? (.literal c false))), cs)

/-- Read to the end. Each round takes a character. -/
def readAll : (rounds : Nat) → Reader → List Char → Option Piece
  | 0, _, _ => none
  | n + 1, r, cs =>
    match r.flags.skip cs with
    | [] => r.finish?
    | c :: rest =>
      match r.read c rest with
      | some (r, rest) => readAll n r rest
      | none => none

end Reader

/-- Patterns do not nest deeper than this. -/
def depthLimit : Nat := 250

/-- The pattern a text stands for, if it is one and not too large. -/
def ofText? (cs : List Char) : Option (Pattern Atom) := do
  let p ← Reader.start.readAll (cs.length + 1) cs
  if p.depth ≤ depthLimit ∧ p.pattern.room ≤ roomLimit then return p.pattern else none

end InlineRelay.Pattern
