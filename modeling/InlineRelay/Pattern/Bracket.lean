import InlineRelay.Pattern.Escape

/-!
Bracketed classes. Brackets nest, hold single characters, ranges, escapes and named classes, and
combine with `&&`, `--` and `~~`, which all group to the left.
-/
namespace InlineRelay.Pattern
open Unicode (CharSet)

/-- A part of a class and how deep it nests. -/
structure ClassPart where
  chars : CharSet
  depth : Nat

/-- The operators between the parts of a class. -/
inductive ClassOp
  | inter
  | diff
  | symmDiff
  deriving DecidableEq, Repr

def ClassOp.apply : ClassOp → CharSet → CharSet → CharSet
  | inter => .inter
  | diff => .diff
  | symmDiff => .symmDiff

def ClassOp.ofText? : List Char → Option (ClassOp × List Char)
  | '&' :: '&' :: cs => some (inter, cs)
  | '-' :: '-' :: cs => some (diff, cs)
  | '~' :: '~' :: cs => some (symmDiff, cs)
  | _ => none

/-- A class whose bracket is open. -/
structure Bracket where
  negated : Bool
  /-- Nothing but hyphens so far: another is taken as itself, as is a bracket right away. -/
  fresh : Bool
  /-- The left side of an operator. -/
  left : Option (ClassPart × ClassOp)
  /-- The parts since, the last one first. -/
  parts : List ClassPart

namespace Bracket

/-- The bracket just opened; a caret negates it. -/
def opened (f : Flags) (cs : List Char) : Bracket × List Char :=
  match f.skip cs with
  | '^' :: rest => (⟨true, true, none, []⟩, rest)
  | rest => (⟨false, true, none, []⟩, rest)

def push (b : Bracket) (p : ClassPart) : Bracket := { b with parts := p :: b.parts }

/-- The parts since the last operator as one. -/
def union (b : Bracket) : ClassPart :=
  match b.parts.reverse with
  | [p] => p
  | ps => ⟨.unions (ps.map (·.chars)), if ps.isEmpty then 0 else (ps.map (·.depth)).foldl max 0 + 1⟩

/-- All that was read as one part. -/
def content (f : Flags) (b : Bracket) : ClassPart :=
  let right := b.union
  match b.left with
  | none => right
  | some (left, op) =>
    ⟨op.apply (f.cases left.chars) (f.cases right.chars), max left.depth right.depth + 1⟩

def operate (f : Flags) (b : Bracket) (op : ClassOp) : Bracket :=
  { b with left := some (b.content f, op), parts := [] }

def close? (f : Flags) (b : Bracket) : Option ClassPart := do
  let content := b.content f
  return ⟨← f.signed? b.negated content.chars, content.depth + 1⟩

end Bracket

/-- A named class such as `[:alpha:]`, after its first bracket. -/
def namedClass? (cs : List Char) : Option (CharSet × Bool × List Char) := do
  let cs ← match cs with
    | ':' :: cs => some cs
    | _ => none
  let (negated, cs) := match cs with
    | '^' :: cs => (true, cs)
    | cs => (false, cs)
  match cs.dropWhile (· ≠ ':') with
  | ':' :: ']' :: rest =>
    return (← asciiClass? (String.ofList (cs.takeWhile (· ≠ ':'))), negated, rest)
  | _ => none

/-- A character a class may hold. -/
def Flags.member? (f : Flags) (c : Char) : Option Char :=
  if f.unicode || c.toNat ≤ 0x7F then some c else none

/-- What follows a hyphen, for a look ahead; of blanks and comments it skips less than `skip`. -/
def Flags.beyond (f : Flags) (cs : List Char) : Option Char :=
  if f.verbose then
    match cs.dropWhile Text.isBlank with
    | '#' :: rest => (rest.dropWhile Text.isBlank).head?
    | rest => rest.head?
  else cs.head?

/-- One primitive of a class, which may be any character as itself. -/
def classPrimitive (f : Flags) : List Char → Option (Primitive × List Char)
  | [] => none
  | '\\' :: cs => escape f cs
  | c :: cs => some (.literal c false, cs)

/-- A primitive, or a range between two. A hyphen before a bracket or a hyphen makes no range. -/
def classItem (f : Flags) (cs : List Char) : Option (ClassPart × List Char) := do
  let (first, rest) ← classPrimitive f cs
  match f.skip rest with
  | [] => none
  | c :: after =>
    if c = '-' ∧ f.beyond after ≠ some ']' ∧ f.beyond after ≠ some '-' then
      match first, ← classPrimitive f (f.skip after) with
      | .literal a _, (.literal b _, rest) =>
        let a ← f.member? a
        let b ← f.member? b
        if a ≤ b then return (⟨.range a b, 0⟩, rest) else none
      | _, _ => none
    else match first with
      | .literal a _ => return (⟨.single (← f.member? a), 0⟩, c :: after)
      | .chars chars => return (⟨chars, 0⟩, c :: after)
      | .anchor _ => none

/-- A class to its closing bracket, inside the brackets `outer`. Each round takes a character. -/
def classRest (f : Flags) : (rounds : Nat) → Bracket → (outer : List Bracket) → List Char →
    Option (ClassPart × List Char)
  | 0, _, _, _ => none
  | n + 1, b, outer, cs =>
    match f.skip cs with
    | [] => none
    | c :: rest =>
      let settled := { b with fresh := false }
      let itself : ClassPart := ⟨.single c, 0⟩
      if b.fresh ∧ c = '-' then classRest f n (b.push itself) outer rest
      else if b.fresh ∧ b.parts.isEmpty ∧ c = ']' then
        classRest f n (settled.push itself) outer rest
      else if c = ']' then
        match settled.close? f, outer with
        | none, _ => none
        | some part, [] => some (part, rest)
        | some part, b :: outer => classRest f n (b.push part) outer rest
      else if c = '[' then
        match namedClass? rest with
        | some (chars, negated, rest) =>
          match f.signed? negated chars with
          | some chars => classRest f n (settled.push ⟨chars, 0⟩) outer rest
          | none => none
        | none =>
          let (inner, rest) := Bracket.opened f rest
          classRest f n inner (settled :: outer) rest
      else match ClassOp.ofText? (c :: rest) with
        | some (op, rest) => classRest f n (settled.operate f op) outer rest
        | none =>
          match classItem f (c :: rest) with
          | some (part, rest) => classRest f n (settled.push part) outer rest
          | none => none

/-- A class after its opening bracket. -/
def bracketClass (f : Flags) (cs : List Char) : Option (ClassPart × List Char) :=
  let (b, rest) := Bracket.opened f cs
  classRest f (rest.length + 1) b [] rest

end InlineRelay.Pattern
