import InlineRelay.Unicode.CharSet

/-!
Patterns: the texts they describe character by character, the places they ask for, and how much
room they take.
-/
namespace InlineRelay

/-- A pattern over leaves of any kind. -/
inductive Pattern (α : Type)
  /-- The empty text. -/
  | empty
  | leaf (a : α)
  | seq (p q : Pattern α)
  | alt (p q : Pattern α)
  /-- At least `least` times, and at most `most` times if that is given. -/
  | repeated (p : Pattern α) (least : Nat) (most : Option Nat)
  deriving DecidableEq, Repr

namespace Pattern

/-- Where a gap between characters stands to the words around it. -/
inductive Edge
  | boundary
  | noBoundary
  | start
  | finish
  | startHalf
  | finishHalf
  deriving DecidableEq, Repr

def Edge.holds (e : Edge) (before after : Bool) : Bool :=
  match e with
  | .boundary => before != after
  | .noBoundary => before == after
  | .start => !before && after
  | .finish => before && !after
  | .startHalf => !before
  | .finishHalf => !after

/-- What a pattern asks of a place in the text. -/
inductive Anchor
  | textStart
  | textEnd
  /-- Lines end with a line feed; with `crlf`, also with a carriage return or both together. -/
  | lineStart (crlf : Bool)
  | lineEnd (crlf : Bool)
  | edge (e : Edge) (word : Unicode.CharSet)
  deriving DecidableEq, Repr

/-- Whether the place between two characters, if they are there, is as asked. -/
def Anchor.holds : Anchor → (before after : Option Char) → Bool
  | .textStart, before, _ => before.isNone
  | .textEnd, _, after => after.isNone
  | .lineStart crlf, before, after =>
    before.isNone || before == some '\n' ||
      (crlf && before == some '\r' && after != some '\n')
  | .lineEnd crlf, before, after =>
    after.isNone || (crlf && after == some '\r') ||
      (after == some '\n' && !(crlf && before == some '\r'))
  | .edge e word, before, after =>
    let inWord := fun (c : Option Char) => c.any fun c => word.contains c.toNat
    e.holds (inWord before) (inWord after)

/-- The leaves of a pattern as it is read. -/
inductive Atom
  /-- One character of a set. -/
  | char (chars : Unicode.CharSet)
  | anchor (a : Anchor)
  deriving DecidableEq, Repr

variable {α β : Type}

def map (f : α → β) : Pattern α → Pattern β
  | empty => empty
  | leaf a => leaf (f a)
  | seq p q => seq (p.map f) (q.map f)
  | alt p q => alt (p.map f) (q.map f)
  | repeated p least most => repeated (p.map f) least most

def sequence : List (Pattern α) → Pattern α
  | [] => empty
  | [p] => p
  | p :: ps => seq p (sequence ps)

def choice : List (Pattern α) → Pattern α
  | [] => empty
  | [p] => p
  | p :: ps => alt p (choice ps)

/-- Whether a pattern takes no characters, whatever the text. -/
def isWeightless : Pattern Atom → Bool
  | empty | leaf (.anchor _) => true
  | leaf (.char _) => false
  | seq p q | alt p q => p.isWeightless && q.isWeightless
  | repeated p _ most => p.isWeightless || most == some 0

/-- Repetition; more than once changes nothing for a pattern that takes no characters. -/
def repeating (p : Pattern Atom) (least : Nat) (most : Option Nat) : Pattern Atom :=
  if p.isWeightless then repeated p (min least 1) (some ((most.map (min · 1)).getD 1))
  else repeated p least most

/-- The room a pattern takes once every repetition is written out, in octets. -/
def room : Pattern Atom → Nat
  | empty => 24
  | leaf (.anchor _) => 24
  | leaf (.char chars) => 24 + 64 * (chars.size - 1)
  | seq p q => p.room + q.room
  | alt p q => 24 + p.room + q.room
  | repeated p least none => 24 + max least 1 * p.room
  | repeated p least (some most) => 24 + least * p.room + (most - least) * (24 + p.room)

/-- Patterns take ten mebibytes at most. -/
def roomLimit : Nat := 10 * 0x100000

end Pattern

end InlineRelay
