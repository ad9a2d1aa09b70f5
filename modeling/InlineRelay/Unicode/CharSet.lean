import InlineRelay.Unicode.Folding

/-! Sets of characters, written with the operations a character class has. -/
namespace InlineRelay.Unicode

inductive CharSet
  | stretches (s : List Stretch)
  | compl (a : CharSet)
  | union (a b : CharSet)
  | inter (a b : CharSet)
  | diff (a b : CharSet)
  | symmDiff (a b : CharSet)
  /-- With a letter, every letter of the same folding. -/
  | folded (a : CharSet)
  deriving DecidableEq, Repr

namespace CharSet

def contains : CharSet → Nat → Bool
  | .stretches s, n => s.any (·.contains n)
  | .compl a, n => !a.contains n
  | .union a b, n => a.contains n || b.contains n
  | .inter a b, n => a.contains n && b.contains n
  | .diff a b, n => a.contains n && !b.contains n
  | .symmDiff a b, n => a.contains n != b.contains n
  | .folded a, n => (orbit n).any fun k => a.contains k

def empty : CharSet := .stretches []

def all : CharSet := .compl .empty

def single (c : Char) : CharSet := .stretches [.single c.toNat]

def range (a b : Char) : CharSet := .stretches [.range a.toNat b.toNat]

def ofText (text : String) : CharSet := .stretches (table text)

def unions : List CharSet → CharSet
  | [] => .empty
  | [a] => a
  | a :: as => .union a (unions as)

/-- How many stretches the set is written with. -/
def size : CharSet → Nat
  | .stretches s => s.length
  | .compl a | .folded a => a.size + 1
  | .union a b | .inter a b | .diff a b | .symmDiff a b => a.size + b.size

theorem contains_single {c d : Char} : (single c).contains d.toNat = true ↔ d = c := by
  simp only [single, contains, List.any_cons, List.any_nil, Bool.or_false, Stretch.contains_single]
  exact ⟨fun h => Char.ext (UInt32.toNat_inj.1 h), fun h => h ▸ rfl⟩

end CharSet

/-- A set of characters under its names, the first the one it is best known by. -/
structure Named where
  names : List String
  chars : CharSet

end InlineRelay.Unicode
