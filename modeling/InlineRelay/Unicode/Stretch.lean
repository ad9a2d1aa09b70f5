/-!
Stretches of code points: how the character tables are written down and looked up.
A table is a text such as `41-5A 100-12E/2 1E9E`, hexadecimal, with a step of 2 where every
other code point belongs.
-/
namespace InlineRelay.Unicode

/-- The code points `first`, `first + step`, … up to `last`. -/
structure Stretch where
  first : Nat
  last : Nat
  step : Nat
  deriving DecidableEq, Repr

namespace Stretch

def contains (s : Stretch) (n : Nat) : Bool :=
  s.first ≤ n && n ≤ s.last && (n - s.first) % s.step == 0

def single (n : Nat) : Stretch := ⟨n, n, 1⟩

def range (first last : Nat) : Stretch := ⟨first, last, 1⟩

theorem contains_range {first last n : Nat} :
    (range first last).contains n = true ↔ first ≤ n ∧ n ≤ last := by
  simp only [contains, range, Nat.mod_one, BEq.rfl, Bool.and_true, Bool.and_eq_true]
  exact and_congr decide_eq_true_iff decide_eq_true_iff

theorem contains_single {m n : Nat} : (single m).contains n = true ↔ n = m :=
  contains_range.trans
    ⟨fun h => Nat.le_antisymm h.2 h.1, fun h => h ▸ ⟨Nat.le_refl _, Nat.le_refl _⟩⟩

end Stretch

/-- The value of a hexadecimal digit. -/
def hexDigit? (c : Char) : Option Nat :=
  if '0' ≤ c ∧ c ≤ '9' then some (c.toNat - '0'.toNat)
  else if 'a' ≤ c ∧ c ≤ 'f' then some (c.toNat - 'a'.toNat + 10)
  else if 'A' ≤ c ∧ c ≤ 'F' then some (c.toNat - 'A'.toNat + 10)
  else none

/-- The number a run of hexadecimal digits denotes. -/
def ofHex (cs : List Char) : Nat :=
  cs.foldl (fun n c => n * 16 + (hexDigit? c).getD 0) 0

/-- The words of a text, which blanks or line ends separate, after the beginning of one. -/
def wordsAfter (word : List Char) : List Char → List (List Char)
  | [] => if word.isEmpty then [] else [word.reverse]
  | c :: cs =>
    if c = ' ' ∨ c = '\n' then
      if word.isEmpty then wordsAfter [] cs else word.reverse :: wordsAfter [] cs
    else wordsAfter (c :: word) cs

def words (cs : List Char) : List (List Char) := wordsAfter [] cs

/-- One entry of a table, such as `AA`, `41-5A` or `100-12E/2`. -/
def Stretch.ofWord (cs : List Char) : Stretch :=
  let first := ofHex (cs.takeWhile (· ≠ '-'))
  match cs.dropWhile (· ≠ '-') with
  | [] => .single first
  | _ :: rest =>
    let last := ofHex (rest.takeWhile (· ≠ '/'))
    ⟨first, last, if rest.contains '/' then 2 else 1⟩

/-- A table from its text. -/
def table (text : String) : List Stretch := (words text.toList).map Stretch.ofWord

end InlineRelay.Unicode
