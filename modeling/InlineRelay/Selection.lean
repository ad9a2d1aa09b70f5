import InlineRelay.Result.Candidate

/-!
Selectors. A numeral picks by position, an empty selector keeps everything, and any other is a
pattern over message texts, matched by a matcher handed in.
-/
namespace InlineRelay

/-- Patterns: what a selector compiles to, if it does, and which texts match. -/
structure Matcher where
  compile : String → Option (String → Bool)

inductive Selection
  /-- One result, picked by position or pattern. -/
  | one (candidate : Candidate)
  /-- All results, as they came. -/
  | all (candidates : List Candidate)
  /-- No result has the position asked for. -/
  | empty
  deriving Repr

namespace Selection

def toList : Selection → List Candidate
  | one c => [c]
  | all cs => cs
  | empty => []

/-- The text to hand to the next stage: a single result with a message has one. -/
def handOff? : Selection → Option String
  | one c => c.message?
  | all [c] => c.message?
  | _ => none

/-- Whether a selector is a numeral. -/
def isNumeral (selector : String) : Bool :=
  !selector.isEmpty && selector.toList.all Char.isDigit

/-- A number as a word of 64 bits, unless it is too large for one. -/
def word? (n : Nat) : Option UInt64 := if n < UInt64.size then some (.ofNat n) else none

/-- The word that digits denote, read one after another until it would outgrow 64 bits. -/
def readWord? (digits : List Char) : Option UInt64 :=
  digits.foldlM (fun n c => do
    let tens ← word? (n.toNat * 10)
    word? (tens.toNat + (c.toNat - '0'.toNat))) 0

/-- Where a position counted from one is in a list. -/
def index? (position : UInt64) : Option Nat :=
  if position = 0 then none else some (position - 1).toNat

/-- The result at the position that digits denote. -/
def nth (candidates : List Candidate) (digits : List Char) : Selection :=
  match readWord? digits >>= index? >>= fun i => candidates[i]? with
  | some c => one c
  | none => empty

/-- Take a result out of a list. The last one moves to its place. -/
def takeOut (candidates : List Candidate) (position : Fin candidates.length) :
    Candidate × List Candidate :=
  let last := candidates.getLast (List.ne_nil_of_length_pos position.pos)
  (candidates[position], (candidates.set position last).dropLast)

/-- The first result whose message matches, taken out of the list; all results if none does. -/
def firstMatch (candidates : List Candidate) (isMatch : String → Bool) : Selection :=
  match candidates.findFinIdx? fun c => c.message?.any isMatch with
  | some position => one (takeOut candidates position).1
  | none => all candidates

def select (matcher : Matcher) (candidates : List Candidate) (selector : String) : Selection :=
  if isNumeral selector then nth candidates selector.toList
  else if selector.isEmpty then all candidates
  else match matcher.compile selector with
    | some isMatch => firstMatch candidates isMatch
    | none => all candidates

end Selection

end InlineRelay
