import InlineRelay.Pattern.Basic

/-!
Searching a text. A pattern takes a set of places, where it may begin, to the set of places where
it may end; the sets are numbers, bit `i` for the place before character `i`. No step of this
depends on which of several ways to match is tried first.
-/
namespace InlineRelay.Pattern

/-- The places of a text, each by the characters before and after it. -/
def places : (before : Option Char) → List Char → List (Option Char × Option Char)
  | before, [] => [(before, none)]
  | before, c :: cs => (before, some c) :: places (some c) cs

/-- The set of the places with a property. -/
def placesWhere (holds : Option Char → Option Char → Bool) : List (Option Char × Option Char) → Nat
  | [] => 0
  | g :: gs => 2 * placesWhere holds gs + (holds g.1 g.2).toNat

/-- A leaf as it applies to one text. -/
structure Mask where
  /-- Whether a character is taken. -/
  takes : Bool
  /-- Where the leaf applies. -/
  places : Nat
  deriving DecidableEq, Repr

def Mask.step (m : Mask) (starts : Nat) : Nat :=
  if m.takes then (starts &&& m.places) <<< 1 else starts &&& m.places

def Atom.mask (gs : List (Option Char × Option Char)) : Atom → Mask
  | .char chars =>
    ⟨true, placesWhere (fun _ after => after.any fun c => chars.contains c.toNat) gs⟩
  | .anchor a => ⟨false, placesWhere a.holds gs⟩

/-- Apply `f` so many times, or until nothing changes any more. -/
def iterate (f : Nat → Nat) : Nat → Nat → Nat
  | 0, s => s
  | n + 1, s => let t := f s; if t = s then s else iterate f n t

/-- All that `f` reaches from `front` in so many rounds, added to what was reached already. -/
def spread (f : Nat → Nat) : (rounds front reached : Nat) → Nat
  | 0, _, reached => reached
  | n + 1, front, reached =>
    let all := reached ||| f front
    if all = reached then reached else spread f n (all ^^^ reached) all

/-- Where a match may end that begins at one of `starts`, in a text with `size` places. -/
def ends (size : Nat) : Pattern Mask → (starts : Nat) → Nat
  | empty, starts => starts
  | leaf m, starts => m.step starts
  | seq p q, starts => q.ends size (p.ends size starts)
  | alt p q, starts => p.ends size starts ||| q.ends size starts
  | repeated p least most, starts =>
    let first := iterate (p.ends size) least starts
    spread (p.ends size) ((most.map (· - least)).getD size) first first

/-- Whether a pattern matches somewhere in a text. -/
def occursIn (p : Pattern Atom) (text : List Char) : Bool :=
  let gs := places none text
  (p.map (Atom.mask gs)).ends gs.length (Nat.pow 2 gs.length - 1) != 0

end InlineRelay.Pattern
