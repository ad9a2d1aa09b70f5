import InlineRelay.Text.Blank
import InlineRelay.Unicode.CharSet

/-! The flags a pattern is read under, and what they let a pattern contain besides itself. -/
namespace InlineRelay.Pattern

structure Flags where
  ignoreCase : Bool
  multiLine : Bool
  /-- The dot takes line ends as well. -/
  dotAll : Bool
  /-- Classes and cases are those of all scripts, not of ASCII alone. -/
  unicode : Bool
  /-- Carriage returns end lines too. -/
  crlf : Bool
  /-- Blanks and comments do not count. -/
  verbose : Bool
  deriving DecidableEq, Repr

namespace Flags

def standard : Flags := ⟨false, false, false, true, false, false⟩

/-- Set the flag of a letter. `U` swaps which repetitions are greedy: no change to what matches. -/
def set? (f : Flags) (letter : Char) (value : Bool) : Option Flags :=
  match letter with
  | 'i' => some { f with ignoreCase := value }
  | 'm' => some { f with multiLine := value }
  | 's' => some { f with dotAll := value }
  | 'U' => some f
  | 'u' => some { f with unicode := value }
  | 'R' => some { f with crlf := value }
  | 'x' => some { f with verbose := value }
  | _ => none

/-- Flags as written inside a group, up to the colon or parenthesis that ends them; those after
a hyphen are cleared. No letter stands twice, and a hyphen does not stand last. -/
def change? (f : Flags) (value : Bool) (seen : List Char) :
    List Char → Option (Flags × List Char × List Char)
  | [] => none
  | c :: cs =>
    if c = ':' ∨ c = ')' then
      if seen.head? = some '-' then none else some (f, seen, c :: cs)
    else if c ∈ seen then none
    else if c = '-' then f.change? false ('-' :: seen) cs
    else match f.set? c value with
      | some g => g.change? value (c :: seen) cs
      | none => none

/-- The set with every case of its letters, if case does not count. -/
def cases (f : Flags) (chars : Unicode.CharSet) : Unicode.CharSet :=
  if f.ignoreCase then
    if f.unicode then .folded chars
    else
      let ascii := .range '\x00' '\x7F'
      .union chars (.inter (.folded (.inter chars ascii)) ascii)
  else chars

/-- What is left after blanks and comments; a comment goes from `#` to the end of its line. -/
def skipping (inComment : Bool) : List Char → List Char
  | [] => []
  | c :: cs =>
    if inComment then skipping (c ≠ '\n') cs
    else if Text.isBlank c then skipping false cs
    else if c = '#' then skipping true cs
    else c :: cs

def skip (f : Flags) (cs : List Char) : List Char :=
  if f.verbose then skipping false cs else cs

/-- What stands before the next closing brace, and what follows the brace. -/
def braced (f : Flags) (inComment : Bool) : List Char → Option (List Char × List Char)
  | [] => none
  | c :: cs =>
    if f.verbose && inComment then f.braced (c ≠ '\n') cs
    else if f.verbose && Text.isBlank c then f.braced false cs
    else if f.verbose && c = '#' then f.braced true cs
    else if c = '\x7d' then some ([], cs)
    else (f.braced false cs).map fun (content, rest) => (c :: content, rest)

end Flags

end InlineRelay.Pattern
