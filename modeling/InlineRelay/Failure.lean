/-! Failures as an operator reads them: a text and the causes behind it. -/
namespace InlineRelay

/-- A failure and its causes, the nearest first. -/
structure Failure where
  message : String
  causes : List String
  deriving DecidableEq, Repr

namespace Failure

def ofText (message : String) : Failure := ⟨message, []⟩

/-- The same failure, seen from further out. -/
def within (context : String) (f : Failure) : Failure := ⟨context, f.message :: f.causes⟩

def chain (f : Failure) : List String := f.message :: f.causes

/-- A text with its further lines set in by `width` columns. -/
def hang (width : Nat) (text : String) : String :=
  String.ofList <| text.toList.flatMap fun c =>
    if c = '\n' then '\n' :: List.replicate width ' ' else [c]

/-- A number set right in `width` columns. -/
def column (width n : Nat) : String :=
  let digits := toString n
  String.ofList (List.replicate (width - digits.length) ' ') ++ digits

/-- The whole chain: causes on lines of their own, numbered if there are several. -/
def report (f : Failure) : String :=
  match f.causes with
  | [] => f.message
  | [cause] => f.message ++ "\n\nCaused by:\n    " ++ hang 4 cause
  | causes =>
    f.message ++ "\n\nCaused by:" ++ String.join
      (causes.zipIdx.map fun (cause, i) => "\n" ++ column 5 i ++ ": " ++ hang 7 cause)

end Failure

end InlineRelay
