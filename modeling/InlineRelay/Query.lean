import InlineRelay.Text.Blank

/-!
The pipe syntax of inline queries: `text | handle:selector | handle $`. A query without the
closing `$` is plain text.
-/
namespace InlineRelay

/-- One leg of a query: the bot to ask and how to pick from its results. -/
structure Stage where
  /-- As written, such as `@bold`. Empty for the bot itself. -/
  handle : String
  selector : String
  deriving DecidableEq, Repr

namespace Stage

/-- An empty handle addresses the bot itself. -/
def addressesSelf (s : Stage) : Bool := s.handle.isEmpty

/-- A trimmed segment: the handle ends at the first colon, the selector is all that follows. -/
def ofSegment (cs : List Char) : Stage :=
  match cs.dropWhile (· ≠ ':') with
  | [] => ⟨String.ofList cs, ""⟩
  | _ :: selector =>
    ⟨String.ofList (Text.trimEnd (cs.takeWhile (· ≠ ':'))), String.ofList selector⟩

def render (s : Stage) : List Char := s.handle.toList ++ ':' :: s.selector.toList

end Stage

/-- A query split into its leading text and its stages. -/
structure Query where
  text : String
  stages : List Stage
  deriving DecidableEq, Repr

namespace Query

def isPiped (q : Query) : Bool := !q.stages.isEmpty

/-- What stands before the closing `$`, which only blanks may follow. -/
def beforeEnd? (cs : List Char) : Option (List Char) :=
  match cs.reverse.dropWhile Text.isBlank with
  | '$' :: before => some before.reverse
  | _ => none

/-- Cut a text at every bar. -/
def segments : List Char → List Char × List (List Char)
  | [] => ([], [])
  | c :: cs =>
    let r := segments cs
    if c = '|' then ([], r.1 :: r.2) else (c :: r.1, r.2)

def parse (raw : String) : Query :=
  match beforeEnd? raw.toList with
  | none => ⟨raw, []⟩
  | some content =>
    let (text, rest) := segments content
    ⟨String.ofList (Text.trim text), rest.map fun s => Stage.ofSegment (Text.trim s)⟩

/-- The query as one would type it. -/
def render (q : Query) : String :=
  String.ofList
    (q.text.toList ++ q.stages.flatMap (fun s => ' ' :: '|' :: ' ' :: s.render) ++ [' ', '$'])

end Query

end InlineRelay
