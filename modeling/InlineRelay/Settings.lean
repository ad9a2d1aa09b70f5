import InlineRelay.Failure
import InlineRelay.Result.Response
import InlineRelay.Text.Blank
import InlineRelay.Text.Quoted

/-!
Settings, from variables that are set and from a file of further ones. The port is checked first,
then every variable that has no default, in a fixed order.
-/
namespace InlineRelay

/-- Variables by name. Of several with a name the first counts. What they are set to are octets, which
may be no text. -/
abbrev Variables := List (String × List UInt8)

/-- Why a variable has no text. -/
inductive VariableError
  | unset
  | noText (octets : List UInt8)

def VariableError.message : VariableError → String
  | unset => "environment variable not found"
  | noText octets => s!"environment variable was not valid unicode: {Text.quotedOctets octets}"

namespace Variables

def ofTexts (vs : List (String × String)) : Variables := vs.map fun v => (v.1, Text.octets v.2)

/-- The text of a variable. -/
def read (vs : Variables) (name : String) : Except VariableError String :=
  match vs.lookup name with
  | none => .error .unset
  | some octets =>
    match Text.ofOctets? octets with
    | none => .error (.noText octets)
    | some text => .ok text

def get? (vs : Variables) (name : String) : Option String := (vs.read name).toOption

/-- Give a variable a text unless it has one. -/
def assign (vs : Variables) (name text : String) : Variables :=
  if (vs.get? name).isSome then vs else (name, Text.octets text) :: vs

/-- The parts that end at a separator; the last may end without one. -/
def split {α : Type} [DecidableEq α] (separator : α) : List α → List (List α)
  | [] => []
  | a :: as =>
    if a = separator then [] :: split separator as
    else match split separator as with
      | part :: parts => (a :: part) :: parts
      | [] => [[a]]

/-- The variables of a block: each a name, an equals sign and what it is set to, up to a zero. -/
def ofBlock (block : List UInt8) : Variables :=
  (split 0 block).filterMap fun entry => do
    let name ← Text.ofOctets? (entry.takeWhile (· ≠ 0x3D))
    let octets ← (entry.dropWhile (· ≠ 0x3D)).tail?
    return (name, octets)

/-! ### Files of variables

A line is empty, a comment, or a name, an equals sign and a value, with `export` before the name
at will. -/

def isNameStart (c : Char) : Bool := c.isAlpha || c = '_'

def isNameChar (c : Char) : Bool := c.isAlphanum || c = '_' || c = '.'

/-- A name at the front of a line. -/
def name? (cs : List Char) : Option (List Char × List Char) :=
  if cs.head?.any isNameStart then
    some (cs.takeWhile isNameChar, Text.trimStart (cs.dropWhile isNameChar))
  else none

/-- What an escaped character of a value stands for. -/
def escaped? (c : Char) : Option Char :=
  if c ∈ ['\\', '\'', '"', '$', ' '] then some c
  else if c = 'n' then some '\n'
  else none

/-- Where in a value one is. -/
inductive Place
  | bare
  | single
  | double
  | escape (inDouble : Bool)
  /-- In the name of another variable, to be put in its place. -/
  | reference (inDouble : Bool) (name : List Char)
  | bracedReference (inDouble : Bool) (name : List Char)
  /-- After the value: blanks or a comment. -/
  | after

def value? (vs : Variables) : Place → List Char → Option (List Char)
  | .bare, [] | .after, [] | .escape false, [] => some []
  | .reference false name, [] => some (((get? vs (String.ofList name)).getD "").toList)
  | _, [] => none
  | .after, c :: cs =>
    if c = ' ' ∨ c = '\t' then value? vs .after cs else if c = '#' then some [] else none
  | .escape inDouble, c :: cs => do
    return (← escaped? c) :: (← value? vs (if inDouble then .double else .bare) cs)
  | .single, c :: cs =>
    if c = '\'' then value? vs .bare cs else (value? vs .single cs).map (c :: ·)
  | .bracedReference inDouble name, c :: cs =>
    if c = '\x7d' then do
      let rest ← value? vs (if inDouble then .double else .bare) cs
      return ((get? vs (String.ofList name)).getD "").toList ++ rest
    else value? vs (.bracedReference inDouble (name ++ [c])) cs
  | .reference inDouble name, c :: cs =>
    if c.isAlphanum then value? vs (.reference inDouble (name ++ [c])) cs
    else if c = '\x7b' ∧ name.isEmpty then value? vs (.bracedReference inDouble []) cs
    else do
      let found := ((get? vs (String.ofList name)).getD "").toList
      if c = '$' then return found ++ (← value? vs (.reference inDouble []) cs)
      else return found ++ c :: (← value? vs (if inDouble then .double else .bare) cs)
  | .double, c :: cs =>
    if c = '$' then value? vs (.reference true []) cs
    else if c = '"' then value? vs .bare cs
    else if c = '\\' then value? vs (.escape true) cs
    else (value? vs .double cs).map (c :: ·)
  | .bare, c :: cs =>
    if c = '$' then value? vs (.reference false []) cs
    else if c = '\'' then value? vs .single cs
    else if c = '"' then value? vs .double cs
    else if c = '\\' then value? vs (.escape false) cs
    else if c = ' ' ∨ c = '\t' then value? vs .after cs
    else (value? vs .bare cs).map (c :: ·)

/-- The value after a name, if an equals sign parts the two. -/
def assigned? (vs : Variables) (name : List Char) (cs : List Char) :
    Option (String × String) :=
  match cs with
  | '=' :: cs =>
    let cs := Text.trim cs
    if cs.isEmpty || cs.head? = some '#' then some (String.ofList name, "")
    else (value? vs .bare cs).map fun v => (String.ofList name, String.ofList v)
  | _ => none

/-- The variable on a line, if it has one. -/
def line? (vs : Variables) (cs : List Char) : Option (Option (String × String)) :=
  let cs := Text.trim cs
  if cs.isEmpty || cs.head? = some '#' then some none
  else do
    let (name, rest) ← name? cs
    if String.ofList name = "export" ∧ rest.head? ≠ some '=' then
      let (name, rest) ← name? rest
      return some (← assigned? vs name rest)
    else return some (← assigned? vs name rest)

/-- Add the lines of a file up to the first that is none; what is set already stays. -/
def addLines (vs : Variables) : List (List Char) → Variables
  | [] => vs
  | l :: ls =>
    match line? vs l with
    | some (some (name, text)) => addLines (vs.assign name text) ls
    | some none => addLines vs ls
    | none => vs

def addFile (vs : Variables) (file : String) : Variables := vs.addLines (split '\n' file.toList)

end Variables

/-- What the bot has to be told to run. -/
structure Settings where
  port : Nat
  userUrl : String
  userSession : String
  botUrl : String
  botSession : String
  adminPeer : String
  faq : Redirect
  deriving DecidableEq, Repr

namespace Settings

/-- Why a text is no port. -/
inductive PortError
  | empty
  | digit
  | tooLarge
  deriving DecidableEq, Repr

def PortError.message : PortError → String
  | .empty => "cannot parse integer from empty string"
  | .digit => "invalid digit found in string"
  | .tooLarge => "number too large to fit in target type"

/-- Digits onto a number below `2^16`; of two faults the earlier counts. -/
def portDigits : Nat → List Char → Except PortError Nat
  | n, [] => .ok n
  | n, c :: cs =>
    if !c.isDigit then .error .digit
    else
      let k := n * 10 + (c.toNat - '0'.toNat)
      if k < 0x10000 then portDigits k cs else .error .tooLarge

/-- A port in decimal, with a plus sign at will. -/
def parsePort (text : String) : Except PortError Nat :=
  match text.toList with
  | [] => .error .empty
  | ['+'] => .error .digit
  | '+' :: cs => portDigits 0 cs
  | cs => portDigits 0 cs

def portOf (vs : Variables) : Except Failure Nat :=
  (parsePort ((vs.get? "PORT").getD "8080")).mapError fun e =>
    Failure.within "PORT must be a valid number" (.ofText e.message)

/-- A variable without a default. -/
def required (vs : Variables) (name : String) : Except Failure String :=
  (vs.read name).mapError fun e => Failure.within s!"{name} must be set" (.ofText e.message)

def ofVariables (vs : Variables) : Except Failure Settings := do
  return {
    port := ← portOf vs
    userUrl := ← required vs "USER_GATEWAY_URL"
    userSession := ← required vs "USER_SESSION"
    botUrl := ← required vs "BOT_GATEWAY_URL"
    botSession := ← required vs "BOT_SESSION"
    adminPeer := (vs.get? "ADMIN_PEER").getD "@danogentili"
    faq :=
      ⟨(vs.get? "FAQ_TEXT").getD "FAQ", (vs.get? "FAQ_START_PARAM").getD "lel"⟩ }

end Settings

end InlineRelay
