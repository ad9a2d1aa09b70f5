import InlineRelay.Json.Decode

/-!
Records: objects with named fields. A record's members are checked in the order written, then
its fields are read in the order declared, so that the first wrong member is reported before
the first missing field.
-/
namespace InlineRelay.Json

/-- A field of a record. -/
structure Field (τ α : Type) where
  name : String
  read : τ → Decoded α
  /-- What the field is when no member has its name. -/
  absent : Option α
  /-- Whether an array of fields may end before it. -/
  elastic : Bool

namespace Field
variable {τ α : Type}

def required (name : String) (read : τ → Decoded α) : Field τ α := ⟨name, read, none, false⟩

/-- A field that may be absent or null; an array of fields has to name it. -/
def optional [Source τ] (name : String) (read : τ → Decoded α) : Field τ (Option α) :=
  ⟨name, nullable read, some none, false⟩

def withDefault (name : String) (read : τ → Decoded α) (value : α) : Field τ α :=
  ⟨name, read, some value, true⟩

/-- The field's value among checked members. -/
def get (f : Field τ α) (members : List (String × τ)) : Decoded α :=
  match members.find? (·.1 == f.name) with
  | some m => f.read m.2
  | none =>
    match f.absent with
    | some a => .ok a
    | none => .error (.missingField f.name)

end Field

/-- A field as the check of members sees it. -/
structure Slot (τ : Type) where
  name : String
  check : τ → Decoded Unit
  elastic : Bool

def Field.slot {τ α : Type} (f : Field τ α) : Slot τ :=
  ⟨f.name, fun v => do let _ ← f.read v, f.elastic⟩

section Records
variable {τ : Type} [Source τ]

/-- Check members in turn: a field occurs once and has its type, `other` checks the rest. -/
def checkMembers (slots : List (Slot τ)) (other : τ → Decoded Unit) :
    List String → List (String × τ) → Decoded Unit
  | _, [] => .ok ()
  | seen, (k, v) :: ms =>
    match slots.find? (·.name == k) with
    | some s =>
      if k ∈ seen then .error (.duplicateField k)
      else do
        s.check v
        checkMembers slots other (k :: seen) ms
    | none => do
      other v
      checkMembers slots other seen ms

/-- Check the items of an array as the fields in declared order, from the `index`-th on. -/
def checkItems (sized : Shape) (cut : Option Fault) :
    Nat → List (Slot τ) → List τ → Decoded (List (String × τ))
  | _, [], [] => do
    intact cut
    return []
  | index, [], items => .error (Source.surplus τ index (index + items.length))
  | index, s :: ss, v :: vs => do
    s.check v
    return (s.name, v) :: (← checkItems sized cut (index + 1) ss vs)
  | index, s :: ss, [] => do
    intact cut
    if s.elastic then checkItems sized cut (index + 1) ss []
    else .error (.wrongLength index sized)

/-- The checked members of a record that passes unknown members over. An array of its fields will
do. -/
def closedRecord (title : String) (slots : List (Slot τ)) (v : τ) :
    Decoded (List (String × τ)) :=
  match Source.view v with
  | .obj ms cut => do
    checkMembers slots Source.skip [] ms
    intact cut
    return ms
  | .arr items cut => checkItems (.sizedRecord title slots.length) cut 0 slots items
  | w => .error (w.mismatch (.record title))

/-- The checked members of a record that keeps unknown members. -/
def openRecord (title : String) (slots : List (Slot τ)) (v : τ) : Decoded (List (String × τ)) :=
  match Source.view v with
  | .obj ms cut => do
    checkMembers slots (fun x => do let _ ← Source.content x) [] ms
    intact cut
    return ms
  | w => .error (w.mismatch (.record title))

/-- The members no field has the name of. -/
def extras (slots : List (Slot τ)) (members : List (String × τ)) : Decoded Fields := do
  let unknown := members.filter fun m => (slots.find? (·.name == m.1)).isNone
  let ms ← unknown.mapM fun m => do return (m.1, ← anything m.2)
  return Fields.ofMembers ms

/-- The key of a record's tag. -/
def tagKey : String := "_"

/-- Look for the tag among members, setting the others aside. -/
def untag {κ : Type} (meaning : String → Decoded κ) :
    Option κ → List (String × τ) → Decoded (Option κ × List (String × Json))
  | tag, [] => .ok (tag, [])
  | tag, (k, v) :: ms =>
    if k = tagKey then
      match tag with
      | some _ => .error (.duplicateField tagKey)
      | none =>
        match Source.view v with
        | .str s => do
          let t ← meaning s
          untag meaning (some t) ms
        | w => .error (w.mismatch .tag)
    else do
      let j ← Source.content v
      let r ← untag meaning tag ms
      return (r.1, (k, j) :: r.2)

/-- A record whose tag decides how its other members are read. In an array the tag comes first. -/
def tagged {κ : Type} (name : String) (meaning : String → Decoded κ) (v : τ) :
    Decoded (κ × Aside) :=
  match Source.view v with
  | .obj ms cut => do
    let r ← untag meaning none ms
    intact cut
    match r.1 with
    | some t => return (t, ⟨.obj r.2⟩)
    | none => .error (.missingField tagKey)
  | .arr [] cut => do
    intact cut
    .error (.missingField tagKey)
  | .arr (x :: items) cut => do
    match Source.view x with
    | .str s => do
      let t ← meaning s
      let vs ← items.mapM Source.content
      intact cut
      return (t, ⟨.arr vs⟩)
    | w => .error (w.mismatch .tag)
  | w => .error (w.mismatch (.taggedRecord name))

end Records

/-- An optional member: absent rather than null. -/
def Fields.maybe {α : Type} (key : String) (encode : α → Json) : Option α → Fields
  | some a => [(key, encode a)]
  | none => []

/-- A flag that is left out when it is off. -/
def Fields.flag (key : String) (on : Bool) : Fields :=
  if on then [(key, .bool true)] else []

end InlineRelay.Json
