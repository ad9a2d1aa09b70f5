import InlineRelay.Proofs.Json.Encoding
import InlineRelay.Result.Candidate

/-! The objects that messages and results are written as, member by member. -/
namespace InlineRelay

open Json (Fields tagKey)
open Json.Fields (Sorted get? ordered others)

/-- The members a message is written with, next to those it only passes on. -/
def Message.own? {form : Form} (m : Message form) (k : String) : Option Json :=
  if k = tagKey then some (m.kind.encode form)
  else if k = "message" then m.text.map Json.str
  else if k = "entities" then m.entities.map fun es => .arr (es.map Entity.encode)
  else if k = placeKey form then m.place.map Place.encode
  else none

theorem Message.placeKey_ne (form : Form) :
    placeKey form ≠ "_" ∧ placeKey form ≠ "message" ∧ placeKey form ≠ "entities" := by
  cases form <;> decide

/-- The own members of a message in the order they are written. -/
def Message.members {form : Form} (m : Message form) : Fields :=
  [(tagKey, m.kind.encode form)] ++ Json.Fields.maybe "message" Json.str m.text
    ++ Json.Fields.maybe "entities" (fun es => .arr (es.map Entity.encode)) m.entities
    ++ Json.Fields.maybe (placeKey form) Place.encode m.place

theorem Message.get?_members {form : Form} (m : Message form) (k : String) :
    get? m.members.reverse k = m.own? k := by
  obtain ⟨hplaceTag, hplaceText, hplaceEntities⟩ := placeKey_ne form
  simp only [members, own?, List.reverse_append, Fields.get?_append, Fields.get?_maybe,
    List.reverse_singleton, Fields.get?_cons, Fields.get?_nil]
  by_cases htag : k = tagKey
  · subst htag
    simp [hplaceTag, tagKey]
  · by_cases htext : k = "message"
    · subst htext
      simp [hplaceText, tagKey]
    · by_cases hentities : k = "entities"
      · subst hentities
        simp [hplaceEntities, tagKey]
      · simp [htag, htext, hentities, Ne.symm htag, Ne.symm htext, Ne.symm hentities, eq_comm]

theorem Message.encode_eq_obj {form : Form} {m : Message form} {names : List String}
    {fs gs : Fields} (hextra : m.extra = others names fs) (hgs : Sorted gs)
    (h : ∀ k, get? gs k = (if k ∈ names then none else get? (ordered fs) k).or (m.own? k)) :
    m.encode = .obj gs := by
  rw [encode, hextra]
  refine Json.ofRecord_others hgs fun k => ?_
  rw [h, ← get?_members]
  rfl

/-- The members a result is written with, next to those it only passes on. -/
def Body.own? {form : Form} (tag : String) (b : Body form) (k : String) : Option Json :=
  if k = tagKey then some (.str tag)
  else if k = "id" then some (.str b.id)
  else if k = "type" then some (.str b.kind)
  else if k = "send_message" then some b.message.encode
  else none

/-- The own members of a result in the order they are written. -/
def Body.members {form : Form} (tag : String) (b : Body form) : Fields :=
  [(tagKey, .str tag), ("id", .str b.id), ("type", .str b.kind),
    ("send_message", b.message.encode)]

theorem Body.get?_members {form : Form} (tag : String) (b : Body form) (k : String) :
    get? (b.members tag).reverse k = b.own? tag k := by
  by_cases htag : k = tagKey
  · subst htag
    simp [members, own?, tagKey, Fields.get?_cons]
  · by_cases hid : k = "id"
    · subst hid
      simp [members, own?, tagKey, Fields.get?_cons]
    · by_cases hkind : k = "type"
      · subst hkind
        simp [members, own?, tagKey, Fields.get?_cons]
      · simp [members, own?, htag, hid, hkind, Ne.symm htag, Ne.symm hid, Ne.symm hkind,
          Fields.get?_cons, eq_comm]

theorem Body.encode_eq_obj {form : Form} {tag : String} {b : Body form} {names : List String}
    {fs gs : Fields} (hextra : b.extra = others names fs) (hgs : Sorted gs)
    (h : ∀ k, get? gs k = (if k ∈ names then none else get? (ordered fs) k).or (b.own? tag k)) :
    b.encode tag = .obj gs := by
  rw [encode, hextra]
  refine Json.ofRecord_others hgs fun k => ?_
  rw [h, ← get?_members]
  rfl

end InlineRelay
