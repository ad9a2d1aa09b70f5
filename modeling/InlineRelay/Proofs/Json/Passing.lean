import InlineRelay.Proofs.Json.Closed
import InlineRelay.Proofs.Json.Recognition

/-!
Closed records in texts. What such a record does not know is passed over, for which only the grammar
counts: it may be nested too deep, hold a number too large or an unpaired surrogate.
-/
namespace InlineRelay.Json

open Fields (Once)

namespace Doc

/-! ### Passing over -/

theorem skip_bounded (depth : Nat) (d : Doc) : (bounded depth d).skip = d.skip := by
  unfold bounded
  split
  · rw [Doc.skip]
  · rfl

mutual
/-- How deep a value is nested makes no difference to who passes over it. -/
theorem skip_inside (depth : Nat) (d : Doc) : (d.inside depth).skip = d.skip := by
  cases d with
  | null | bool | num | str | spoilt | broken => rfl
  | arr items cut =>
      have hitems := skipItems_inside (depth + 1) items
      rw [inside, skip_bounded]
      cases cut <;> rw [Doc.skip, Doc.skip, hitems]
  | obj members cut =>
      have hmembers := skipMembers_inside (depth + 1) members
      rw [inside, skip_bounded]
      cases cut <;> rw [Doc.skip, Doc.skip, hmembers]
theorem skipItems_inside (depth : Nat) (items : List Doc) :
    skipItems (insideItems depth items) = skipItems items := by
  cases items with
  | nil => rfl
  | cons d items =>
      rw [insideItems, skipItems, skipItems, skip_inside depth d, skipItems_inside depth items]
theorem skipMembers_inside (depth : Nat) (members : List (Option String × Doc)) :
    skipMembers (insideMembers depth members) = skipMembers members := by
  cases members with
  | nil => rfl
  | cons m members =>
      obtain ⟨key, d⟩ := m
      rw [insideMembers, skipMembers, skipMembers, skip_inside depth d,
        skipMembers_inside depth members]
end

theorem skip_numberOf (negative : Bool) (whole fraction : List Char) (power : Option Int) :
    (numberOf negative whole fraction power).skip = .ok () := by
  rcases numberOf_cases negative whole fraction power with ⟨n, hn⟩ | hn <;> rw [hn] <;> rfl

theorem skip_stringOf (ps : List Piece) : (stringOf ps).skip = .ok () := by
  unfold stringOf
  cases charsOf ps <;> rfl

theorem SpellsPart.exists_spells {d : Doc} {cs : List Char} (h : SpellsPart d cs) :
    ∃ text, Spells d text := by
  cases h with
  | part _ hd _ => exact ⟨_, hd⟩

mutual
/-- What a text spells can be passed over, whether it has a value or not. -/
theorem skip_spelled {d : Doc} {cs : List Char} (h : Spells d cs) : d.skip = .ok () := by
  cases h with
  | null | true | false | noItems | noMembers => rfl
  | positive | negative => exact skip_numberOf _ _ _ _
  | string => exact skip_stringOf _
  | items hitems =>
      rw [Doc.skip, skipItems_spelled hitems]
      rfl
  | members hmembers =>
      rw [Doc.skip, skipMembers_spelled hmembers]
      rfl
theorem skipItems_spelled {items : List Doc} {cs : List Char} (h : SpellsItems items cs) :
    skipItems items = .ok () := by
  cases h with
  | last hd =>
      obtain ⟨text, hd⟩ := hd.exists_spells
      rw [skipItems, skip_spelled hd]
      rfl
  | more hd hitems =>
      obtain ⟨text, hd⟩ := hd.exists_spells
      rw [skipItems, skip_spelled hd]
      exact skipItems_spelled hitems
theorem skipMembers_spelled {members : List (Option String × Doc)} {cs : List Char}
    (h : SpellsMembers members cs) : skipMembers members = .ok () := by
  cases h with
  | last _ hd =>
      obtain ⟨text, hd⟩ := hd.exists_spells
      rw [skipMembers, skip_spelled hd]
      rfl
  | more _ hd hmembers =>
      obtain ⟨text, hd⟩ := hd.exists_spells
      rw [skipMembers, skip_spelled hd]
      exact skipMembers_spelled hmembers
end

theorem skip_inside_part {d : Doc} {cs : List Char} (h : SpellsPart d cs) (depth : Nat) :
    (d.inside depth).skip = .ok () := by
  obtain ⟨text, hd⟩ := h.exists_spells
  rw [skip_inside, skip_spelled hd]

/-! ### Records -/

/-- Members with their names. -/
def named (ms : List (String × Doc)) : List (Option String × Doc) :=
  ms.map fun m => (some m.1, m.2)

/-- The fields of a record: the members of an object whose keys all have names, or the items of an
array under the names in order. -/
inductive Record (fields : List (String × Bool)) : Doc → List (String × Doc) → Prop
  | object {ms : List (String × Doc)} : Once (fields.map Prod.fst) (ms.map Prod.fst) →
      Record fields (.obj (named ms) none) ms
  | array {items : List Doc} : items.length ≤ fields.length →
      (∀ f ∈ fields.drop items.length, f.2) →
      Record fields (.arr items none) ((fields.map Prod.fst).zip items)

theorem legible_named (ms : List (String × Doc)) (cut : Option Fault) :
    legible (named ms) cut = (ms, cut) := by
  induction ms with
  | nil => rfl
  | cons m ms ih =>
      have hcons : named (m :: ms) = (some m.1, m.2) :: named ms := rfl
      rw [hcons, legible, ih]

theorem eq_named_of_legible {ms : List (Option String × Doc)} {cut : Option Fault}
    (h : (legible ms cut).2 = none) : ms = named (legible ms cut).1 ∧ cut = none := by
  induction ms with
  | nil => exact ⟨rfl, h⟩
  | cons m ms ih =>
      obtain ⟨key, d⟩ := m
      cases key with
      | none => cases h
      | some k =>
          obtain ⟨hms, hcut⟩ := ih h
          exact ⟨congrArg ((some k, d) :: ·) hms, hcut⟩

theorem listed_iff_record {fields : List (String × Bool)} {d : Doc} {ms : List (String × Doc)} :
    Listed fields (Source.view d) ms ↔ d.Record fields ms := by
  constructor
  · intro h
    cases d with
    | null | bool | num | str | broken => cases h
    | spoilt form => cases form <;> cases h
    | arr items cut =>
        have hview : Source.view (Doc.arr items cut) = .arr items cut := rfl
        rw [hview] at h
        cases h with
        | array hlength helastic => exact .array hlength helastic
    | obj members cut =>
        have hview : Source.view (Doc.obj members cut) =
            .obj (legible members cut).1 (legible members cut).2 := rfl
        rw [hview] at h
        generalize hcut : (legible members cut).2 = c at h
        cases h with
        | object honce =>
            obtain ⟨hmembers, rfl⟩ := eq_named_of_legible hcut
            conv => enter [2]; rw [hmembers]
            exact .object honce
  · intro h
    cases h with
    | array hlength helastic => exact .array hlength helastic
    | object honce =>
        have hview : Source.view (Doc.obj (named ms) none) =
            .obj (legible (named ms) none).1 (legible (named ms) none).2 := rfl
        rw [hview, legible_named]
        exact .object honce

theorem skip_of_legible {ms : List (Option String × Doc)} (h : skipMembers ms = .ok ())
    (cut : Option Fault) : ∀ m ∈ (legible ms cut).1, m.2.skip = .ok () := by
  induction ms with
  | nil => exact fun m hm => absurd hm List.not_mem_nil
  | cons m ms ih =>
      obtain ⟨key, d⟩ := m
      obtain ⟨_, hd, hms⟩ := bind_eq_ok.1 h
      cases key with
      | none => exact fun m hm => absurd hm List.not_mem_nil
      | some k => exact List.forall_mem_cons.2 ⟨hd, ih hms⟩

/-- Who can pass over an object can pass over its members. -/
theorem skip_of_view {d : Doc} (h : d.skip = .ok ()) {ms : List (String × Doc)}
    {cut : Option Fault} (hview : Source.view d = .obj ms cut) :
    ∀ m ∈ ms, Source.skip m.2 = .ok () := by
  cases d with
  | null | bool | num | str | arr | broken => cases hview
  | spoilt form =>
      cases form with
      | obj members cut =>
          cases hview
          exact fun m hm => absurd hm List.not_mem_nil
      | null | bool | num | str | arr | spoilt | broken => cases hview
  | obj members c =>
      cases hview
      have hmembers : skipMembers members = .ok () := by
        cases c <;> exact (bind_eq_ok.1 h).choose_spec.1
      intro m hm
      exact congrArg (Except.mapError DecodeError.unreadable) (skip_of_legible hmembers c m hm)

/-- A decoder that closes a record accepts, of what can be passed over, the objects and arrays that
have its fields, if it builds a result of them. -/
theorem closedRecord_eq_ok {ρ : Type} {d : Doc} {title : String} {slots : List (Slot Doc)}
    {fields : List (String × Bool)} {build : List (String × Doc) → Decoded ρ}
    (hfields : slots.map (fun s => (s.name, s.elastic)) = fields)
    (hnodup : (fields.map Prod.fst).Nodup) (hskip : d.skip = .ok ())
    (hpasses : ∀ {ms r}, Once (fields.map Prod.fst) (ms.map Prod.fst) → build ms = .ok r →
      ∀ s ∈ slots, s.Passes ms) {r : ρ} :
    (closedRecord title slots d >>= build) = .ok r ↔ ∃ ms, d.Record fields ms ∧ build ms = .ok r := by
  rw [Json.closedRecord_eq_ok hfields hnodup (fun _ _ => skip_of_view hskip) hpasses]
  simp only [listed_iff_record]

/-! ### Values without parts -/

/-- The value that a view shows, if it has no parts. -/
def leaf? : View Doc → Option Doc
  | .null => some .null
  | .bool b => some (.bool b)
  | .num n => some (.num n)
  | .str s => some (.str s)
  | .arr _ _ | .obj _ _ | .broken _ => none

theorem eq_of_view {d x : Doc} (h : leaf? (Source.view d) = some x) : d = x := by
  cases d with
  | null | bool | num | str | arr | obj | broken => cases h <;> rfl
  | spoilt form => cases form <;> cases h

theorem boolean_eq_ok {d : Doc} {b : Bool} : boolean d = .ok b ↔ d = .bool b := by
  constructor
  · intro h
    unfold boolean at h
    split at h
    · next hview =>
      cases h
      exact eq_of_view (hview ▸ rfl)
    · cases h
  · rintro rfl
    rfl

theorem string_eq_ok {d : Doc} {s : String} : string d = .ok s ↔ d = .str s := by
  constructor
  · intro h
    unfold string at h
    split at h
    · next hview =>
      cases h
      exact eq_of_view (hview ▸ rfl)
    · cases h
  · rintro rfl
    rfl

theorem integer_eq_ok {d : Doc} {least greatest i : Int} {shape : Shape} :
    integer least greatest shape d = .ok i ↔ d = .num (.int i) ∧ least ≤ i ∧ i ≤ greatest := by
  rw [Json.integer_eq_ok]
  constructor
  · rintro ⟨hview, hi⟩
    exact ⟨eq_of_view (hview ▸ rfl), hi⟩
  · rintro ⟨rfl, hi⟩
    exact ⟨rfl, hi⟩

/-! ### Fields -/

def isNull : Doc → Bool
  | .null => true
  | _ => false

/-- A member that is there and not null. -/
def present? (ms : List (String × Doc)) (key : String) : Option Doc :=
  (ms.lookup key).filter (!·.isNull)

theorem find?_eq_lookup {τ : Type} (ms : List (String × τ)) (key : String) :
    (ms.find? (·.1 == key)).map (·.2) = ms.lookup key := by
  induction ms with
  | nil => rfl
  | cons m ms ih =>
      obtain ⟨k, x⟩ := m
      rw [List.find?_cons, List.lookup_cons, Bool.beq_comm, ← ih]
      cases key == k <;> rfl

section Fields
variable {α : Type} {read : Doc → Decoded α} {name : String} {ms : List (String × Doc)}

theorem get_required {a : α} : (Field.required name read).get ms = .ok a ↔
    ∃ x, ms.lookup name = some x ∧ read x = .ok a := by
  rw [← find?_eq_lookup]
  unfold Field.get Field.required
  dsimp only
  cases ms.find? (·.1 == name) <;> simp

theorem nullable_eq_ok {d : Doc} {o : Option α} : nullable read d = .ok o ↔
    Option.Rel (fun x a => read x = .ok a) (if d.isNull then none else some d) o := by
  unfold nullable
  split
  · next hview =>
    obtain rfl : d = .null := eq_of_view (hview ▸ rfl)
    cases o <;> simp [isNull]
  · next hview =>
    have hnull : d.isNull = false := by
      cases d with
      | null => exact absurd rfl hview
      | bool | num | str | arr | obj | spoilt | broken => rfl
    rw [hnull]
    cases o <;> simp [bind_eq_ok, pure, Except.pure]

theorem get_optional {o : Option α} : (Field.optional name read).get ms = .ok o ↔
    Option.Rel (fun x a => read x = .ok a) (present? ms name) o := by
  unfold present?
  rw [← find?_eq_lookup]
  unfold Field.get Field.optional
  dsimp only
  cases ms.find? (·.1 == name) with
  | none => cases o <;> simp
  | some m =>
      dsimp only
      rw [nullable_eq_ok, Option.map_some, Option.filter_some]
      cases m.2.isNull <;> rfl

end Fields

end Doc
end InlineRelay.Json
