import InlineRelay.Json.Record
import InlineRelay.Proofs.Json.Record

/-!
Records as written: their own members, and the ones they only pass on. Also single changes to an
object, to say how what is written differs from what was read.
-/
namespace InlineRelay.Json

theorem isNull_canonical (v : Json) : v.canonical.isNull = v.isNull := by
  cases v <;> rfl

namespace Fields
variable {fs gs own : Fields} {names : List String} {key k : String}

theorem sorted_ordered (fs : Fields) : Sorted (ordered fs) := sorted_ofMembers _

theorem Once.present?_ordered (h : Once names (fs.map Prod.fst)) (hk : k ∈ names) :
    present? (ordered fs) k = (present? fs k).map canonical := by
  unfold present?
  rw [h.get?_ordered hk]
  cases get? fs k with
  | none => rfl
  | some v =>
      rw [Option.map_some, Option.filter_some, Option.filter_some, isNull_canonical]
      cases v.isNull <;> rfl

theorem get?_untagged (fs : Fields) (k : String) :
    get? (untagged fs) k = if k = tagKey then none else get? fs k := by
  rw [untagged, get?_filter fun k => decide (k ≠ tagKey)]
  by_cases hk : k = tagKey <;> simp [hk]

theorem get?_ordered_untagged (fs : Fields) (k : String) :
    get? (ordered (untagged fs)) k = if k = tagKey then none else get? (ordered fs) k := by
  rw [get?_ordered, get?_ordered, untagged, ← List.filter_reverse,
    get?_filter fun k => decide (k ≠ tagKey)]
  by_cases hk : k = tagKey <;> simp [hk]

theorem Once.get?_ordered_of_untagged (h : Once names ((untagged fs).map Prod.fst))
    (hk : k ∈ names) (hne : k ≠ tagKey) :
    get? (ordered fs) k = (get? (untagged fs) k).map canonical := by
  rw [← h.get?_ordered hk, get?_ordered_untagged, if_neg hne]

/-- An optional member is under its own key only. -/
theorem get?_maybe {α : Type} (key : String) (encode : α → Json) (o : Option α) (k : String) :
    get? (maybe key encode o).reverse k = if key = k then o.map encode else none := by
  cases o with
  | none => simp [maybe]
  | some a =>
      rw [maybe, List.reverse_singleton, get?_cons, get?_nil]
      rfl

/-- A flag is under its own key, and only when it is on. -/
theorem get?_flag (key : String) (on : Bool) (k : String) :
    get? (flag key on).reverse k = if key = k ∧ on then some (.bool true) else none := by
  cases on with
  | false => simp [flag]
  | true =>
      rw [flag, if_pos rfl, List.reverse_singleton, get?_cons, get?_nil]
      simp

/-! ### Changing one member -/

/-- The member under a key replaced, or left out. -/
def revise (key : String) (f : Json → Option Json) (fs : Fields) : Fields :=
  match (get? fs key).bind f with
  | some v => insert key v fs
  | none => fs.filter fun m => m.1 ≠ key

theorem get?_revise (key : String) (f : Json → Option Json) (fs : Fields) (k : String) :
    get? (revise key f fs) k = if key = k then (get? fs k).bind f else get? fs k := by
  unfold revise
  split
  · rename_i v hv
    rw [get?_insert]
    by_cases hk : key = k
    · rw [if_pos hk, if_pos hk, ← hk, hv]
    · rw [if_neg hk, if_neg hk]
  · rename_i hnone
    rw [get?_filter fun k => decide (k ≠ key)]
    by_cases hk : key = k
    · rw [if_pos hk, ← hk, hnone]
      simp
    · simp [hk, Ne.symm hk]

theorem Sorted.revise (h : Sorted fs) (key : String) (f : Json → Option Json) :
    Sorted (Fields.revise key f fs) := by
  unfold Fields.revise
  split
  · exact h.insert key _
  · exact h.filter _

/-- A member replaced by itself. -/
theorem Sorted.revise_eq_self {f : Json → Option Json} (h : Sorted fs)
    (hf : ∀ v, get? fs key = some v → f v = some v) : Fields.revise key f fs = fs := by
  refine (h.revise key f).ext h fun k => ?_
  rw [get?_revise]
  split
  · next heq =>
    subst heq
    cases hv : get? fs key with
    | none => rfl
    | some v => exact hf v hv
  · rfl

end Fields

/-- The object with the member under a key replaced, or left out. -/
def revise (key : String) (f : Json → Option Json) : Json → Json
  | .obj fs => .obj (Fields.revise key f fs)
  | v => v

/-- A record is written as the object that has its own members and the others it was read with. -/
theorem ofRecord_others {own fs gs : Fields} {names : List String} (hgs : Fields.Sorted gs)
    (h : ∀ k, Fields.get? gs k =
      (if k ∈ names then none else Fields.get? (Fields.ordered fs) k).or
        (Fields.get? own.reverse k)) :
    ofRecord own (Fields.others names fs) = .obj gs := by
  refine congrArg Json.obj (((Fields.sorted_ofMembers own).insertAll _).ext hgs fun k => ?_)
  rw [Fields.get?_insertAll, Fields.get?_ofMembers, (Fields.sorted_others names fs).get?_reverse,
    Fields.get?_others, h]

/-- A tagged record is written as it was read where its tag is, and with another tag as the object
revised in that place. -/
theorem TagRecord.ofRecord_eq {κ : Type} {K : Json → κ → Prop} {v : Json} {kind : κ}
    {extra : Fields} {f : Json → Json} {tag : Json} (h : TagRecord K v kind extra)
    (htag : ∀ t, v.at? [tagKey] = some t → K t kind → tag = f t.canonical) :
    ofRecord [(tagKey, tag)] extra = revise tagKey (fun t => some (f t)) v.canonical := by
  obtain ⟨fs, rfl, honce, ⟨t, ht, hkind⟩, rfl⟩ := h
  have hvalue : tag = f t.canonical := htag t (by rw [at?, ht]; rfl) hkind
  rw [canonical_obj, revise]
  refine ofRecord_others ((Fields.sorted_ordered fs).revise _ _) fun k => ?_
  rw [Fields.get?_revise, List.reverse_singleton, Fields.get?_cons, Fields.get?_nil]
  by_cases hk : tagKey = k
  · subst hk
    simp [honce.get?_ordered (List.mem_singleton.2 rfl), ht, hvalue]
  · simp [hk, Ne.symm hk]

/-- A tagged record whose tag is written as it was read. -/
theorem TagRecord.ofRecord_eq_canonical {κ : Type} {K : Json → κ → Prop} {v : Json} {kind : κ}
    {extra : Fields} {tag : Json} (h : TagRecord K v kind extra)
    (htag : ∀ t, v.at? [tagKey] = some t → K t kind → tag = t.canonical) :
    ofRecord [(tagKey, tag)] extra = v.canonical := by
  rw [h.ofRecord_eq (f := fun t => t) htag]
  obtain ⟨fs, rfl, -⟩ := h
  rw [canonical_obj, revise, (Fields.sorted_ordered fs).revise_eq_self fun _ _ => rfl]

end InlineRelay.Json
