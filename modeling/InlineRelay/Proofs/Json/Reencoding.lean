import InlineRelay.Proofs.Json.Encoding

/-!
Records written again. A record that is written with the members it was read with shows its own
members and the same others.
-/
namespace InlineRelay.Json

open Fields (Once Sorted get? ordered others present?)

/-! ### Canonical values stay as they are -/

theorem ordered_ordered {fs : Fields} (h : ∀ m ∈ fs, m.2.canonical.canonical = m.2.canonical) :
    ordered (ordered fs) = ordered fs := by
  refine (Fields.sorted_ordered _).ext (Fields.sorted_ordered fs) fun k => ?_
  rw [Fields.get?_ordered (ordered fs), (Fields.sorted_ordered fs).get?_reverse,
    Fields.get?_ordered]
  cases hv : get? fs.reverse k with
  | none => rfl
  | some v =>
      have hmem := List.mem_reverse.1 (Fields.mem_of_get? hv)
      rw [Option.map_some, Option.map_some, h _ hmem]

mutual
theorem canonical_canonical (v : Json) : v.canonical.canonical = v.canonical := by
  cases v with
  | null | bool | num | str => rfl
  | arr vs =>
      have hcanonical : Json.canonical (.arr vs) = .arr (vs.map canonical) := by
        rw [canonical, canonicalItems_eq_map]
      rw [hcanonical, canonical, canonicalItems_eq_map, List.map_map]
      exact congrArg Json.arr (List.map_congr_left (canonical_items vs))
  | obj fs => rw [canonical_obj, canonical_obj, ordered_ordered (canonical_members fs)]
theorem canonical_items (vs : List Json) : ∀ v ∈ vs, v.canonical.canonical = v.canonical := by
  cases vs with
  | nil => exact fun _ h => absurd h List.not_mem_nil
  | cons v vs => exact List.forall_mem_cons.2 ⟨canonical_canonical v, canonical_items vs⟩
theorem canonical_members (fs : List (String × Json)) :
    ∀ m ∈ fs, m.2.canonical.canonical = m.2.canonical := by
  cases fs with
  | nil => exact fun _ h => absurd h List.not_mem_nil
  | cons m fs =>
      obtain ⟨k, v⟩ := m
      exact List.forall_mem_cons.2 ⟨canonical_canonical v, canonical_members fs⟩
end

/-! ### The members of a record -/

/-- The members a record is written with. -/
def written (own extra : Fields) : Fields := Fields.insertAll (Fields.ofMembers own) extra

section Written
variable {own fs : Fields} {names : List String} {k : String}

theorem sorted_written (own extra : Fields) : Sorted (written own extra) :=
  (Fields.sorted_ofMembers own).insertAll extra

theorem once_of_sorted (h : Sorted fs) (names : List String) : Once names (fs.map Prod.fst) := by
  refine List.pairwise_map.2 (h.imp ?_)
  intro m n hlt _
  exact hlt.ne

theorem get?_written (own : Fields) (names : List String) (fs : Fields) (k : String) :
    get? (written own (others names fs)) k =
      (if k ∈ names then none else get? (ordered fs) k).or (get? own.reverse k) := by
  rw [written, Fields.get?_insertAll, (Fields.sorted_others names fs).get?_reverse,
    Fields.get?_others, Fields.get?_ofMembers]

theorem get?_written_of_mem (hk : k ∈ names) :
    get? (written own (others names fs)) k = get? own.reverse k := by
  rw [get?_written, if_pos hk, Option.none_or]

/-- What a record only passes on is passed on once more. -/
theorem others_written (hown : ∀ m ∈ own, m.1 ∈ names) :
    others names (written own (others names fs)) = others names fs := by
  refine (Fields.sorted_others _ _).ext (Fields.sorted_others _ _) fun k => ?_
  rw [Fields.get?_others, Fields.get?_others]
  by_cases hk : k ∈ names
  · rw [if_pos hk, if_pos hk]
  · have hnone : get? own.reverse k = none := by
      refine Fields.get?_eq_none.2 fun m hm heq => hk ?_
      exact heq ▸ hown m (List.mem_reverse.1 hm)
    rw [if_neg hk, if_neg hk, Fields.get?_ordered, (sorted_written _ _).get?_reverse, get?_written,
      if_neg hk, hnone, Option.or_none, Fields.get?_ordered, Option.map_map]
    exact congrArg (Option.map · _) (funext canonical_canonical)

theorem mem_maybe {α : Type} {encode : α → Json} {o : Option α} {m : String × Json} :
    m ∈ Fields.maybe k encode o ↔ ∃ a ∈ o, m = (k, encode a) := by
  cases o <;> simp [Fields.maybe]

theorem fst_of_mem_maybe {α : Type} {encode : α → Json} {o : Option α} {m : String × Json}
    (h : m ∈ Fields.maybe k encode o) : m.1 = k := by
  obtain ⟨a, -, rfl⟩ := mem_maybe.1 h
  rfl

theorem exists_of_rel_some {α : Type} {R : Json → α → Prop} {o : Option Json} {a : α}
    (h : Option.Rel R o (some a)) : ∃ v, R v a := by
  cases h with
  | some ha => exact ⟨_, ha⟩

/-- An optional member is there when it is something. -/
theorem rel_present {α : Type} {R : Json → α → Prop} {gs : Fields} {encode : α → Json}
    {o : Option α} (hget : get? gs k = o.map encode) (hnull : ∀ a ∈ o, (encode a).isNull = false)
    (hR : ∀ a ∈ o, R (encode a) a) : Option.Rel R (present? gs k) o := by
  unfold present?
  rw [hget]
  cases o with
  | none => exact .none
  | some a =>
      rw [Option.map_some, Option.filter_some, hnull a rfl]
      exact .some (hR a rfl)

/-- Where nothing stands under these keys, leaving them out changes nothing. -/
theorem others_others {names' : List String}
    (hfree : ∀ k ∈ names, get? (others names' fs) k = none) :
    others names (others names' fs) = others names' fs := by
  refine (Fields.sorted_others _ _).ext (Fields.sorted_others _ _) fun k => ?_
  have hordered : get? (ordered (others names' fs)) k = get? (others names' fs) k := by
    rw [Fields.get?_ordered, (Fields.sorted_others _ _).get?_reverse, Fields.get?_others]
    split
    · rfl
    · rw [Fields.get?_ordered, Option.map_map]
      exact congrArg (Option.map · _) (funext canonical_canonical)
  rw [Fields.get?_others names, hordered]
  by_cases hk : k ∈ names
  · rw [if_pos hk, hfree k hk]
  · rw [if_neg hk]

theorem others_untagged (names : List String) (fs : Fields) :
    others names (untagged fs) = others (tagKey :: names) fs := by
  refine (Fields.sorted_others _ _).ext (Fields.sorted_others _ _) fun k => ?_
  rw [Fields.get?_others, Fields.get?_others, Fields.get?_ordered_untagged]
  by_cases htag : k = tagKey
  · simp [htag]
  · simp [htag]

/-- A record with a tag is one again under another tag, with the same others. -/
theorem TagRecord.rewritten {κ κ' : Type} {K : Json → κ → Prop} {K' : Json → κ' → Prop}
    {v tag : Json} {kind : κ} {kind' : κ'} {extra : Fields} (h : TagRecord K v kind extra)
    (htag : K' tag kind') : TagRecord K' (ofRecord [(tagKey, tag)] extra) kind' extra := by
  obtain ⟨fs, -, -, -, rfl⟩ := h
  refine ⟨written [(tagKey, tag)] (others [tagKey] fs), rfl, once_of_sorted (sorted_written _ _) _,
    ⟨tag, ?_, htag⟩, (others_written ?_).symm⟩
  · rw [get?_written_of_mem (List.mem_singleton.2 rfl)]
    rfl
  · exact List.forall_mem_singleton.2 (List.mem_singleton.2 rfl)

end Written

end InlineRelay.Json
