import InlineRelay.Json.Basic
import Mathlib.Data.String.Basic

/-!
Objects as finite maps. A member is looked up by its key; objects that have their keys in order
are equal when every key has the same value in both.
-/
namespace InlineRelay.Json

namespace Fields
variable {fs gs : Fields} {key k : String} {v : Json}

@[simp] theorem get?_nil (k : String) : get? [] k = none := rfl

theorem get?_cons (m : String × Json) (fs : Fields) (k : String) :
    get? (m :: fs) k = if m.1 = k then some m.2 else get? fs k := by
  unfold get?
  rw [List.find?_cons]
  by_cases h : m.1 = k
  · simp [h]
  · rw [beq_false_of_ne h, if_neg h]

theorem get?_append (fs gs : Fields) (k : String) :
    get? (fs ++ gs) k = (get? fs k).or (get? gs k) := by
  unfold get?
  rw [List.find?_append, Option.map_or]

theorem get?_eq_none : get? fs k = none ↔ ∀ m ∈ fs, m.1 ≠ k := by
  simp [get?]

theorem mem_of_get? (h : get? fs k = some v) : (k, v) ∈ fs := by
  unfold get? at h
  obtain ⟨m, hm, rfl⟩ := Option.map_eq_some_iff.1 h
  have hk : m.1 = k := by simpa using List.find?_some hm
  rw [← hk]
  exact List.mem_of_find?_eq_some hm

theorem get?_of_present? (h : v ∈ present? fs k) : get? fs k = some v :=
  Option.eq_some_of_filter_eq_some h

theorem get?_filter (p : String → Bool) (fs : Fields) (k : String) :
    get? (fs.filter fun m => p m.1) k = if p k then get? fs k else none := by
  induction fs with
  | nil => simp
  | cons m fs ih =>
      rw [List.filter_cons]
      by_cases hm : m.1 = k
      · subst hm
        cases hp : p m.1 <;> simp [get?_cons, ih, hp]
      · cases hp : p m.1 <;> simp [get?_cons, hm, ih]

theorem get?_map (f : Json → Json) (fs : Fields) (k : String) :
    get? (fs.map fun m => (m.1, f m.2)) k = (get? fs k).map f := by
  induction fs with
  | nil => rfl
  | cons m fs ih =>
      rw [List.map_cons, get?_cons, get?_cons, ih]
      by_cases h : m.1 = k <;> simp [h]

/-! ### Setting members -/

theorem get?_insert (key : String) (v : Json) (fs : Fields) (k : String) :
    get? (insert key v fs) k = if key = k then some v else get? fs k := by
  induction fs with
  | nil => rw [insert, get?_cons]
  | cons m fs ih =>
      obtain ⟨l, w⟩ := m
      unfold insert
      split
      · rw [get?_cons]
      · split
        · rename_i heq
          subst heq
          rw [get?_cons, get?_cons]
          by_cases h : key = k <;> simp [h]
        · rename_i hne
          rw [get?_cons, get?_cons, ih]
          by_cases hl : l = k
          · have hk : key ≠ k := fun h => hne (h.trans hl.symm)
            simp [hl, hk]
          · simp [hl]

theorem get?_insertAll (fs more : Fields) (k : String) :
    get? (insertAll fs more) k = (get? more.reverse k).or (get? fs k) := by
  induction more generalizing fs with
  | nil => rfl
  | cons m more ih =>
      have hstep : insertAll fs (m :: more) = insertAll (insert m.1 m.2 fs) more := rfl
      rw [hstep, ih, get?_insert, List.reverse_cons, get?_append, get?_cons, get?_nil,
        Option.or_assoc]
      by_cases h : m.1 = k <;> simp [h]

/-- Of members with the same key the last counts. -/
theorem get?_ofMembers (ms : Fields) (k : String) : get? (ofMembers ms) k = get? ms.reverse k := by
  rw [ofMembers, get?_insertAll, get?_nil, Option.or_none]

theorem present?_ofMembers (ms : Fields) (k : String) :
    present? (ofMembers ms) k = present? ms.reverse k := by
  unfold present?
  rw [get?_ofMembers]

/-! ### Keys in order -/

theorem sorted_nil : Sorted [] := List.Pairwise.nil

theorem mem_insert {m : String × Json} (h : m ∈ insert key v fs) : m = (key, v) ∨ m ∈ fs := by
  induction fs with
  | nil => exact .inl (List.mem_singleton.1 h)
  | cons n fs ih =>
      obtain ⟨l, w⟩ := n
      unfold insert at h
      split at h
      · exact List.mem_cons.1 h
      · split at h
        · rcases List.mem_cons.1 h with h | h
          · exact .inl h
          · exact .inr (List.mem_cons_of_mem _ h)
        · rcases List.mem_cons.1 h with rfl | h
          · exact .inr List.mem_cons_self
          · exact (ih h).imp_right (List.mem_cons_of_mem _)

theorem Sorted.insert (h : Sorted fs) (key : String) (v : Json) :
    Sorted (Fields.insert key v fs) := by
  induction fs with
  | nil => exact List.pairwise_singleton _ _
  | cons m fs ih =>
      obtain ⟨l, w⟩ := m
      obtain ⟨hhead, htail⟩ := List.pairwise_cons.1 h
      unfold Fields.insert
      split
      · rename_i hlt
        refine List.pairwise_cons.2 ⟨?_, h⟩
        intro n hn
        rcases List.mem_cons.1 hn with rfl | hn
        · exact hlt
        · exact hlt.trans (hhead n hn)
      · rename_i hnlt
        split
        · rename_i heq
          subst heq
          exact List.pairwise_cons.2 ⟨hhead, htail⟩
        · rename_i hne
          refine List.pairwise_cons.2 ⟨?_, ih htail⟩
          intro n hn
          rcases mem_insert hn with rfl | hn
          · exact lt_of_le_of_ne (not_lt.1 hnlt) (Ne.symm hne)
          · exact hhead n hn

theorem Sorted.insertAll (h : Sorted fs) (more : Fields) : Sorted (Fields.insertAll fs more) := by
  induction more generalizing fs with
  | nil => exact h
  | cons m more ih => exact ih (h.insert m.1 m.2)

theorem mem_insertAll {m : String × Json} {more : Fields} (h : m ∈ insertAll fs more) :
    m ∈ fs ∨ m ∈ more := by
  induction more generalizing fs with
  | nil => exact .inl h
  | cons n more ih =>
      rcases ih h with h | h
      · rcases mem_insert h with rfl | h
        · exact .inr (.head _)
        · exact .inl h
      · exact .inr (.tail _ h)

theorem mem_ofMembers {m : String × Json} {ms : Fields} (h : m ∈ ofMembers ms) : m ∈ ms :=
  (mem_insertAll h).resolve_left List.not_mem_nil

theorem sorted_ofMembers (ms : Fields) : Sorted (ofMembers ms) := sorted_nil.insertAll ms

theorem Sorted.get?_tail {m : String × Json} (h : Sorted (m :: fs)) : get? fs m.1 = none :=
  get?_eq_none.2 fun n hn => ((List.pairwise_cons.1 h).1 n hn).ne'

/-- Where keys are not repeated, a member is looked up before or after others are left out. -/
theorem Sorted.get?_filter (h : Sorted fs) (p : String × Json → Bool) (k : String) :
    get? (fs.filter p) k = (get? fs k).filter fun v => p (k, v) := by
  induction fs with
  | nil => rfl
  | cons m fs ih =>
      obtain ⟨l, w⟩ := m
      have ih := ih h.tail
      rw [List.filter_cons, get?_cons]
      by_cases hl : l = k
      · subst hl
        rw [h.get?_tail] at ih
        cases hp : p (l, w) <;> simp [get?_cons, ih, hp, Option.filter_some]
      · rw [if_neg hl]
        cases hp : p (l, w) <;> simp [get?_cons, hl, ih]

theorem Sorted.get?_reverse (h : Sorted fs) (k : String) : get? fs.reverse k = get? fs k := by
  induction fs with
  | nil => rfl
  | cons m fs ih =>
      rw [List.reverse_cons, get?_append, ih h.tail, get?_cons, get?_cons, get?_nil]
      by_cases hm : m.1 = k
      · rw [← hm, h.get?_tail]
        simp
      · simp [hm]

theorem Sorted.key_le {m : String × Json} (h : Sorted (m :: fs))
    (hk : get? (m :: fs) k = some v) : m.1 ≤ k := by
  rcases List.mem_cons.1 (mem_of_get? hk) with heq | hmem
  · exact (congrArg Prod.fst heq).symm.le
  · exact ((List.pairwise_cons.1 h).1 _ hmem).le

/-- Objects in key order with the same value under every key are the same. -/
theorem Sorted.ext (hf : Sorted fs) (hg : Sorted gs) (h : ∀ k, get? fs k = get? gs k) :
    fs = gs := by
  induction fs generalizing gs with
  | nil =>
      cases gs with
      | nil => rfl
      | cons n gs =>
          have hn := h n.1
          rw [get?_nil, get?_cons, if_pos rfl] at hn
          cases hn
  | cons m fs ih =>
      cases gs with
      | nil =>
          have hm := h m.1
          rw [get?_nil, get?_cons, if_pos rfl] at hm
          cases hm
      | cons n gs =>
          have hm : get? (n :: gs) m.1 = some m.2 := by rw [← h, get?_cons, if_pos rfl]
          have hn : get? (m :: fs) n.1 = some n.2 := by rw [h, get?_cons, if_pos rfl]
          -- Each head has the least key of both objects.
          have hkey : m.1 = n.1 := le_antisymm (hf.key_le hn) (hg.key_le hm)
          have hvalue : m.2 = n.2 := by
            rw [get?_cons, if_pos hkey.symm] at hm
            exact (Option.some.inj hm).symm
          obtain rfl : m = n := Prod.ext hkey hvalue
          refine congrArg (m :: ·) (ih hf.tail hg.tail fun k => ?_)
          by_cases hk : m.1 = k
          · rw [← hk, hf.get?_tail, hg.get?_tail]
          · have := h k
            rwa [get?_cons, get?_cons, if_neg hk, if_neg hk] at this

/-! ### Known and unknown keys -/

/-- Each of these keys occurs at most once. -/
def Once (names keys : List String) : Prop := keys.Pairwise fun k l => k ∈ names → k ≠ l

theorem once_nil (keys : List String) : Once [] keys :=
  List.pairwise_of_forall fun _ _ hk => absurd hk List.not_mem_nil

theorem once_of_nodup (names : List String) {keys : List String} (h : keys.Nodup) :
    Once names keys := by
  refine h.imp ?_
  intro k l hne _
  exact hne

theorem Once.get?_reverse {names : List String} (h : Once names (fs.map Prod.fst))
    (hk : k ∈ names) : get? fs.reverse k = get? fs k := by
  induction fs with
  | nil => rfl
  | cons m fs ih =>
      obtain ⟨hhead, htail⟩ := List.pairwise_cons.1 h
      rw [List.reverse_cons, get?_append, ih htail, get?_cons, get?_cons, get?_nil]
      by_cases hm : m.1 = k
      · subst hm
        have hnone : get? fs m.1 = none :=
          get?_eq_none.2 fun n hn => (hhead n.1 (List.mem_map_of_mem hn) hk).symm
        simp [hnone]
      · simp [hm]

theorem Once.find?_of_mem {τ : Type} {names : List String} {ms : List (String × τ)}
    {m : String × τ} (h : Once names (ms.map Prod.fst)) (hm : m ∈ ms) (hk : m.1 ∈ names) :
    ms.find? (·.1 == m.1) = some m := by
  induction ms with
  | nil => cases hm
  | cons n ms ih =>
      obtain ⟨hhead, htail⟩ := List.pairwise_cons.1 h
      rw [List.find?_cons]
      rcases List.mem_cons.1 hm with rfl | hm
      · rw [beq_self_eq_true]
      · by_cases hn : n.1 = m.1
        · exact absurd hn (hhead m.1 (List.mem_map_of_mem hm) (hn ▸ hk))
        · rw [beq_false_of_ne hn]
          exact ih htail hm

/-- The members of the object in key order, and their values too. -/
def ordered (fs : Fields) : Fields := ofMembers (canonicalMembers fs)

theorem canonicalMembers_eq_map (fs : Fields) :
    canonicalMembers fs = fs.map fun m => (m.1, m.2.canonical) := by
  induction fs with
  | nil => rfl
  | cons m fs ih =>
      obtain ⟨l, w⟩ := m
      rw [canonicalMembers, ih, List.map_cons]

theorem get?_ordered (fs : Fields) (k : String) :
    get? (ordered fs) k = (get? fs.reverse k).map canonical := by
  rw [ordered, get?_ofMembers, canonicalMembers_eq_map, ← List.map_reverse, get?_map]

theorem Once.get?_ordered {names : List String} (h : Once names (fs.map Prod.fst))
    (hk : k ∈ names) : get? (ordered fs) k = (get? fs k).map canonical := by
  rw [Fields.get?_ordered, h.get?_reverse hk]

/-- The members under other keys. -/
def others (names : List String) (fs : Fields) : Fields :=
  ofMembers ((fs.filter fun m => !names.contains m.1).map fun m => (m.1, m.2.canonical))

theorem get?_others (names : List String) (fs : Fields) (k : String) :
    get? (others names fs) k = if k ∈ names then none else get? (ordered fs) k := by
  rw [others, get?_ofMembers, ← List.map_reverse, get?_map, ← List.filter_reverse,
    get?_filter fun k => !names.contains k, get?_ordered]
  by_cases hk : k ∈ names <;> simp [hk]

theorem sorted_others (names : List String) (fs : Fields) : Sorted (others names fs) :=
  sorted_ofMembers _

end Fields

theorem canonical_obj (fs : Fields) : canonical (.obj fs) = .obj (Fields.ordered fs) := by
  rw [canonical, Fields.ordered]

theorem canonicalItems_eq_map (vs : List Json) : canonicalItems vs = vs.map canonical := by
  induction vs with
  | nil => rfl
  | cons v vs ih => rw [canonicalItems, ih, List.map_cons]

/-! ### Paths -/

def isString : Json → Bool
  | .str _ => true
  | _ => false

/-- What stands under these keys, one inside the other. -/
def at? : Json → List String → Option Json
  | v, [] => some v
  | .obj fs, k :: path => (Fields.get? fs k).bind fun v => v.at? path
  | _, _ :: _ => none

end InlineRelay.Json
