import InlineRelay.Proofs.Json.Record

/-!
The shape of an object: what stands under each of its keys. Members under keys that a shape does
not name are not part of it.
-/
namespace InlineRelay.Json

def isObject : Json → Bool
  | .obj _ => true
  | _ => false

namespace Fields
variable {fs gs : Fields} {k : String} {v : Json} {names : List String}

/-- All that stands under a key, which is one value at most where keys are not repeated. -/
def under (fs : Fields) (k : String) : List Json :=
  fs.filterMap fun m => if m.1 = k then some m.2 else none

@[simp] theorem under_nil (k : String) : under [] k = [] := rfl

theorem under_cons (m : String × Json) (fs : Fields) (k : String) :
    under (m :: fs) k = if m.1 = k then m.2 :: under fs k else under fs k := by
  rw [under, List.filterMap_cons]
  by_cases h : m.1 = k <;> simp [h, under]

theorem head?_under (fs : Fields) (k : String) : (under fs k).head? = get? fs k := by
  induction fs with
  | nil => rfl
  | cons m fs ih =>
      rw [under_cons, get?_cons]
      by_cases h : m.1 = k <;> simp [h, ih]

theorem under_reverse (fs : Fields) (k : String) : under fs.reverse k = (under fs k).reverse := by
  rw [under, List.filterMap_reverse, under]

theorem getLast?_under (fs : Fields) (k : String) :
    (under fs k).getLast? = get? fs.reverse k := by
  rw [← head?_under, under_reverse, List.head?_reverse]

theorem under_eq_nil : under fs k = [] ↔ ∀ m ∈ fs, m.1 ≠ k := by
  simp [under]

theorem under_filter (p : String → Bool) (fs : Fields) (hk : p k) :
    under (fs.filter fun m => p m.1) k = under fs k := by
  induction fs with
  | nil => rfl
  | cons m fs ih =>
      rw [List.filter_cons]
      cases hm : p m.1 with
      | true => rw [if_pos rfl, under_cons, under_cons, ih]
      | false =>
          have hne : m.1 ≠ k := fun heq => by simp [heq, hk] at hm
          rw [if_neg Bool.false_ne_true, under_cons, if_neg hne, ih]

theorem under_untagged (hk : k ≠ tagKey) : under (untagged fs) k = under fs k :=
  under_filter (fun k => decide (k ≠ tagKey)) fs (decide_eq_true hk)

theorem once_iff :
    Once names (fs.map Prod.fst) ↔ ∀ k ∈ names, (under fs k).length ≤ 1 := by
  induction fs with
  | nil => simp [Once]
  | cons m fs ih =>
      have hfresh : (∀ l ∈ fs.map Prod.fst, m.1 ∈ names → m.1 ≠ l) ↔
          (m.1 ∈ names → under fs m.1 = []) := by
        rw [List.forall_mem_map, under_eq_nil]
        exact ⟨fun h hm n hn => (h n hn hm).symm, fun h n hn hm => (h hm n hn).symm⟩
      have hcons : Once names ((m :: fs).map Prod.fst) ↔
          (m.1 ∈ names → under fs m.1 = []) ∧ Once names (fs.map Prod.fst) := by
        rw [← hfresh]
        exact List.pairwise_cons
      rw [hcons, ih]
      constructor
      · rintro ⟨hhead, htail⟩ k hk
        rw [under_cons]
        split
        · next heq =>
          subst heq
          simp [hhead hk]
        · exact htail k hk
      · intro h
        refine ⟨fun hm => ?_, fun k hk => ?_⟩
        · have := h m.1 hm
          rw [under_cons, if_pos rfl] at this
          simpa using this
        · have := h k hk
          rw [under_cons] at this
          split at this
          · exact (Nat.le_succ _).trans this
          · exact this

/-- The one value under a key. -/
theorem under_eq_singleton (h : (under fs k).length ≤ 1) :
    under fs k = [v] ↔ get? fs k = some v := by
  rw [← head?_under]
  match under fs k, h with
  | [], _ => simp
  | [w], _ => simp

theorem get?_of_under_eq {vs : List Json} (h : under fs k = v :: vs) : get? fs k = some v := by
  rw [← head?_under, h]
  rfl

theorem length_under_of_eq_singleton (h : under fs k = [v]) : (under fs k).length ≤ 1 := by
  rw [h]
  exact Nat.le_refl 1

/-- A member that is there and not null. -/
def carries (fs : Fields) (k : String) : Bool := (under fs k).getLast?.any (!·.isNull)

end Fields

open Fields (under get? present? Once others)

/-- Nothing, null, or one value of a kind. -/
def Nullable (P : Json → Prop) (vs : List Json) : Prop :=
  vs = [] ∨ vs = [.null] ∨ ∃ v, vs = [v] ∧ P v

section Nullable
variable {α : Type} {fs : Fields} {k : String} {P : Json → Prop} {R : Json → α → Prop}

theorem Nullable.length_le {vs : List Json} (h : Nullable P vs) : vs.length ≤ 1 := by
  rcases h with rfl | rfl | ⟨v, rfl, -⟩ <;> simp

/-- An optional member can be read when it is missing, null or of its kind. -/
theorem exists_present_iff (hP : ∀ v ∈ present? fs k, P v ↔ ∃ a, R v a)
    (h : (under fs k).length ≤ 1) :
    (∃ o, Option.Rel R (present? fs k) o) ↔ Nullable P (under fs k) := by
  unfold Nullable
  unfold present? at hP ⊢
  rw [← Fields.head?_under] at hP ⊢
  generalize under fs k = vs at hP h ⊢
  match vs, h with
  | [], _ =>
      refine iff_of_true ⟨none, ?_⟩ (.inl rfl)
      exact .none
  | [v], _ =>
      by_cases hnull : v = .null
      · subst hnull
        refine iff_of_true ⟨none, ?_⟩ (.inr (.inl rfl))
        exact .none
      · have hv : v.isNull = false := by cases v <;> first | rfl | exact absurd rfl hnull
        have hread := hP v (by simp [hv])
        simp only [List.head?_cons, Option.filter_some, hv, Bool.not_false, if_true]
        constructor
        · rintro ⟨o, ho⟩
          cases ho with
          | some ha => exact .inr (.inr ⟨v, rfl, hread.2 ⟨_, ha⟩⟩)
        · rintro (h | h | ⟨w, hw, hPw⟩)
          · cases h
          · exact absurd (List.singleton_inj.1 h) hnull
          · obtain rfl := List.singleton_inj.1 hw
            obtain ⟨a, ha⟩ := hread.1 hPw
            exact ⟨some a, .some ha⟩

/-- Each item has its reading when all of them have one. -/
theorem exists_forall₂ {vs : List Json} :
    (∃ as, List.Forall₂ R vs as) ↔ ∀ v ∈ vs, ∃ a, R v a := by
  induction vs with
  | nil => simp
  | cons v vs ih =>
      rw [List.forall_mem_cons, ← ih]
      constructor
      · rintro ⟨_, h⟩
        obtain ⟨a, as, ha, has, rfl⟩ := List.forall₂_cons_left_iff.1 h
        exact ⟨⟨a, ha⟩, as, has⟩
      · rintro ⟨⟨a, ha⟩, as, has⟩
        exact ⟨a :: as, .cons ha has⟩

end Nullable

/-- An object with one tag, of this kind. -/
def Tagged (T : Json → Prop) (v : Json) : Prop :=
  ∃ fs, v = .obj fs ∧ ∃ t, under fs tagKey = [t] ∧ T t

theorem exists_tagRecord_iff {κ : Type} {K : Json → κ → Prop} {v : Json} :
    (∃ kind extra, TagRecord K v kind extra) ↔ Tagged (fun t => ∃ kind, K t kind) v := by
  constructor
  · rintro ⟨kind, _, fs, rfl, honce, ⟨t, ht, hkind⟩, -⟩
    have hone := Fields.once_iff.1 honce tagKey (List.mem_singleton.2 rfl)
    exact ⟨fs, rfl, t, (Fields.under_eq_singleton hone).2 ht, kind, hkind⟩
  · rintro ⟨fs, rfl, t, ht, kind, hkind⟩
    have hone := Fields.length_under_of_eq_singleton ht
    refine ⟨kind, _, fs, rfl, Fields.once_iff.2 ?_, ⟨t, ?_, hkind⟩, rfl⟩
    · exact List.forall_mem_singleton.2 hone
    · exact (Fields.under_eq_singleton hone).1 ht

/-! ### More members -/

/-- The same members, with more among them under other keys than these. What stands under a key
may have widened in its own way. -/
inductive Fields.Widened (names : List String) (wider : String → Json → Json → Prop) :
    Fields → Fields → Prop
  | nil : Widened names wider [] []
  | keep {k : String} {v w : Json} {fs gs : Fields} : v = w ∨ wider k v w →
      Widened names wider fs gs → Widened names wider ((k, v) :: fs) ((k, w) :: gs)
  | add {k : String} {w : Json} {fs gs : Fields} : k ∉ names →
      Widened names wider fs gs → Widened names wider fs ((k, w) :: gs)

/-- An object with more members, under other keys than these. -/
def Widened (names : List String) (wider : String → Json → Json → Prop) (v w : Json) : Prop :=
  ∃ fs gs, v = .obj fs ∧ w = .obj gs ∧ Fields.Widened names wider fs gs

section Widened
variable {names : List String} {wider : String → Json → Json → Prop} {fs gs : Fields}

theorem Fields.Widened.under (h : Fields.Widened names wider fs gs) {k : String}
    (hk : k ∈ names) :
    List.Forall₂ (fun v w => v = w ∨ wider k v w) (fs.under k) (gs.under k) := by
  induction h with
  | nil => exact .nil
  | @keep l v w fs gs hvw _ ih =>
      rw [Fields.under_cons, Fields.under_cons]
      by_cases hl : l = k
      · subst hl
        simp only [if_pos]
        exact .cons hvw ih
      · simpa only [if_neg hl] using ih
  | @add l w fs gs hl _ ih =>
      have hne : l ≠ k := fun heq => hl (heq ▸ hk)
      rw [Fields.under_cons, if_neg hne]
      exact ih

/-- A key under which nothing widens has the same values. -/
theorem Fields.Widened.under_eq (h : Fields.Widened names wider fs gs) {k : String}
    (hk : k ∈ names) (hnone : ∀ v w, ¬ wider k v w) : fs.under k = gs.under k :=
  List.forall₂_eq_eq_eq ▸ (h.under hk).imp fun v w hvw => hvw.resolve_right (hnone v w)

theorem Fields.Widened.get? (h : Fields.Widened names wider fs gs) {k : String} (hk : k ∈ names) :
    Option.Rel (fun v w => v = w ∨ wider k v w) (fs.get? k) (gs.get? k) := by
  have hall := h.under hk
  rw [← Fields.head?_under, ← Fields.head?_under]
  generalize fs.under k = vs at hall ⊢
  generalize gs.under k = ws at hall ⊢
  cases hall with
  | nil => exact .none
  | cons hvw _ => exact .some hvw

/-- What is found along a path was there before the object widened, if what the path goes on
through widened in that manner. -/
theorem Widened.at? {v w : Json} (h : Widened names wider v w) {k : String} (hk : k ∈ names)
    {path : List String}
    (hnext : ∀ u u', wider k u u' → ∀ t ∈ u'.at? path, t ∈ u.at? path) :
    ∀ t ∈ w.at? (k :: path), t ∈ v.at? (k :: path) := by
  obtain ⟨fs, gs, rfl, rfl, hfs⟩ := h
  have hfirst := hfs.get? hk
  intro t ht
  rw [Json.at?] at ht ⊢
  generalize Fields.get? fs k = o at hfirst ⊢
  generalize Fields.get? gs k = p at hfirst ht
  cases hfirst with
  | none => exact ht
  | some hvw =>
      rcases hvw with rfl | hvw
      · exact ht
      · exact hnext _ _ hvw t ht

/-- Shapes that widening leaves alone, of an optional member. -/
theorem nullable_congr {P : Json → Prop} {S : Json → Json → Prop} {vs ws : List Json}
    (hP : ∀ v w, S v w → (P v ↔ P w)) (hnull : ∀ v w, S v w → v ≠ .null ∧ w ≠ .null)
    (h : List.Forall₂ (fun v w => v = w ∨ S v w) vs ws) : Nullable P vs ↔ Nullable P ws := by
  cases h with
  | nil => exact Iff.rfl
  | @cons v w vs ws hvw hrest =>
      cases hrest with
      | cons _ _ =>
          constructor
          · intro h
            simpa using h.length_le
          · intro h
            simpa using h.length_le
      | nil =>
          rcases hvw with rfl | hvw
          · exact Iff.rfl
          · obtain ⟨hv, hw⟩ := hnull v w hvw
            simp [Nullable, hv, hw, hP v w hvw]

end Widened

end InlineRelay.Json
