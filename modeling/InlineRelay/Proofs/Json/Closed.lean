import InlineRelay.Proofs.Json.Document
import InlineRelay.Proofs.Json.Record

/-!
Closed records as read: objects whose unknown members are passed over, or arrays that give the
fields by position.
-/
namespace InlineRelay.Json

open Fields (Once get? present?)

/-- The fields of a record: the members of an object, or the items of an array under the names in
order. Fields marked as elastic may be left out at its end. -/
inductive Closed (fields : List (String × Bool)) : Json → Fields → Prop
  | object {fs : Fields} : Once (fields.map Prod.fst) (fs.map Prod.fst) → Closed fields (.obj fs) fs
  | array {vs : List Json} : vs.length ≤ fields.length →
      (∀ f ∈ fields.drop vs.length, f.2) →
      Closed fields (.arr vs) ((fields.map Prod.fst).zip vs)

/-- The fields of a record at one level of a value: the members of an object, or the items of an
array under the names in order. -/
inductive Listed {τ : Type} (fields : List (String × Bool)) : View τ → List (String × τ) → Prop
  | object {ms : List (String × τ)} : Once (fields.map Prod.fst) (ms.map Prod.fst) →
      Listed fields (.obj ms none) ms
  | array {items : List τ} : items.length ≤ fields.length →
      (∀ f ∈ fields.drop items.length, f.2) →
      Listed fields (.arr items none) ((fields.map Prod.fst).zip items)

section Values
variable {τ α : Type} [Source τ]

theorem reads_anything : Reads (anything : τ → Decoded Json) fun v j => v.canonical = j := by
  intro x v hx j
  simp [anything, hx, bind, Except.bind, pure, Except.pure]

theorem reads_boolean [Faithful τ] : Reads (boolean : τ → Decoded Bool) fun v b => v = .bool b := by
  intro x v hx b
  have h := Faithful.shows hx
  unfold boolean
  generalize Source.view x = w at h ⊢
  cases h <;> simp

theorem integer_eq_ok {x : τ} {least greatest i : Int} {shape : Shape} :
    integer least greatest shape x = .ok i ↔
      Source.view x = .num (.int i) ∧ least ≤ i ∧ i ≤ greatest := by
  unfold integer
  cases Source.view x with
  | null | bool | str | arr | obj | broken => simp
  | num n =>
      cases n with
      | double d => simp
      | int j =>
          simp only [View.num.injEq, Number.int.injEq]
          split
          · next hj =>
            rw [Except.ok.injEq]
            constructor
            · rintro rfl
              exact ⟨rfl, hj⟩
            · rintro ⟨rfl, -⟩
              rfl
          · next hj =>
            constructor
            · intro h
              cases h
            · rintro ⟨rfl, hi⟩
              exact absurd hi hj

theorem reads_integer [Faithful τ] (least greatest : Int) (shape : Shape) :
    Reads (integer least greatest shape : τ → Decoded Int) fun v i =>
      v = .int i ∧ least ≤ i ∧ i ≤ greatest := by
  intro x v hx i
  rw [integer_eq_ok]
  have h := Faithful.shows hx
  generalize Source.view x = w at h ⊢
  cases h <;> simp [int]

theorem reads_int32 [Faithful τ] : Reads (int32 : τ → Decoded Int) fun v i =>
    v = .int i ∧ -0x80000000 ≤ i ∧ i ≤ 0x7FFFFFFF := reads_integer _ _ .int32

theorem reads_int64 [Faithful τ] : Reads (int64 : τ → Decoded Int) fun v i =>
    v = .int i ∧ -0x8000000000000000 ≤ i ∧ i ≤ 0x7FFFFFFFFFFFFFFF := reads_integer _ _ .int64

/-- A field with a default is what it says or, where it is left out, the default. -/
theorem withDefault_eq_ok {read : τ → Decoded α} {R : Json → α → Prop} {name : String}
    {ms : List (String × τ)} {fs : Fields} (h : Reads read R) (hms : Members ms fs) (value a : α) :
    (Field.withDefault name read value).get ms = .ok a ↔
      (get? fs name).elim (a = value) fun v => R v a := by
  have hfind := hms.find? name
  unfold Field.get Field.withDefault
  generalize ms.find? _ = m at hfind ⊢
  generalize get? fs name = v at hfind ⊢
  cases hfind with
  | none => simp [eq_comm]
  | some hv => simp [h hv]

end Values

section Items
variable {τ : Type} [Source τ] {slots : List (Slot τ)} {items : List τ}
  {ms : List (String × τ)}

theorem checkItems_nil {sized : Shape} {index : Nat} :
    checkItems sized none index slots [] = .ok ms ↔ (∀ s ∈ slots, s.elastic) ∧ ms = [] := by
  induction slots generalizing index with
  | nil =>
      rw [checkItems]
      simp only [intact, bind_eq_ok, pure, Except.pure, Except.ok.injEq, List.not_mem_nil,
        false_imp_iff, implies_true, true_and, exists_const]
      exact eq_comm
  | cons s slots ih =>
      rw [checkItems, List.forall_mem_cons]
      simp only [intact, bind_eq_ok]
      cases hs : s.elastic with
      | true => simp [ih]
      | false => simp

theorem checkItems_eq_ok {sized : Shape} {index : Nat} :
    checkItems sized none index slots items = .ok ms ↔
      items.length ≤ slots.length ∧ (∀ s ∈ slots.drop items.length, s.elastic) ∧
        (∀ p ∈ slots.zip items, p.1.check p.2 = .ok ()) ∧ ms = (slots.map Slot.name).zip items := by
  induction slots generalizing index items ms with
  | nil =>
      cases items with
      | nil => simp [checkItems_nil]
      | cons x items => simp [checkItems]
  | cons s slots ih =>
      cases items with
      | nil => simp [checkItems_nil]
      | cons x items =>
          simp only [checkItems, bind_eq_ok, ih, pure, Except.pure, Except.ok.injEq,
            List.length_cons, Nat.add_le_add_iff_right, List.drop_succ_cons, List.zip_cons_cons,
            List.forall_mem_cons, List.map_cons]
          constructor
          · rintro ⟨_, hcheck, _, ⟨hlength, helastic, hchecks, rfl⟩, rfl⟩
            exact ⟨hlength, helastic, ⟨hcheck, hchecks⟩, rfl⟩
          · rintro ⟨hlength, helastic, ⟨hcheck, hchecks⟩, rfl⟩
            exact ⟨(), hcheck, _, ⟨hlength, helastic, hchecks, rfl⟩, rfl⟩

/-- An array that breaks off is no record. -/
theorem checkItems_cut {sized : Shape} {f : Fault} {index : Nat} :
    checkItems sized (some f) index slots items ≠ .ok ms := by
  induction slots generalizing index items ms with
  | nil => cases items <;> simp [checkItems, intact]
  | cons s slots ih =>
      cases items with
      | nil => simp [checkItems, intact, bind_eq_ok]
      | cons x items =>
          intro h
          rw [checkItems] at h
          obtain ⟨_, -, h⟩ := bind_eq_ok.1 h
          obtain ⟨ls, hls, -⟩ := bind_eq_ok.1 h
          exact ih hls

omit [Source τ] in
theorem map_fst_zip_sublist (keys : List String) (items : List τ) :
    ((keys.zip items).map Prod.fst).Sublist keys := by
  induction keys generalizing items with
  | nil => exact .slnil
  | cons k keys ih =>
      cases items with
      | nil => exact List.nil_sublist _
      | cons x items => exact (ih items).cons_cons k

omit [Source τ] in
theorem once_zip (names : List String) {keys : List String} (h : keys.Nodup) (items : List τ) :
    Once names ((keys.zip items).map Prod.fst) :=
  Fields.once_of_nodup names ((map_fst_zip_sublist keys items).nodup h)

theorem members_zip (keys : List String) {vs : List Json}
    (h : List.Forall₂ (fun x v => Source.content x = .ok v) items vs) :
    Members (keys.zip items) (keys.zip vs) := by
  induction h generalizing keys with
  | nil => simp [Members]
  | cons hx _ ih =>
      cases keys with
      | nil => exact .nil
      | cons k keys => exact .cons ⟨rfl, hx⟩ (ih keys)

omit [Source τ] in
theorem checks_of_passes (h : ∀ s ∈ slots, s.Passes ((slots.map Slot.name).zip items)) :
    ∀ p ∈ slots.zip items, p.1.check p.2 = .ok () := by
  intro p hp
  have hmem : (p.1.name, p.2) ∈ (slots.map Slot.name).zip items := by
    rw [List.zip_map_left]
    exact List.mem_map_of_mem hp
  exact h p.1 (List.of_mem_zip hp).1 _ hmem rfl

end Items

section Records
variable {τ : Type} [Source τ] {ms : List (String × τ)} {slots : List (Slot τ)}
  {fields : List (String × Bool)}

/-- A decoder that closes a record and builds a result of its fields, where all else can be passed
over. -/
theorem closedRecord_eq_ok {ρ : Type} {x : τ} {title : String}
    {build : List (String × τ) → Decoded ρ}
    (hfields : slots.map (fun s => (s.name, s.elastic)) = fields)
    (hnodup : (fields.map Prod.fst).Nodup)
    (hskip : ∀ ms cut, Source.view x = .obj ms cut → ∀ m ∈ ms, Source.skip m.2 = .ok ())
    (hpasses : ∀ {ms r}, Once (fields.map Prod.fst) (ms.map Prod.fst) → build ms = .ok r →
      ∀ s ∈ slots, s.Passes ms) {r : ρ} :
    (closedRecord title slots x >>= build) = .ok r ↔
      ∃ ms, Listed fields (Source.view x) ms ∧ build ms = .ok r := by
  subst hfields
  have hnames : (slots.map fun s => (s.name, s.elastic)).map Prod.fst = slots.map Slot.name := by
    rw [List.map_map]
    rfl
  rw [hnames] at hnodup hpasses
  rw [bind_eq_ok]
  unfold closedRecord
  generalize Source.view x = w at hskip ⊢
  cases w with
  | null | bool | num | str | broken =>
      constructor
      · rintro ⟨_, h, -⟩
        cases h
      · rintro ⟨_, h, -⟩
        cases h
  | obj ms cut =>
      have hchecked := checkMembers_eq_ok hnodup (hskip ms cut rfl) []
      constructor
      · rintro ⟨ls, h, hr⟩
        obtain ⟨_, hcheck, h⟩ := bind_eq_ok.1 h
        obtain ⟨_, hcut, h⟩ := bind_eq_ok.1 h
        cases h
        cases cut with
        | some f => cases hcut
        | none => exact ⟨ms, .object (hnames ▸ (hchecked.1 hcheck).2.1), hr⟩
      · rintro ⟨ls, h, hr⟩
        cases h with
        | object honce =>
            rw [hnames] at honce
            have hcheck := hchecked.2 ⟨fun _ _ _ => List.not_mem_nil, honce, hpasses honce hr⟩
            exact ⟨ms, bind_eq_ok.2 ⟨(), hcheck, rfl⟩, hr⟩
  | arr items cut =>
      have honce := once_zip (slots.map Slot.name) hnodup items
      constructor
      · rintro ⟨ls, h, hr⟩
        cases cut with
        | some f => exact absurd h checkItems_cut
        | none =>
            obtain ⟨hlength, helastic, -, rfl⟩ := checkItems_eq_ok.1 h
            refine ⟨_, .array ?_ ?_, hnames.symm ▸ hr⟩
            · rwa [List.length_map]
            · rwa [← List.map_drop, List.forall_mem_map]
      · rintro ⟨ls, h, hr⟩
        cases h with
        | array hlength helastic =>
            rw [hnames] at hr
            rw [List.length_map] at hlength
            rw [← List.map_drop, List.forall_mem_map] at helastic
            have hchecks := checks_of_passes (hpasses honce hr)
            exact ⟨_, checkItems_eq_ok.2 ⟨hlength, helastic, hchecks, rfl⟩, hr⟩

theorem view_of_arr [Faithful τ] {x : τ} {vs : List Json} (hx : Source.content x = .ok (.arr vs)) :
    ∃ xs, Source.view x = .arr xs none ∧
      List.Forall₂ (fun x v => Source.content x = .ok v) xs vs := by
  have h := Faithful.shows hx
  generalize Source.view x = w at h ⊢
  cases h with
  | arr hvs => exact ⟨_, rfl, hvs⟩

/-- The fields that a value lists are those of its record. -/
theorem Listed.closed [Faithful τ] {x : τ} {v : Json} (hx : Source.content x = .ok v)
    (h : Listed fields (Source.view x) ms) : ∃ fs, Closed fields v fs ∧ Members ms fs := by
  have hv := Faithful.shows hx
  generalize Source.view x = w at h hv
  cases h with
  | object honce =>
      cases hv with
      | obj hms => exact ⟨_, .object (hms.keys ▸ honce), hms⟩
  | array hlength helastic =>
      cases hv with
      | arr hvs =>
          rw [hvs.length_eq] at hlength helastic
          exact ⟨_, .array hlength helastic, members_zip _ hvs⟩

theorem Closed.listed [Faithful τ] {x : τ} {v : Json} {fs : Fields}
    (hx : Source.content x = .ok v) (h : Closed fields v fs) :
    ∃ ms, Listed fields (Source.view x) ms ∧ Members ms fs := by
  cases h with
  | object honce =>
      obtain ⟨ms, hview, hms⟩ := view_of_obj hx
      exact ⟨ms, hview ▸ .object (hms.keys.symm ▸ honce), hms⟩
  | array hlength helastic =>
      obtain ⟨xs, hview, hxs⟩ := view_of_arr hx
      rw [← hxs.length_eq] at hlength helastic
      exact ⟨_, hview ▸ .array hlength helastic, members_zip _ hxs⟩

/-- A decoder that closes a record and builds a result of its fields accepts the objects whose
known keys occur once each and the arrays that give the fields, if they build it. -/
theorem reads_closedRecord [Passable τ] {ρ : Type} {title : String}
    (fields : List (String × Bool)) {build : List (String × τ) → Decoded ρ}
    {R : Fields → ρ → Prop} (hfields : slots.map (fun s => (s.name, s.elastic)) = fields)
    (hnodup : (fields.map Prod.fst).Nodup)
    (hbuild : ∀ {ms fs}, Members ms fs → ∀ r, build ms = .ok r ↔ R fs r)
    (hpasses : ∀ {ms r}, Once (fields.map Prod.fst) (ms.map Prod.fst) → build ms = .ok r →
      ∀ s ∈ slots, s.Passes ms) :
    Reads (fun x => closedRecord title slots x >>= build) fun v r =>
      ∃ fs, Closed fields v fs ∧ R fs r := by
  intro x v hx r
  have hskip : ∀ ms cut, Source.view x = .obj ms cut → ∀ m ∈ ms, Source.skip m.2 = .ok () := by
    intro ms cut hview m hm
    obtain ⟨-, fs, -, hms⟩ := members_of_view hx hview
    obtain ⟨u, hu⟩ := hms.content m hm
    exact Passable.skip hu
  rw [closedRecord_eq_ok hfields hnodup hskip hpasses]
  constructor
  · rintro ⟨ms, hms, hr⟩
    obtain ⟨fs, hfs, hmembers⟩ := hms.closed hx
    exact ⟨fs, hfs, (hbuild hmembers r).1 hr⟩
  · rintro ⟨fs, hfs, hr⟩
    obtain ⟨ms, hms, hmembers⟩ := hfs.listed hx
    exact ⟨ms, hms, (hbuild hmembers r).2 hr⟩

end Records

end InlineRelay.Json
