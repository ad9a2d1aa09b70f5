import InlineRelay.Proofs.Json.Reading

/-! Documents as sources: a document that has a value shows it, and can be passed over. -/
namespace InlineRelay.Json

/-- Sources in which a value that can be read can be passed over as well. -/
class Passable (τ : Type) [Source τ] : Prop extends Faithful τ where
  skip : ∀ {x : τ} {v : Json}, Source.content x = .ok v → Source.skip x = .ok ()

instance : Passable Json where
  skip _ := rfl

instance : Passable Aside where
  skip _ := rfl

namespace Doc

theorem content_eq_ok {d : Doc} {v : Json} :
    Source.content d = .ok v ↔ Doc.content d = .ok v := by
  unfold Source.content instSourceDoc
  dsimp only
  cases Doc.content d <;> simp [Except.mapError]

theorem contentItems_eq_ok {ds : List Doc} {vs : List Json} :
    contentItems ds = .ok vs ↔ List.Forall₂ (fun d v => Doc.content d = .ok v) ds vs := by
  induction ds generalizing vs with
  | nil =>
      rw [contentItems, List.forall₂_nil_left_iff, Except.ok.injEq]
      exact eq_comm
  | cons d ds ih =>
      simp only [contentItems, bind_eq_ok, pure, Except.pure, Except.ok.injEq, ih,
        List.forall₂_cons_left_iff]
      constructor
      · rintro ⟨v, hv, ws, hws, rfl⟩
        exact ⟨v, ws, hv, hws, rfl⟩
      · rintro ⟨v, ws, hv, hws, rfl⟩
        exact ⟨v, hv, ws, hws, rfl⟩

theorem contentMembers_eq_ok {ms : List (Option String × Doc)} {fs : Fields} :
    contentMembers ms = .ok fs ↔
      List.Forall₂ (fun m n => m.1 = some n.1 ∧ Doc.content m.2 = .ok n.2) ms fs := by
  induction ms generalizing fs with
  | nil =>
      rw [contentMembers, List.forall₂_nil_left_iff, Except.ok.injEq]
      exact eq_comm
  | cons m ms ih =>
      obtain ⟨key, d⟩ := m
      cases key with
      | none => simp [contentMembers, List.forall₂_cons_left_iff]
      | some k =>
          simp only [contentMembers, bind_eq_ok, pure, Except.pure, Except.ok.injEq, ih,
            List.forall₂_cons_left_iff]
          constructor
          · rintro ⟨v, hv, gs, hgs, rfl⟩
            exact ⟨(k, v), gs, ⟨rfl, hv⟩, hgs, rfl⟩
          · rintro ⟨⟨l, v⟩, gs, ⟨hl, hv⟩, hgs, rfl⟩
            cases hl
            exact ⟨v, hv, gs, hgs, rfl⟩

theorem content_arr {ds : List Doc} {cut : Option Fault} {v : Json} :
    Doc.content (.arr ds cut) = .ok v ↔
      cut = none ∧ ∃ vs, v = .arr vs ∧ List.Forall₂ (fun d v => Doc.content d = .ok v) ds vs := by
  simp only [Doc.content, bind_eq_ok, contentItems_eq_ok]
  cases cut with
  | none => simp [eq_comm, and_comm]
  | some f => simp

theorem content_obj {ms : List (Option String × Doc)} {cut : Option Fault} {v : Json} :
    Doc.content (.obj ms cut) = .ok v ↔ cut = none ∧ ∃ fs, v = .obj fs ∧
      List.Forall₂ (fun m n => m.1 = some n.1 ∧ Doc.content m.2 = .ok n.2) ms fs := by
  simp only [Doc.content, bind_eq_ok, contentMembers_eq_ok]
  cases cut with
  | none => simp [eq_comm, and_comm]
  | some f => simp

/-- Members that all have their names are all legible. -/
theorem legible_of_named {ms : List (Option String × Doc)} {fs : Fields} (cut : Option Fault)
    (h : List.Forall₂ (fun m n => m.1 = some n.1 ∧ Doc.content m.2 = .ok n.2) ms fs) :
    Members (legible ms cut).1 fs ∧ (legible ms cut).2 = cut := by
  induction h with
  | nil => exact ⟨.nil, rfl⟩
  | @cons m n ms fs hm _ ih =>
      obtain ⟨key, d⟩ := m
      obtain ⟨rfl, hd⟩ : key = some n.1 ∧ Doc.content d = .ok n.2 := hm
      rw [legible]
      exact ⟨.cons ⟨rfl, content_eq_ok.2 hd⟩ ih.1, ih.2⟩

instance : Faithful Doc where
  shows := by
    intro d v hd
    rw [content_eq_ok] at hd
    cases d with
    | null =>
        cases hd
        exact .null
    | bool b =>
        cases hd
        exact .bool b
    | num n =>
        cases hd
        exact .num n
    | str s =>
        cases hd
        exact .str s
    | arr ds cut =>
        obtain ⟨rfl, vs, rfl, hvs⟩ := content_arr.1 hd
        exact .arr (hvs.imp fun _ _ => content_eq_ok.2)
    | obj ms cut =>
        obtain ⟨rfl, fs, rfl, hfs⟩ := content_obj.1 hd
        obtain ⟨hmembers, hcut⟩ := legible_of_named none hfs
        have hview : Source.view (Doc.obj ms none) = .obj (legible ms none).1 (legible ms none).2 :=
          rfl
        rw [hview, hcut]
        exact .obj hmembers
    | spoilt form => cases hd
    | broken read skip => cases hd

mutual
theorem skip_of_content {d : Doc} {v : Json} (h : Doc.content d = .ok v) : Doc.skip d = .ok () := by
  cases d with
  | null | bool | num | str => rfl
  | arr ds cut =>
      obtain ⟨rfl, vs, -, hvs⟩ := content_arr.1 h
      rw [Doc.skip, skipItems_of_content hvs]
      rfl
  | obj ms cut =>
      obtain ⟨rfl, fs, -, hfs⟩ := content_obj.1 h
      rw [Doc.skip, skipMembers_of_content hfs]
      rfl
  | spoilt form => cases h
  | broken read skip => cases h
theorem skipItems_of_content {ds : List Doc} {vs : List Json}
    (h : List.Forall₂ (fun d v => Doc.content d = .ok v) ds vs) : skipItems ds = .ok () := by
  cases h with
  | nil => rfl
  | cons hd hds =>
      rw [skipItems, skip_of_content hd]
      exact skipItems_of_content hds
theorem skipMembers_of_content {ms : List (Option String × Doc)} {fs : Fields}
    (h : List.Forall₂ (fun m n => m.1 = some n.1 ∧ Doc.content m.2 = .ok n.2) ms fs) :
    skipMembers ms = .ok () := by
  cases h with
  | nil => rfl
  | @cons m _ ms _ hm hms =>
      obtain ⟨key, d⟩ := m
      rw [skipMembers, skip_of_content hm.2]
      exact skipMembers_of_content hms
end

instance : Passable Doc where
  skip h := by
    have hskip := skip_of_content (content_eq_ok.1 h)
    unfold Source.skip instSourceDoc
    dsimp only
    rw [hskip]
    rfl

end Doc

end InlineRelay.Json
