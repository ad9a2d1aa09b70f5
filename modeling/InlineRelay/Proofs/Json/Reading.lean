import InlineRelay.Json.Decode
import InlineRelay.Proofs.Json.Fields
import InlineRelay.Proofs.Success

/-!
What decoders accept. A faithful source shows at each level what it holds, so that a decoder
can be described by the JSON values it turns into its results.
-/
namespace InlineRelay.Json

section Sources
variable {τ : Type} [Source τ]

/-- Members with these keys and contents. -/
def Members (ms : List (String × τ)) (fs : Fields) : Prop :=
  List.Forall₂ (fun m n => m.1 = n.1 ∧ Source.content m.2 = .ok n.2) ms fs

/-- One level of a value, and the value. -/
inductive Shows : View τ → Json → Prop
  | null : Shows .null .null
  | bool (b : Bool) : Shows (.bool b) (.bool b)
  | num (n : Number) : Shows (.num n) (.num n)
  | str (s : String) : Shows (.str s) (.str s)
  | arr {xs : List τ} {vs : List Json} :
      List.Forall₂ (fun x v => Source.content x = .ok v) xs vs → Shows (.arr xs none) (.arr vs)
  | obj {ms : List (String × τ)} {fs : Fields} : Members ms fs → Shows (.obj ms none) (.obj fs)

end Sources

class Faithful (τ : Type) [Source τ] : Prop where
  shows : ∀ {x : τ} {v : Json}, Source.content x = .ok v → Shows (Source.view x) v

instance : Faithful Json where
  shows := by
    intro x v hx
    obtain rfl : x = v := Except.ok.inj hx
    cases x with
    | null => exact .null
    | bool b => exact .bool b
    | num n => exact .num n
    | str s => exact .str s
    | arr items => exact .arr (List.forall₂_same.2 fun _ _ => rfl)
    | obj ms => exact .obj (List.forall₂_same.2 fun _ _ => ⟨rfl, rfl⟩)

instance : Faithful Aside where
  shows := by
    intro x v hx
    obtain ⟨w⟩ := x
    obtain rfl : w = v := Except.ok.inj hx
    cases w with
    | null => exact .null
    | bool b => exact .bool b
    | num n => exact .num n
    | str s => exact .str s
    | arr items =>
        exact .arr (List.forall₂_map_left_iff.2 (List.forall₂_same.2 fun _ _ => rfl))
    | obj ms =>
        exact .obj (List.forall₂_map_left_iff.2 (List.forall₂_same.2 fun _ _ => ⟨rfl, rfl⟩))

/-- The values a decoder accepts, with what it makes of them. -/
def Reads {τ α : Type} [Source τ] (read : τ → Decoded α) (R : Json → α → Prop) : Prop :=
  ∀ {x : τ} {v : Json}, Source.content x = .ok v → ∀ a : α, read x = .ok a ↔ R v a

section Decoders
variable {τ α : Type} [Source τ] {read : τ → Decoded α} {R : Json → α → Prop}

theorem Reads.items (h : Reads read R) {xs : List τ} {vs : List Json} {as : List α}
    (hvs : List.Forall₂ (fun x v => Source.content x = .ok v) xs vs) :
    List.Forall₂ (fun x a => read x = .ok a) xs as ↔ List.Forall₂ R vs as := by
  induction hvs generalizing as with
  | nil => simp only [List.forall₂_nil_left_iff]
  | cons hx _ ih => simp only [List.forall₂_cons_left_iff, h hx, ih]

variable [Faithful τ]

theorem reads_string : Reads (string : τ → Decoded String) fun v s => v = .str s := by
  intro x v hx s
  have h := Faithful.shows hx
  unfold string
  generalize Source.view x = w at h ⊢
  cases h <;> simp

theorem reads_nullable (h : Reads read R) :
    Reads (nullable read) fun v o => Option.Rel R (if v.isNull then none else some v) o := by
  intro x v hx o
  have hv := Faithful.shows hx
  have hread := h hx
  unfold nullable
  generalize Source.view x = w at hv ⊢
  cases hv with
  | null => cases o <;> simp [isNull]
  | bool | num | str | arr | obj =>
      cases o <;> simp [isNull, bind_eq_ok, hread, pure, Except.pure]

theorem reads_list (h : Reads read R) :
    Reads (list read) fun v as => ∃ vs, v = .arr vs ∧ List.Forall₂ R vs as := by
  intro x v hx as
  have hv := Faithful.shows hx
  unfold list
  generalize Source.view x = w at hv ⊢
  cases hv with
  | null | bool | num | str | obj => simp
  | arr hvs => simp [bind_eq_ok, mapM_eq_ok, intact, pure, Except.pure, h.items hvs]

theorem meaning_eq_ok {words : List (String × α)} {w : String} {a : α} :
    meaning words w = .ok a ↔ words.lookup w = some a := by
  unfold meaning
  cases words.lookup w <;> simp

/-- Values that a word may have beside it. -/
def Blank (τ : Type) [Source τ] (v : Json) : Prop :=
  v = .null ∨ Source.emptyIsNull τ = true ∧ v = .obj []

theorem reads_unit : Reads (unit : τ → Decoded Unit) fun v _ => Blank τ v := by
  intro x v hx _
  have hv := Faithful.shows hx
  unfold unit Blank
  generalize Source.view x = w at hv ⊢
  cases hv with
  | null | bool | num | str | arr => simp [View.mismatch]
  | obj hms => cases hms <;> simp [View.mismatch]

/-- The word itself, or an object that names it. -/
theorem reads_word (words : List (String × α)) :
    Reads (word words : τ → Decoded α) fun v a =>
      ∃ w, (v = .str w ∨ ∃ u, v = .obj [(w, u)] ∧ Blank τ u) ∧ words.lookup w = some a := by
  intro x v hx a
  have hv := Faithful.shows hx
  unfold word
  generalize Source.view x = w at hv ⊢
  cases hv with
  | null | bool | num | arr => simp
  | str s => simp [meaning_eq_ok]
  | obj hms =>
      cases hms with
      | nil => simp
      | @cons m n _ _ hm hms =>
          obtain ⟨k, y⟩ := m
          obtain ⟨l, u⟩ := n
          obtain ⟨rfl, hy⟩ : k = l ∧ Source.content y = .ok u := hm
          cases hms with
          | cons _ _ => simp
          | nil => simp [bind_eq_ok, meaning_eq_ok, reads_unit hy, pure, Except.pure, and_comm]

end Decoders

end InlineRelay.Json
