import InlineRelay.Json.Record
import InlineRelay.Proofs.Json.Reading
import Mathlib.Data.List.Nodup

/-!
Records as read. A record is accepted when its known keys occur once each and its fields can be
read; what is kept of the rest does not depend on the order it came in.
-/
namespace InlineRelay.Json

open Fields (Once others get? present?)

section Members
variable {τ α : Type} [Source τ] {ms : List (String × τ)} {fs : Fields}

theorem Members.keys (h : Members ms fs) : ms.map Prod.fst = fs.map Prod.fst := by
  induction h with
  | nil => rfl
  | cons hm _ ih => rw [List.map_cons, List.map_cons, hm.1, ih]

theorem Members.find? (h : Members ms fs) (k : String) :
    Option.Rel (fun m v => Source.content m.2 = .ok v) (ms.find? (·.1 == k)) (get? fs k) := by
  induction h with
  | nil => exact .none
  | @cons m n ms fs hm _ ih =>
      rw [Fields.get?_cons, List.find?_cons, hm.1]
      by_cases hk : n.1 = k
      · rw [if_pos hk, beq_iff_eq.2 hk]
        exact .some hm.2
      · rw [if_neg hk, beq_false_of_ne hk]
        exact ih

theorem Members.content (h : Members ms fs) : ∀ m ∈ ms, ∃ v, Source.content m.2 = .ok v := by
  induction h with
  | nil => exact fun m hm => absurd hm List.not_mem_nil
  | @cons m n ms fs hm _ ih =>
      intro l hl
      rcases List.mem_cons.1 hl with rfl | hl
      · exact ⟨n.2, hm.2⟩
      · exact ih l hl

theorem members_of_view [Faithful τ] {x : τ} {v : Json} {cut : Option Fault}
    (hx : Source.content x = .ok v) (hview : Source.view x = .obj ms cut) :
    cut = none ∧ ∃ fs, v = .obj fs ∧ Members ms fs := by
  have h := Faithful.shows hx
  rw [hview] at h
  cases h with
  | obj hms => exact ⟨rfl, _, rfl, hms⟩

theorem view_of_obj [Faithful τ] {x : τ} (hx : Source.content x = .ok (.obj fs)) :
    ∃ ms, Source.view x = .obj ms none ∧ Members ms fs := by
  have h := Faithful.shows hx
  generalize Source.view x = w at h ⊢
  cases h with
  | obj hms => exact ⟨_, rfl, hms⟩

/-! ### Fields -/

variable {read : τ → Decoded α} {R : Json → α → Prop} {name : String} {names : List String}

theorem required_eq_ok (h : Reads read R) (hms : Members ms fs) {a : α} :
    (Field.required name read).get ms = .ok a ↔ ∃ v, get? fs name = some v ∧ R v a := by
  have hfind := hms.find? name
  unfold Field.get Field.required
  generalize ms.find? _ = m at hfind ⊢
  generalize get? fs name = v at hfind ⊢
  cases hfind with
  | none => simp
  | some hv => simp [h hv]

theorem optional_eq_ok [Faithful τ] (h : Reads read R) (hms : Members ms fs) {o : Option α} :
    (Field.optional name read).get ms = .ok o ↔ Option.Rel R (present? fs name) o := by
  have hfind := hms.find? name
  unfold Field.get Field.optional present?
  generalize ms.find? _ = m at hfind ⊢
  generalize get? fs name = v at hfind ⊢
  cases hfind with
  | none => cases o <;> simp
  | @some m v hv =>
      simp only [reads_nullable h hv, Option.filter_some]
      cases v.isNull <;> simp

end Members

/-! ### Checks -/

section Checks
variable {τ α : Type} {ms : List (String × τ)} {names : List String} {slots : List (Slot τ)}

/-- The check of a field refuses none of these members. -/
def Slot.Passes (s : Slot τ) (ms : List (String × τ)) : Prop :=
  ∀ m ∈ ms, m.1 = s.name → s.check m.2 = .ok ()

theorem passes_of_get {f : Field τ α} {a : α} (honce : Once names (ms.map Prod.fst))
    (hname : f.name ∈ names) (hget : f.get ms = .ok a) : f.slot.Passes ms := by
  intro m hm hkey
  have hkey : m.1 = f.name := hkey
  have hfind := honce.find?_of_mem hm (hkey ▸ hname)
  unfold Field.get at hget
  rw [← hkey, hfind] at hget
  exact bind_eq_ok.2 ⟨a, hget, rfl⟩

theorem passes_cons {s : Slot τ} {m : String × τ} :
    s.Passes (m :: ms) ↔ (m.1 = s.name → s.check m.2 = .ok ()) ∧ s.Passes ms :=
  List.forall_mem_cons

theorem checkMembers_cons {other : τ → Decoded Unit} (hslots : (slots.map Slot.name).Nodup)
    {m : String × τ} (hother : other m.2 = .ok ()) (seen : List String) :
    checkMembers slots other seen (m :: ms) = .ok () ↔
      (m.1 ∈ slots.map Slot.name → m.1 ∉ seen) ∧
        (∀ s ∈ slots, m.1 = s.name → s.check m.2 = .ok ()) ∧
        checkMembers slots other (if m.1 ∈ slots.map Slot.name then m.1 :: seen else seen) ms
          = .ok () := by
  obtain ⟨k, x⟩ := m
  conv_lhs => unfold checkMembers
  split
  · rename_i s hs
    have hmem : s ∈ slots := List.mem_of_find?_eq_some hs
    have hname : s.name = k := by simpa using List.find?_some hs
    have hknown : k ∈ slots.map Slot.name := hname ▸ List.mem_map_of_mem hmem
    have hcheck : s.check x = .ok () ↔ ∀ t ∈ slots, k = t.name → t.check x = .ok () := by
      constructor
      · intro h t ht htname
        rwa [List.inj_on_of_nodup_map hslots ht hmem (htname.symm.trans hname.symm)]
      · intro h
        exact h s hmem hname.symm
    by_cases hseen : k ∈ seen
    · simp only [hseen, hknown, if_pos, not_true, forall_true_left, false_and, reduceCtorEq]
    · rw [if_neg hseen, if_pos hknown, bind_eq_ok, ← hcheck]
      constructor
      · rintro ⟨_, hs, hms⟩
        exact ⟨fun _ => hseen, hs, hms⟩
      · rintro ⟨_, hs, hms⟩
        exact ⟨(), hs, hms⟩
  · rename_i hs
    have hunknown : ∀ t ∈ slots, t.name ≠ k := by simpa using hs
    have hmem : k ∉ slots.map Slot.name := by
      intro h
      obtain ⟨t, ht, htname⟩ := List.mem_map.1 h
      exact hunknown t ht htname
    rw [if_neg hmem, bind_eq_ok]
    constructor
    · rintro ⟨_, _, hms⟩
      exact ⟨fun h => absurd h hmem, fun t ht h => absurd h.symm (hunknown t ht), hms⟩
    · rintro ⟨_, _, hms⟩
      exact ⟨(), hother, hms⟩

/-- Known keys have to be new and their members to pass; the rest need only be passed over. -/
theorem checkMembers_eq_ok {other : τ → Decoded Unit} (hslots : (slots.map Slot.name).Nodup)
    (hother : ∀ m ∈ ms, other m.2 = .ok ()) (seen : List String) :
    checkMembers slots other seen ms = .ok () ↔
      (∀ m ∈ ms, m.1 ∈ slots.map Slot.name → m.1 ∉ seen) ∧
        Once (slots.map Slot.name) (ms.map Prod.fst) ∧ ∀ s ∈ slots, s.Passes ms := by
  induction ms generalizing seen with
  | nil => simp [checkMembers, Once, Slot.Passes]
  | cons m ms ih =>
      obtain ⟨hm, hms⟩ := List.forall_mem_cons.1 hother
      rw [checkMembers_cons hslots hm, ih hms]
      simp only [Once, List.map_cons, List.pairwise_cons, List.forall_mem_cons, passes_cons,
        List.forall_mem_map]
      -- Only a known key joins the keys seen, so only its later copies are refused.
      by_cases hk : m.1 ∈ slots.map Slot.name
      · simp only [hk, if_true, List.mem_cons, not_or, forall_true_left]
        constructor
        · rintro ⟨hseen, hcheck, hnew, honce, hpasses⟩
          refine ⟨⟨hseen, fun n hn hl => (hnew n hn hl).2⟩, ⟨?_, honce⟩, ?_⟩
          · intro n hn heq
            exact (hnew n hn (heq ▸ hk)).1 heq.symm
          · exact fun s hs => ⟨hcheck s hs, hpasses s hs⟩
        · rintro ⟨⟨hseen, hnew⟩, ⟨hhead, honce⟩, hpasses⟩
          refine ⟨hseen, fun s hs => (hpasses s hs).1, ?_, honce, fun s hs => (hpasses s hs).2⟩
          intro n hn hl
          exact ⟨fun heq => hhead n hn heq.symm, hnew n hn hl⟩
      · simp only [hk, if_false, false_imp_iff, true_and]
        constructor
        · rintro ⟨hcheck, hnew, honce, hpasses⟩
          exact ⟨hnew, ⟨fun _ _ => trivial, honce⟩, fun s hs => ⟨hcheck s hs, hpasses s hs⟩⟩
        · rintro ⟨hnew, ⟨_, honce⟩, hpasses⟩
          exact ⟨fun s hs => (hpasses s hs).1, hnew, honce, fun s hs => (hpasses s hs).2⟩

end Checks

section Records
variable {τ : Type} [Source τ] {ms : List (String × τ)} {fs : Fields} {slots : List (Slot τ)}

/-- What an open record does with a member under an unknown key. -/
def pass (x : τ) : Decoded Unit := do let _ ← Source.content x

/-- The members of an open record: its known keys occur once and pass. -/
theorem openRecord_eq_ok [Faithful τ] {x : τ} {v : Json} {title : String}
    (hslots : (slots.map Slot.name).Nodup) (hx : Source.content x = .ok v) :
    openRecord title slots x = .ok ms ↔ Source.view x = .obj ms none ∧
      Once (slots.map Slot.name) (ms.map Prod.fst) ∧ ∀ s ∈ slots, s.Passes ms := by
  unfold openRecord
  generalize hview : Source.view x = w
  cases w with
  | null | bool | num | str | arr | broken => simp [View.mismatch]
  | obj ls cut =>
      obtain ⟨rfl, fs, -, hls⟩ := members_of_view hx hview
      have hpass : ∀ m ∈ ls, pass m.2 = .ok () := by
        intro m hm
        obtain ⟨u, hu⟩ := hls.content m hm
        exact bind_eq_ok.2 ⟨u, hu, rfl⟩
      have hmembers := checkMembers_eq_ok hslots hpass []
      constructor
      · intro h
        obtain ⟨_, hcheck, h⟩ := bind_eq_ok.1 h
        obtain ⟨_, _, h⟩ := bind_eq_ok.1 h
        cases h
        exact ⟨rfl, (hmembers.1 hcheck).2⟩
      · rintro ⟨h, hchecked⟩
        cases h
        have hcheck := hmembers.2 ⟨fun _ _ _ => List.not_mem_nil, hchecked⟩
        exact bind_eq_ok.2 ⟨(), hcheck, rfl⟩

theorem extras_eq_ok (hms : Members ms fs) {extra : Fields} :
    extras slots ms = .ok extra ↔ extra = others (slots.map Slot.name) fs := by
  have hkeep : ∀ k, (slots.find? (·.name == k)).isNone = !(slots.map Slot.name).contains k := by
    intro k
    rw [Bool.eq_iff_iff]
    simp
  have hread : ((ms.filter fun m => (slots.find? (·.name == m.1)).isNone).mapM
      fun m => (do return (m.1, ← anything m.2) : Decoded (String × Json))) =
      .ok ((fs.filter fun m => !(slots.map Slot.name).contains m.1).map
        fun m => (m.1, m.2.canonical)) := by
    simp only [hkeep, mapM_eq_ok]
    induction hms with
    | nil => exact .nil
    | @cons m n ms fs hm _ ih =>
        rw [List.filter_cons, List.filter_cons, hm.1]
        split
        · refine .cons ?_ ih
          simp [anything, hm, pure, Except.pure, bind, Except.bind]
        · exact ih
  have hextras : extras slots ms = .ok (others (slots.map Slot.name) fs) :=
    bind_eq_ok.2 ⟨_, hread, rfl⟩
  rw [hextras, Except.ok.injEq, eq_comm]

/-- A decoder that opens a record and builds a result of its members accepts the objects whose
known keys occur once each and whose members build it. -/
theorem reads_openRecord [Faithful τ] {ρ : Type} {title : String} (names : List String)
    {build : List (String × τ) → Decoded ρ} {R : Fields → ρ → Prop}
    (hnames : slots.map Slot.name = names) (hnodup : names.Nodup)
    (hbuild : ∀ {ms fs}, Members ms fs → ∀ r, build ms = .ok r ↔ R fs r)
    (hpasses : ∀ {ms r}, Once names (ms.map Prod.fst) → build ms = .ok r →
      ∀ s ∈ slots, s.Passes ms) :
    Reads (fun x => openRecord title slots x >>= build) fun v r =>
      ∃ fs, v = .obj fs ∧ Once names (fs.map Prod.fst) ∧ R fs r := by
  subst hnames
  intro x v hx r
  simp only [bind_eq_ok, openRecord_eq_ok hnodup hx]
  constructor
  · rintro ⟨ms, ⟨hview, honce, -⟩, hr⟩
    obtain ⟨-, fs, rfl, hms⟩ := members_of_view hx hview
    exact ⟨fs, rfl, hms.keys ▸ honce, (hbuild hms r).1 hr⟩
  · rintro ⟨fs, rfl, honce, hr⟩
    obtain ⟨ms, hview, hms⟩ := view_of_obj hx
    have hr := (hbuild hms r).2 hr
    have honce := hms.keys.symm ▸ honce
    exact ⟨ms, ⟨hview, honce, hpasses honce hr⟩, hr⟩

/-- An object with a tag of this kind, and members that are passed on. -/
def TagRecord {κ : Type} (K : Json → κ → Prop) (v : Json) (kind : κ) (extra : Fields) : Prop :=
  ∃ fs, v = .obj fs ∧ Once [tagKey] (fs.map Prod.fst) ∧
    (∃ t, get? fs tagKey = some t ∧ K t kind) ∧ extra = others [tagKey] fs

theorem reads_tagRecord [Faithful τ] {κ ρ : Type} {read : τ → Decoded κ}
    {K : Json → κ → Prop} (h : Reads read K) (title : String) (build : κ → Fields → ρ) :
    Reads (fun x => do
      let kind := Field.required tagKey read
      let ms ← openRecord title [kind.slot] x
      return build (← kind.get ms) (← extras [kind.slot] ms)) fun v r =>
        ∃ kind extra, r = build kind extra ∧ TagRecord K v kind extra := by
  intro x v hx r
  refine Iff.trans (reads_openRecord [tagKey] rfl (List.nodup_singleton _)
    (R := fun fs r => ∃ kind, (∃ t, get? fs tagKey = some t ∧ K t kind) ∧
      r = build kind (others [tagKey] fs)) ?_ ?_ hx r) ?_
  · intro ms fs hms r
    simp only [bind_eq_ok, required_eq_ok h hms, extras_eq_ok hms]
    constructor
    · rintro ⟨kind, hkind, extra, rfl, ⟨⟩⟩
      exact ⟨kind, hkind, rfl⟩
    · rintro ⟨kind, hkind, rfl⟩
      exact ⟨kind, hkind, _, rfl, rfl⟩
  · intro ms r honce hr
    obtain ⟨kind, hkind, _⟩ := bind_eq_ok.1 hr
    exact List.forall_mem_singleton.2 (passes_of_get honce (.head _) hkind)
  · constructor
    · rintro ⟨fs, hv, honce, kind, hkind, hr⟩
      exact ⟨kind, _, hr, fs, hv, honce, hkind, rfl⟩
    · rintro ⟨kind, extra, hr, fs, hv, honce, hkind, rfl⟩
      exact ⟨fs, hv, honce, kind, hkind, hr⟩

/-! ### Tags -/

variable {κ : Type} {meaning : String → Decoded κ}

theorem untag_of_tag (hms : Members ms fs) (t : κ) {r : Option κ × Fields} :
    untag meaning (some t) ms = .ok r ↔ (∀ m ∈ fs, m.1 ≠ tagKey) ∧ r = (some t, fs) := by
  induction hms generalizing r with
  | nil => simp [untag, eq_comm]
  | @cons m n ms fs hm _ ih =>
      obtain ⟨k, x⟩ := m
      obtain ⟨l, v⟩ := n
      obtain ⟨rfl, hx⟩ : k = l ∧ Source.content x = .ok v := hm
      unfold untag
      rw [List.forall_mem_cons]
      by_cases hk : k = tagKey
      · simp [hk]
      · simp only [if_neg hk, bind_eq_ok, hx, ih, Except.ok.injEq, pure, Except.pure]
        constructor
        · rintro ⟨_, rfl, _, ⟨hfs, rfl⟩, rfl⟩
          exact ⟨⟨hk, hfs⟩, rfl⟩
        · rintro ⟨⟨_, hfs⟩, rfl⟩
          exact ⟨v, rfl, _, ⟨hfs, rfl⟩, rfl⟩

/-- The members under other keys than the tag's. -/
def untagged (fs : Fields) : Fields := fs.filter fun m => m.1 ≠ tagKey

theorem untagged_eq_self (h : ∀ m ∈ fs, m.1 ≠ tagKey) : untagged fs = fs :=
  List.filter_eq_self.2 fun m hm => decide_eq_true (h m hm)

theorem untagged_cons_tag (v : Json) (fs : Fields) : untagged ((tagKey, v) :: fs) = untagged fs :=
  List.filter_cons_of_neg (by simp)

theorem once_of_untagged (h : ∀ m ∈ fs, m.1 ≠ tagKey) : Once [tagKey] (fs.map Prod.fst) := by
  refine List.pairwise_map.2 (List.pairwise_of_forall_mem_list ?_)
  intro m hm _ _ hk
  exact absurd (List.mem_singleton.1 hk) (h m hm)

theorem once_tag_cons {m : String × Json} :
    Once [tagKey] ((m :: fs).map Prod.fst) ↔
      (m.1 = tagKey → ∀ n ∈ fs, n.1 ≠ tagKey) ∧ Once [tagKey] (fs.map Prod.fst) := by
  simp only [Once, List.map_cons, List.pairwise_cons, List.forall_mem_map, List.mem_singleton]
  refine and_congr_left fun _ => ?_
  constructor
  · intro h hm n hn heq
    exact h n hn hm (hm.trans heq.symm)
  · intro h n hn hm heq
    exact h hm n hn (heq.symm.trans hm)

/-- The tag is found where it occurs once and is a string with a meaning. -/
theorem untag_eq_ok [Faithful τ] (hms : Members ms fs) {t : κ} {rest : Fields} :
    untag meaning none ms = .ok (some t, rest) ↔ Once [tagKey] (fs.map Prod.fst) ∧
      (∃ w, get? fs tagKey = some (.str w) ∧ meaning w = .ok t) ∧ rest = untagged fs := by
  induction hms generalizing rest with
  | nil => simp [untag]
  | @cons m n ms fs hm hms ih =>
      obtain ⟨k, x⟩ := m
      obtain ⟨l, v⟩ := n
      obtain ⟨rfl, hx⟩ : k = l ∧ Source.content x = .ok v := hm
      unfold untag
      rw [once_tag_cons, Fields.get?_cons]
      by_cases hk : k = tagKey
      · subst hk
        have hv := Faithful.shows hx
        rw [if_pos rfl, if_pos rfl]
        generalize Source.view x = w at hv ⊢
        cases hv with
        | null | bool | num | arr | obj => simp
        | str s =>
            simp only [bind_eq_ok, untag_of_tag hms, forall_true_left, Option.some.injEq,
              Json.str.injEq, Prod.mk.injEq]
            constructor
            · rintro ⟨u, hu, hfs, rfl, rfl⟩
              refine ⟨⟨hfs, once_of_untagged hfs⟩, ⟨s, rfl, hu⟩, ?_⟩
              rw [untagged_cons_tag, untagged_eq_self hfs]
            · rintro ⟨⟨hfs, _⟩, ⟨_, rfl, hu⟩, rfl⟩
              refine ⟨t, hu, hfs, rfl, ?_⟩
              rw [untagged_cons_tag, untagged_eq_self hfs]
      · simp only [if_neg hk, bind_eq_ok, hx, Except.ok.injEq, pure, Except.pure]
        have hcons : untagged ((k, v) :: fs) = (k, v) :: untagged fs :=
          List.filter_cons_of_pos (decide_eq_true hk)
        rw [hcons]
        constructor
        · rintro ⟨_, rfl, ⟨u, ls⟩, hrest, heq⟩
          obtain ⟨rfl, rfl⟩ := Prod.mk.inj heq
          obtain ⟨honce, htag, rfl⟩ := ih.1 hrest
          exact ⟨⟨fun h => absurd h hk, honce⟩, htag, rfl⟩
        · rintro ⟨⟨_, honce⟩, htag, rfl⟩
          exact ⟨v, rfl, _, ih.2 ⟨honce, htag, rfl⟩, rfl⟩

/-- A record with a tag, and what its other members or items are read from. -/
inductive Untagged : Json → String → Json → Prop
  | object {fs : Fields} {w : String} : Once [tagKey] (fs.map Prod.fst) →
      get? fs tagKey = some (.str w) → Untagged (.obj fs) w (.obj (untagged fs))
  | array {w : String} {vs : List Json} : Untagged (.arr (.str w :: vs)) w (.arr vs)

/-- A decoder that goes by the tag of a record accepts the records whose tag has a meaning, and
whose other members or items that meaning builds from. -/
theorem reads_untagged [Faithful τ] {ρ : Type} {name : String} {build : κ → Aside → Decoded ρ}
    {R : κ → Json → ρ → Prop} (hbuild : ∀ t y r, build t y = .ok r ↔ R t y.value r) :
    Reads (fun x : τ => tagged name meaning x >>= fun p => build p.1 p.2) fun v r =>
      ∃ w rest, Untagged v w rest ∧ ∃ t, meaning w = .ok t ∧ R t rest r := by
  intro x v hx r
  have hv := Faithful.shows hx
  change (tagged name meaning x >>= fun p => build p.1 p.2) = .ok r ↔ _
  unfold tagged
  generalize Source.view x = w at hv ⊢
  cases hv with
  | null | bool | num | str =>
      simp only [bind_eq_ok, reduceCtorEq, false_and, exists_false, false_iff]
      rintro ⟨_, _, h, -⟩
      cases h
  | @arr xs vs hvs =>
      cases hvs with
      | nil =>
          simp only [bind_eq_ok, intact, reduceCtorEq, and_false, false_and, exists_false, false_iff]
          rintro ⟨_, _, h, -⟩
          cases h
      | @cons y u ys us hy hys =>
          have hu := Faithful.shows hy
          have hitems : ys.mapM (Source.content (τ := τ)) = .ok us := mapM_eq_ok.2 hys
          simp only [bind_eq_ok]
          generalize Source.view y = z at hu ⊢
          cases hu with
          | null | bool | num | arr | obj =>
              simp only [reduceCtorEq, false_and, exists_false, false_iff]
              rintro ⟨_, _, h, -⟩
              cases h
          | str s =>
              simp only [bind_eq_ok, hitems, intact, pure, Except.pure, Except.ok.injEq]
              constructor
              · rintro ⟨_, ⟨t, ht, _, rfl, _, -, rfl⟩, hr⟩
                exact ⟨s, _, .array, t, ht, (hbuild t _ r).1 hr⟩
              · rintro ⟨_, _, h, t, ht, hR⟩
                cases h
                exact ⟨_, ⟨t, ht, us, rfl, (), trivial, rfl⟩, (hbuild t _ r).2 hR⟩
  | @obj ms fs hms =>
      constructor
      · intro h
        simp only [bind_eq_ok] at h
        obtain ⟨p, ⟨⟨tag, rest⟩, huntag, _, -, htag⟩, hr⟩ := h
        cases tag with
        | none => cases htag
        | some t =>
            cases htag
            obtain ⟨honce, ⟨s, hs, ht⟩, rfl⟩ := (untag_eq_ok hms).1 huntag
            exact ⟨s, _, .object honce hs, t, ht, (hbuild t _ r).1 hr⟩
      · rintro ⟨s, _, h, t, ht, hR⟩
        cases h with
        | object honce hs =>
            have huntag := (untag_eq_ok hms).2 ⟨honce, ⟨s, hs, ht⟩, rfl⟩
            simp only [bind_eq_ok]
            exact ⟨_, ⟨_, huntag, (), rfl, rfl⟩, (hbuild t _ r).2 hR⟩

/-- Where members are built from, the objects whose tag occurs once are accepted; an array has no
members. -/
theorem reads_tagged [Faithful τ] {ρ : Type} {name : String} {build : κ → Aside → Decoded ρ}
    {R : κ → Fields → ρ → Prop}
    (hbuild : ∀ t y r, build t y = .ok r ↔ ∃ fs, y.value = .obj fs ∧ R t fs r) :
    Reads (fun x : τ => tagged name meaning x >>= fun p => build p.1 p.2) fun v r =>
      ∃ fs, v = .obj fs ∧ Once [tagKey] (fs.map Prod.fst) ∧
        ∃ w t, get? fs tagKey = some (.str w) ∧ meaning w = .ok t ∧ R t (untagged fs) r := by
  intro x v hx r
  refine (reads_untagged (R := fun t rest r => ∃ fs, rest = .obj fs ∧ R t fs r) hbuild hx r).trans ?_
  constructor
  · rintro ⟨w, _, h, t, ht, fs, heq, hR⟩
    cases h with
    | object honce hw =>
        cases heq
        exact ⟨_, rfl, honce, w, t, hw, ht, hR⟩
    | array => cases heq
  · rintro ⟨fs, rfl, honce, w, t, hw, ht, hR⟩
    exact ⟨w, _, .object honce hw, t, ht, _, rfl, hR⟩

end Records

end InlineRelay.Json
