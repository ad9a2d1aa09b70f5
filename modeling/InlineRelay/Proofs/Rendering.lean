import InlineRelay.Proofs.Query

/-!
Queries as they are typed. Those that closed texts stand for are the tidy ones, whose parts hold none
of the marks that end them and lose nothing to trimming, and a tidy query is read back from the text
it is written as.
-/
namespace InlineRelay

open Text (Blank Trimmed TrimmedEnd)

/-! ### Texts without blanks at their ends -/

namespace Text

/-- No blank stands at the end. -/
def BareEnd (cs : List Char) : Prop := ∀ c ∈ cs.getLast?, isBlank c = false

/-- No blank stands at either end. -/
structure Bare (cs : List Char) : Prop where
  head : ∀ c ∈ cs.head?, isBlank c = false
  last : BareEnd cs

instance (cs : List Char) : Decidable (BareEnd cs) :=
  decidable_of_iff (cs.getLast?.any isBlank = false) (Option.any_eq_false _ _)

instance (cs : List Char) : Decidable (Bare cs) :=
  decidable_of_iff (cs.head?.any isBlank = false ∧ BareEnd cs)
    ⟨fun h => ⟨(Option.any_eq_false _ _).1 h.1, h.2⟩,
      fun h => ⟨(Option.any_eq_false _ _).2 h.head, h.last⟩⟩

theorem bareEnd_nil : BareEnd [] := fun _ h => by cases h

/-- What comes last decides. -/
theorem bareEnd_append_cons {c : Char} (front : List Char) {back : List Char} :
    BareEnd (front ++ c :: back) ↔ BareEnd (c :: back) := by
  unfold BareEnd
  rw [List.getLast?_append_of_ne_nil front (List.cons_ne_nil c back)]

/-- A mark that is no blank may stand last. -/
theorem bareEnd_cons {c : Char} {cs : List Char} (hc : isBlank c = false) :
    BareEnd (c :: cs) ↔ BareEnd cs := by
  cases cs with
  | nil => simp [BareEnd, hc]
  | cons d cs => exact bareEnd_append_cons [c]

theorem Trimmed.bare {cs t : List Char} (h : Trimmed cs t) : Bare t := ⟨h.head, h.last⟩

theorem Trimmed.mem {cs t : List Char} (h : Trimmed cs t) {c : Char} (hc : c ∈ t) : c ∈ cs := by
  obtain ⟨front, back, rfl, -, -⟩ := h.off
  exact List.mem_append_left back (List.mem_append_right front hc)

theorem trimmed_between {front t back : List Char} (hfront : Blank front) (hback : Blank back)
    (ht : Bare t) : Trimmed (front ++ t ++ back) t :=
  ⟨⟨front, back, rfl, hfront, hback⟩, ht.head, ht.last⟩

theorem blank_nil : Blank [] := fun _ hc => absurd hc List.not_mem_nil

theorem blank_space : Blank [' '] := by
  intro c hc
  obtain rfl := List.mem_singleton.1 hc
  decide

end Text

/-! ### Tidy queries -/

/-- The handle holds neither of the marks that end it, the selector not the one that ends the stage, and
no blank is trimmed off. -/
structure Stage.Tidy (s : Stage) : Prop where
  handle_bare : Text.Bare s.handle.toList
  handle_bar : '|' ∉ s.handle.toList
  handle_colon : ':' ∉ s.handle.toList
  selector_bareEnd : Text.BareEnd s.selector.toList
  selector_bar : '|' ∉ s.selector.toList

instance (s : Stage) : Decidable s.Tidy :=
  decidable_of_iff (Text.Bare s.handle.toList ∧ '|' ∉ s.handle.toList ∧ ':' ∉ s.handle.toList ∧
      Text.BareEnd s.selector.toList ∧ '|' ∉ s.selector.toList)
    ⟨fun ⟨h₁, h₂, h₃, h₄, h₅⟩ => ⟨h₁, h₂, h₃, h₄, h₅⟩,
      fun ⟨h₁, h₂, h₃, h₄, h₅⟩ => ⟨h₁, h₂, h₃, h₄, h₅⟩⟩

structure Query.Tidy (q : Query) : Prop where
  text_bare : Text.Bare q.text.toList
  text_bar : '|' ∉ q.text.toList
  stages : ∀ s ∈ q.stages, s.Tidy

instance (q : Query) : Decidable q.Tidy :=
  decidable_of_iff (Text.Bare q.text.toList ∧ '|' ∉ q.text.toList ∧ ∀ s ∈ q.stages, s.Tidy)
    ⟨fun ⟨h₁, h₂, h₃⟩ => ⟨h₁, h₂, h₃⟩, fun ⟨h₁, h₂, h₃⟩ => ⟨h₁, h₂, h₃⟩⟩

namespace Stage
variable {s : Stage} {segment : List Char}

theorem Tidy.bare_render (h : s.Tidy) : Text.Bare s.render where
  head c hc := by
    unfold render at hc
    cases hhandle : s.handle.toList with
    | nil =>
        rw [hhandle] at hc
        obtain rfl : ':' = c := by simpa using hc
        decide
    | cons d handle =>
        rw [hhandle] at hc
        exact h.handle_bare.head c (by rw [hhandle]; exact hc)
  last := (Text.bareEnd_append_cons _).2 ((Text.bareEnd_cons (by decide)).2 h.selector_bareEnd)

theorem Tidy.bar_not_mem_render (h : s.Tidy) : '|' ∉ s.render := by
  unfold render
  simp [h.handle_bar, h.selector_bar]

theorem Tidy.written_render (h : s.Tidy) : Written s.render s := by
  have hhandle : TrimmedEnd s.handle.toList s.handle.toList :=
    ⟨⟨[], (List.append_nil _).symm, fun _ hc => absurd hc List.not_mem_nil⟩, h.handle_bare.last⟩
  have hwritten : Written s.render ⟨String.ofList s.handle.toList, String.ofList s.selector.toList⟩ :=
    .picking rfl h.handle_colon hhandle
  simpa only [String.ofList_toList] using hwritten

theorem Written.tidy (h : Written segment s) (hbare : Text.Bare segment) (hbar : '|' ∉ segment) :
    s.Tidy := by
  cases h with
  | bare hcolon =>
      exact ⟨by simpa using hbare, by simpa using hbar, by simpa using hcolon, by
        simpa using Text.bareEnd_nil, by simp⟩
  | @picking front selector handle hsegment hcolon hhandle =>
      obtain ⟨⟨blanks, rfl, -⟩, hlast⟩ := hhandle
      subst hsegment
      simp only [List.mem_append, List.mem_cons, not_or] at hbar hcolon
      have hhead : ∀ c ∈ handle.head?, Text.isBlank c = false := by
        intro c hc
        refine hbare.head c ?_
        rw [List.append_assoc, List.head?_append, Option.mem_def.1 hc]
        rfl
      have hselector := (Text.bareEnd_cons (by decide)).1 ((Text.bareEnd_append_cons _).1 hbare.last)
      constructor
      all_goals simp only [String.toList_ofList]
      · exact ⟨hhead, hlast⟩
      · exact hbar.1.1
      · exact hcolon.1
      · exact hselector
      · exact hbar.2.2

theorem tidy_ofSegment (h : '|' ∉ segment) : (ofSegment (Text.trim segment)).Tidy := by
  have htrim : Trimmed segment (Text.trim segment) := Text.trim_eq_iff.1 rfl
  exact (written_ofSegment _).tidy htrim.bare fun hmem => h (htrim.mem hmem)

end Stage

namespace Query
variable {q : Query} {raw : String} {content blanks : List Char}

/-- What stands before the closing mark of a query that is written out. -/
def body (q : Query) : List Char :=
  q.text.toList ++ q.stages.flatMap (fun s => ' ' :: '|' :: ' ' :: s.render) ++ [' ']

theorem closed_render (q : Query) : Closed q.render.toList q.body [] where
  parts := by simp [render, body]
  blank _ h := absurd h List.not_mem_nil

/-- Written out, every segment ends in a space, and all but the first start with one. -/
theorem body_eq_barred (q : Query) :
    q.body = barred (q.text.toList ++ [' ']) (q.stages.map fun s => [' '] ++ s.render ++ [' ']) := by
  have hshift (stages : List Stage) :
      stages.flatMap (fun s => ' ' :: '|' :: ' ' :: s.render) ++ [' '] =
        ' ' :: (stages.map fun s => [' '] ++ s.render ++ [' ']).flatMap ('|' :: ·) := by
    induction stages with
    | nil => rfl
    | cons s stages ih =>
        rw [List.flatMap_cons, List.append_assoc, ih]
        simp
  unfold body barred
  rw [List.append_assoc, hshift, List.append_assoc]
  rfl

theorem Tidy.written_render (h : q.Tidy) : Written q.render q := by
  have hfirst : Trimmed (q.text.toList ++ [' ']) q.text.toList :=
    Text.trimmed_between Text.blank_nil Text.blank_space h.text_bare
  have hbars : ∀ segment ∈ (q.text.toList ++ [' ']) ::
      q.stages.map fun s => [' '] ++ s.render ++ [' '], '|' ∉ segment := by
    rw [List.forall_mem_cons, List.forall_mem_map]
    refine ⟨by simp [h.text_bar], fun s hs => ?_⟩
    simp [(h.stages s hs).bar_not_mem_render]
  have hstages : List.Forall₂ (fun segment s => ∃ t, Trimmed segment t ∧ Stage.Written t s)
      (q.stages.map fun s => [' '] ++ s.render ++ [' ']) q.stages := by
    rw [List.forall₂_map_left_iff, List.forall₂_same]
    intro s hs
    have htidy := h.stages s hs
    exact ⟨s.render, Text.trimmed_between Text.blank_space Text.blank_space htidy.bare_render,
      htidy.written_render⟩
  have hwritten : Written q.render ⟨String.ofList q.text.toList, q.stages⟩ :=
    .piped q.closed_render q.body_eq_barred hbars hfirst hstages
  simpa only [String.ofList_toList] using hwritten

theorem tidy_parse (h : Closed raw.toList content blanks) : (parse raw).Tidy := by
  have hbar {segment : List Char} (hsegment : segment ∈ (segments content).1 :: (segments content).2) :
      '|' ∉ segment := bar_not_mem_segments hsegment
  have htrim : Trimmed (segments content).1 (Text.trim (segments content).1) :=
    Text.trim_eq_iff.1 rfl
  rw [parse, h.beforeEnd?_eq]
  refine ⟨?_, ?_, ?_⟩
  · simpa only [String.toList_ofList] using htrim.bare
  · rw [String.toList_ofList]
    exact fun hmem => hbar List.mem_cons_self (htrim.mem hmem)
  · intro s hs
    obtain ⟨segment, hsegment, rfl⟩ := List.mem_map.1 hs
    exact Stage.tidy_ofSegment (hbar (List.mem_cons_of_mem _ hsegment))

/-- A tidy query is read back from the text it is written as, and the tidy queries are those that closed
texts are read as. So what the query of a closed text is written as is read like that text. -/
theorem parse_render_of_tidy :
    (∀ q : Query, q.Tidy → parse q.render = q) ∧
    (∀ q : Query, q.Tidy ↔ ∃ raw content blanks, Closed raw.toList content blanks ∧ parse raw = q) ∧
    ∀ raw content blanks, Closed raw.toList content blanks →
      parse (parse raw).render = parse raw := by
  have hback (q : Query) (h : q.Tidy) : parse q.render = q := h.written_render.parse_eq
  refine ⟨hback, fun q => ⟨fun h => ?_, ?_⟩, fun raw content blanks h => hback _ (tidy_parse h)⟩
  · exact ⟨q.render, q.body, [], q.closed_render, hback q h⟩
  · rintro ⟨raw, content, blanks, hclosed, rfl⟩
    exact tidy_parse hclosed

/-- Marks where they end nothing, a selector that starts with a blank, and a stage of nothing. -/
theorem parse_render_of_tidy_marks :
    let q : Query := ⟨"$ a:b", [⟨"@b", " 1:2$"⟩, ⟨"", ""⟩]⟩
    let raw := "$ a:b|\u3000@b : 1:2$ |:$ \n"
    q.Tidy ∧ q.render = "$ a:b | @b: 1:2$ | : $" ∧ parse q.render = q ∧
      Closed raw.toList "$ a:b|\u3000@b : 1:2$ |:".toList [' ', '\n'] ∧ parse raw = q ∧
      parse (parse raw).render = parse raw := by
  intro q raw
  have htidy : q.Tidy := by decide
  have hclosed : Closed raw.toList "$ a:b|\u3000@b : 1:2$ |:".toList [' ', '\n'] := by
    refine ⟨by decide, ?_⟩
    intro c hc
    rcases List.mem_pair.1 hc with rfl | rfl <;> decide
  obtain ⟨hback, -, hagain⟩ := parse_render_of_tidy
  exact ⟨htidy, by decide, hback q htidy, hclosed, by decide, hagain raw _ _ hclosed⟩

end Query

end InlineRelay
