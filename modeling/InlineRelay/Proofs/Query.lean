import InlineRelay.Proofs.Text.Trimming
import InlineRelay.Query
import Mathlib.Data.List.Forall2

/-!
The pipe syntax, said without the reader. A query is what its text is written as, and each text
is written as exactly one query.
-/
namespace InlineRelay

open Text (Blank Trimmed TrimmedEnd)

/-! ### Stages -/

/-- A list splits at the first item of its kind in one way. -/
theorem takeWhile_ne_append {c : Char} {front rest : List Char} (h : c ∉ front) :
    (front ++ c :: rest).takeWhile (· ≠ c) = front ∧
      (front ++ c :: rest).dropWhile (· ≠ c) = c :: rest := by
  have hfront : ∀ d ∈ front, decide (d ≠ c) = true := fun d hd =>
    decide_eq_true fun hdc => h (hdc ▸ hd)
  constructor
  · rw [List.takeWhile_append_of_pos hfront, List.takeWhile_cons_of_neg (by simp), List.append_nil]
  · exact dropWhile_eq_iff.2 ⟨front, rfl, hfront, by simp⟩

/-- A trimmed segment and the stage it stands for. -/
inductive Stage.Written (segment : List Char) : Stage → Prop
  | bare : ':' ∉ segment → Written segment ⟨String.ofList segment, ""⟩
  | picking {front selector handle : List Char} : segment = front ++ ':' :: selector →
      ':' ∉ front → TrimmedEnd front handle →
      Written segment ⟨String.ofList handle, String.ofList selector⟩

/-- Every segment is written as the stage read off it. -/
theorem Stage.written_ofSegment (segment : List Char) : Written segment (ofSegment segment) := by
  cases hrest : segment.dropWhile (· ≠ ':') with
  | nil =>
      have hbare : ':' ∉ segment := fun hmem => by
        simpa using List.dropWhile_eq_nil_iff.1 hrest ':' hmem
      simpa only [ofSegment, hrest] using Written.bare hbare
  | cons c selector =>
      obtain ⟨front, hsegment, hfront, hhead⟩ := dropWhile_eq_iff.1 hrest
      obtain rfl : c = ':' := by simpa using hhead c rfl
      have hnone : ':' ∉ front := fun hmem => by simpa using hfront _ hmem
      rw [hsegment, ofSegment, (takeWhile_ne_append hnone).1, (takeWhile_ne_append hnone).2]
      exact .picking rfl hnone (Text.trimEnd_eq_iff.1 rfl)

/-- A segment is written as one stage only. -/
theorem Stage.ofSegment_eq_iff {segment : List Char} {s : Stage} :
    ofSegment segment = s ↔ Written segment s := by
  constructor
  · rintro rfl
    exact written_ofSegment segment
  · intro h
    cases h with
    | bare hbare =>
        have hnil : segment.dropWhile (· ≠ ':') = [] :=
          List.dropWhile_eq_nil_iff.2 fun c hc => decide_eq_true fun hcolon => hbare (hcolon ▸ hc)
        rw [ofSegment, hnil]
    | picking hsegment hnone hhandle =>
        subst hsegment
        rw [ofSegment, (takeWhile_ne_append hnone).1, (takeWhile_ne_append hnone).2,
          Text.trimEnd_eq_iff.2 hhandle]

namespace Query

/-! ### The closing mark -/

/-- The text is the content, a `$` and blanks. -/
structure Closed (raw content blanks : List Char) : Prop where
  parts : raw = content ++ '$' :: blanks
  blank : Blank blanks

/-- The closing mark is the last `$`. -/
theorem Closed.mark_not_mem {raw content blanks : List Char} (h : Closed raw content blanks) :
    '$' ∉ blanks := fun hmem => absurd (h.blank _ hmem) (by decide)

theorem Closed.beforeEnd?_eq {raw content blanks : List Char} (h : Closed raw content blanks) :
    beforeEnd? raw = some content := by
  have hdrop : raw.reverse.dropWhile Text.isBlank = '$' :: content.reverse := by
    refine dropWhile_eq_iff.2 ⟨blanks.reverse, ?_, fun c hc => h.blank c (List.mem_reverse.1 hc), ?_⟩
    · simp [h.parts]
    · simpa using (by decide : Text.isBlank '$' = false)
  rw [beforeEnd?, hdrop]
  simp

theorem closed_of_beforeEnd? {raw content : List Char} (h : beforeEnd? raw = some content) :
    ∃ blanks, Closed raw content blanks := by
  rw [beforeEnd?] at h
  split at h
  · next before hdrop =>
    obtain ⟨front, hraw, hfront, -⟩ := dropWhile_eq_iff.1 hdrop
    refine ⟨front.reverse, ?_, fun c hc => hfront c (List.mem_reverse.1 hc)⟩
    rw [← List.reverse_reverse raw, hraw, ← Option.some.inj h]
    simp
  · cases h

theorem beforeEnd?_eq_none {raw : List Char} :
    beforeEnd? raw = none ↔ ∀ content blanks, ¬ Closed raw content blanks := by
  constructor
  · intro h content blanks hclosed
    cases h.symm.trans hclosed.beforeEnd?_eq
  · intro h
    cases hend : beforeEnd? raw with
    | none => rfl
    | some content =>
        obtain ⟨blanks, hclosed⟩ := closed_of_beforeEnd? hend
        exact absurd hclosed (h content blanks)

/-- A text is closed in one way only. -/
theorem Closed.unique {raw content content' blanks blanks' : List Char}
    (h : Closed raw content blanks) (h' : Closed raw content' blanks') :
    content' = content ∧ blanks' = blanks := by
  obtain rfl : content' = content :=
    Option.some.inj (h'.beforeEnd?_eq.symm.trans h.beforeEnd?_eq)
  exact ⟨rfl, List.tail_eq_of_cons_eq (List.append_cancel_left (h'.parts.symm.trans h.parts))⟩

/-! ### Segments -/

/-- Segments with bars between them. -/
def barred (first : List Char) (rest : List (List Char)) : List Char :=
  first ++ rest.flatMap ('|' :: ·)

theorem barred_segments (content : List Char) :
    barred (segments content).1 (segments content).2 = content := by
  induction content with
  | nil => rfl
  | cons c content ih =>
      rw [segments]
      split
      · next hbar =>
        simpa [barred, hbar] using ih
      · simpa [barred] using ih

theorem bar_not_mem_segments {content segment : List Char}
    (h : segment ∈ (segments content).1 :: (segments content).2) : '|' ∉ segment := by
  induction content generalizing segment with
  | nil =>
      obtain rfl : segment = [] := by simpa [segments] using h
      exact List.not_mem_nil
  | cons c content ih =>
      rw [segments] at h
      split at h
      · rcases List.mem_cons.1 h with rfl | h
        · exact List.not_mem_nil
        · exact ih h
      · next hbar =>
        rcases List.mem_cons.1 h with rfl | h
        · exact List.not_mem_cons_of_ne_of_not_mem (Ne.symm hbar) (ih List.mem_cons_self)
        · exact ih (List.mem_cons_of_mem _ h)

/-- A segment in front of a bar is cut off whole. -/
theorem segments_append {first : List Char} (h : '|' ∉ first) (cs : List Char) :
    segments (first ++ cs) = (first ++ (segments cs).1, (segments cs).2) := by
  induction first with
  | nil => rfl
  | cons c first ih =>
      rw [List.mem_cons, not_or] at h
      rw [List.cons_append, segments, ih h.2, if_neg (Ne.symm h.1)]
      rfl

theorem segments_barred {first : List Char} {rest : List (List Char)}
    (h : ∀ segment ∈ first :: rest, '|' ∉ segment) :
    segments (barred first rest) = (first, rest) := by
  induction rest generalizing first with
  | nil =>
      rw [barred, segments_append (h first List.mem_cons_self)]
      simp [segments]
  | cons second rest ih =>
      rw [List.forall_mem_cons] at h
      have hcut : segments ('|' :: barred second rest) = ([], second :: rest) := by
        rw [segments, ih h.2]
        rfl
      have hbarred : barred first (second :: rest) = first ++ '|' :: barred second rest := by
        simp [barred]
      rw [hbarred, segments_append h.1, hcut, List.append_nil]

/-- The segments are the one way to write a text as bar-free pieces with bars between them. -/
theorem segments_eq_iff {content first : List Char} {rest : List (List Char)} :
    segments content = (first, rest) ↔
      content = barred first rest ∧ ∀ segment ∈ first :: rest, '|' ∉ segment := by
  constructor
  · intro h
    have hcontent := barred_segments content
    have hbars : ∀ segment ∈ (segments content).1 :: (segments content).2, '|' ∉ segment :=
      fun _ => bar_not_mem_segments
    rw [h] at hcontent hbars
    exact ⟨hcontent.symm, hbars⟩
  · rintro ⟨rfl, hrest⟩
    exact segments_barred hrest

/-! ### Queries -/

/-- A text and the query it is written as. -/
inductive Written (raw : String) : Query → Prop
  | plain : (∀ content blanks, ¬ Closed raw.toList content blanks) → Written raw ⟨raw, []⟩
  | piped {content blanks first text : List Char} {rest : List (List Char)}
      {stages : List Stage} : Closed raw.toList content blanks → content = barred first rest →
      (∀ segment ∈ first :: rest, '|' ∉ segment) → Trimmed first text →
      List.Forall₂ (fun segment s => ∃ t, Trimmed segment t ∧ Stage.Written t s) rest stages →
      Written raw ⟨String.ofList text, stages⟩

/-- The stage of a segment, white space around it taken off. -/
theorem stage_eq_iff {segment : List Char} {s : Stage} :
    Stage.ofSegment (Text.trim segment) = s ↔ ∃ t, Trimmed segment t ∧ Stage.Written t s := by
  rw [Stage.ofSegment_eq_iff]
  constructor
  · exact fun h => ⟨_, Text.trim_eq_iff.1 rfl, h⟩
  · rintro ⟨t, ht, h⟩
    rwa [Text.trim_eq_iff.2 ht]

theorem stages_eq_iff {rest : List (List Char)} {stages : List Stage} :
    (rest.map fun segment => Stage.ofSegment (Text.trim segment)) = stages ↔
      List.Forall₂ (fun segment s => ∃ t, Trimmed segment t ∧ Stage.Written t s) rest stages := by
  simp_rw [← stage_eq_iff]
  rw [← List.forall₂_map_left_iff, List.forall₂_eq_eq_eq]

theorem written_parse (raw : String) : Written raw (parse raw) := by
  cases hend : beforeEnd? raw.toList with
  | none =>
      simpa only [parse, hend] using Written.plain (beforeEnd?_eq_none.1 hend)
  | some content =>
      obtain ⟨blanks, hclosed⟩ := closed_of_beforeEnd? hend
      obtain ⟨hcontent, hbars⟩ := segments_eq_iff.1 (rfl : segments content = (_, _))
      rw [parse, hend]
      exact .piped hclosed hcontent hbars (Text.trim_eq_iff.1 rfl) (stages_eq_iff.1 rfl)

theorem Written.parse_eq {raw : String} {q : Query} (h : Written raw q) : parse raw = q := by
  cases h with
  | plain hopen => rw [parse, beforeEnd?_eq_none.2 hopen]
  | piped hclosed hcontent hbars htext hstages =>
      rw [parse, hclosed.beforeEnd?_eq]
      simp only [segments_eq_iff.2 ⟨hcontent, hbars⟩, Text.trim_eq_iff.2 htext,
        stages_eq_iff.2 hstages]

/-- A text is read as the one query it is written as. It is closed in one way at most, by its last
`$`. -/
theorem parse_eq_iff_written (raw : String) :
    (∀ q, parse raw = q ↔ Written raw q) ∧
      ∀ content blanks, Closed raw.toList content blanks → '$' ∉ blanks ∧
        ∀ content' blanks', Closed raw.toList content' blanks' →
          content' = content ∧ blanks' = blanks := by
  refine ⟨fun q => ⟨?_, Written.parse_eq⟩, fun content blanks h => ⟨h.mark_not_mem, ?_⟩⟩
  · rintro rfl
    exact written_parse raw
  · exact fun content' blanks' h' => h.unique h'

/-- A text with a `$` of its own, which closes nothing. -/
theorem parse_eq_iff_written_cashtag :
    Written " $ a |\u3000@b : 1:2 |: $ \n" ⟨"$ a", [⟨"@b", " 1:2"⟩, ⟨"", ""⟩]⟩ ∧
      '$' ∉ [' ', '\n'] ∧ ∀ blanks, ¬ Closed " $ a |\u3000@b : 1:2 |: $ \n".toList [' '] blanks := by
  obtain ⟨hwritten, hclosed⟩ := parse_eq_iff_written " $ a |\u3000@b : 1:2 |: $ \n"
  have hblank : Blank [' ', '\n'] := by
    intro c hc
    rcases List.mem_pair.1 hc with rfl | rfl <;> decide
  obtain ⟨hmark, hunique⟩ :=
    hclosed " $ a |\u3000@b : 1:2 |: ".toList [' ', '\n'] ⟨by decide, hblank⟩
  refine ⟨(hwritten _).1 (by decide), hmark, fun blanks h => ?_⟩
  exact absurd (hunique _ _ h).1 (by decide)

end Query

end InlineRelay
