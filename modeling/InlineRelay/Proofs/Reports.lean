import InlineRelay.Proofs.Submittable

/-!
Reports of failures. The operator is sent one message about a run that failed, with the query and with
every text of the failure on lines of its own; the asking user gets the same answer whatever failed.
-/
namespace InlineRelay

/-! ### Line by line -/

namespace Failure

def linesOf (cs : List Char) : List (List Char) := cs.splitOn '\n'

/-- Lines behind a label, those after the first set in. -/
def labelled (label : List Char) (width : Nat) : List (List Char) → List (List Char)
  | [] => []
  | line :: further => (label ++ line) :: further.map (List.replicate width ' ' ++ ·)

/-- What stands before a cause that is not the only one: its number, counted from zero. -/
def number (i : Nat) : List Char := (column 5 i).toList ++ [':', ' ']

/-- The lines of a report: the failure itself, then its causes from the nearest on. -/
def lines (f : Failure) : List (List Char) :=
  linesOf f.message.toList ++
    match f.causes with
    | [] => []
    | [cause] =>
      [] :: "Caused by:".toList :: labelled (List.replicate 4 ' ') 4 (linesOf cause.toList)
    | causes =>
      [] :: "Caused by:".toList :: causes.zipIdx.flatMap fun (cause, i) =>
        labelled (number i) 7 (linesOf cause.toList)

theorem linesOf_append_newline (front back : List Char) :
    linesOf (front ++ '\n' :: back) = linesOf front ++ linesOf back :=
  List.splitOn_append_cons_self front back

theorem linesOf_of_not_mem {cs : List Char} (h : '\n' ∉ cs) : linesOf cs = [cs] :=
  List.splitOn_eq_singleton h

theorem linesOf_newline (cs : List Char) : linesOf ('\n' :: cs) = [] :: linesOf cs :=
  linesOf_append_newline [] cs

/-- Every text has a first line. -/
theorem exists_linesOf_eq_cons (cs : List Char) : ∃ line further, linesOf cs = line :: further :=
  List.exists_cons_of_ne_nil (List.splitOn_ne_nil '\n' cs)

/-- A text without line ends lengthens the first line of what follows. -/
theorem linesOf_append_of_not_mem {front : List Char} (h : '\n' ∉ front) (cs : List Char) :
    linesOf (front ++ cs) = (linesOf cs).modifyHead (front ++ ·) := by
  obtain ⟨line, further, hlines⟩ := exists_linesOf_eq_cons cs
  induction front with
  | nil => simp [hlines]
  | cons c front ih =>
      rw [List.mem_cons, not_or] at h
      have hcons : linesOf (c :: (front ++ cs)) = (linesOf (front ++ cs)).modifyHead (c :: ·) := by
        unfold linesOf
        rw [List.splitOn_cons_eq_if_modifyHead, if_neg (by simpa using Ne.symm h.1)]
      rw [List.cons_append, hcons, ih h.2, hlines]
      rfl

theorem linesOf_flatMap (front : List Char) (items : List (List Char)) :
    linesOf (front ++ items.flatMap ('\n' :: ·)) = linesOf front ++ items.flatMap linesOf := by
  induction items generalizing front with
  | nil => simp
  | cons item items ih =>
      rw [List.flatMap_cons, List.cons_append, linesOf_append_newline, ih item, List.flatMap_cons]

theorem linesOf_hang (width : Nat) (text : String) :
    linesOf (hang width text).toList = labelled [] width (linesOf text.toList) := by
  unfold hang
  rw [String.toList_ofList]
  have hblank : '\n' ∉ List.replicate width ' ' := fun h => by
    simpa using List.eq_of_mem_replicate h
  induction text.toList with
  | nil => rfl
  | cons c cs ih =>
      obtain ⟨line, further, hlines⟩ := exists_linesOf_eq_cons cs
      rw [hlines] at ih
      rw [List.flatMap_cons]
      by_cases hc : c = '\n'
      · rw [hc, if_pos rfl, linesOf_newline, List.cons_append, linesOf_newline,
          linesOf_append_of_not_mem hblank, ih, hlines]
        rfl
      · have hsingle : '\n' ∉ [c] := fun h => hc (List.mem_singleton.1 h).symm
        have hcons : linesOf (c :: cs) = (c :: line) :: further := by
          rw [← List.singleton_append, linesOf_append_of_not_mem hsingle, hlines]
          rfl
        rw [if_neg hc, linesOf_append_of_not_mem hsingle, ih, hcons]
        rfl

/-- A text that hangs behind a label has its lines behind that label. -/
theorem linesOf_label_hang {label : List Char} (h : '\n' ∉ label) (width : Nat) (text : String) :
    linesOf (label ++ (hang width text).toList) = labelled label width (linesOf text.toList) := by
  obtain ⟨line, further, hlines⟩ := exists_linesOf_eq_cons text.toList
  rw [linesOf_append_of_not_mem h, linesOf_hang, hlines]
  rfl

theorem newline_not_mem_number (i : Nat) : '\n' ∉ number i := by
  have hdigits : '\n' ∉ Nat.toDigits 10 i := fun h =>
    absurd (Nat.isDigit_of_mem_toDigits (by decide) (by decide) h) (by decide)
  unfold number column
  rw [String.toList_append, String.toList_ofList]
  simp [hdigits]

/-- The report of a failure tells the whole chain: line by line each of its texts, in order and as it
is. -/
theorem linesOf_report (f : Failure) : linesOf f.report.toList = f.lines := by
  obtain ⟨message, causes⟩ := f
  have hcaused (items : List (List Char)) :
      linesOf (message.toList ++ "\n\nCaused by:".toList ++ items.flatMap ('\n' :: ·)) =
        linesOf message.toList ++ [] :: "Caused by:".toList :: items.flatMap linesOf := by
    have hhead : message.toList ++ "\n\nCaused by:".toList =
        message.toList ++ '\n' :: '\n' :: "Caused by:".toList := rfl
    have hcause : linesOf "Caused by:".toList = ["Caused by:".toList] := linesOf_of_not_mem (by decide)
    rw [linesOf_flatMap, hhead, linesOf_append_newline, linesOf_newline, hcause, List.append_assoc]
    rfl
  match causes with
  | [] => simp [report, lines]
  | [cause] =>
      have hspaces : '\n' ∉ List.replicate 4 ' ' := by decide
      have hreport := hcaused [List.replicate 4 ' ' ++ (hang 4 cause).toList]
      rw [List.flatMap_singleton, List.flatMap_singleton, linesOf_label_hang hspaces] at hreport
      simpa [report, lines] using hreport
  | first :: second :: causes =>
      have hitem (cause : String) (i : Nat) :
          linesOf (number i ++ (hang 7 cause).toList) =
            labelled (number i) 7 (linesOf cause.toList) :=
        linesOf_label_hang (newline_not_mem_number i) 7 cause
      have hentry (cause : String) (i : Nat) :
          "\n".toList ++ (column 5 i).toList ++ ": ".toList ++ (hang 7 cause).toList =
            '\n' :: (number i ++ (hang 7 cause).toList) := by
        unfold number
        simp
      have hreport := hcaused ((first :: second :: causes).zipIdx.map fun (cause, i) =>
        number i ++ (hang 7 cause).toList)
      simp only [List.flatMap_map, hitem] at hreport
      rw [lines, ← hreport]
      unfold report
      simp only [String.toList_append, String.toList_join, List.flatMap_map, hentry]

end Failure

/-- The texts behind an error of the pipeline. -/
def PipelineError.causes : PipelineError → List String
  | game _ => []
  | provider _ cause => cause.chain

theorem PipelineError.chain_failure (e : PipelineError) : e.failure.chain = e.message :: e.causes := by
  cases e with
  | game id => rfl
  | provider handle cause => rfl

/-! ### Runs that fail -/

namespace Desk
variable {σ : Type} {q : InlineQuery}

theorem fallback_of_ne_empty {m : Type → Type} (d : Desk m) (hq : q.query ≠ "") :
    d.fallback q = ⟨q.queryId, [], 0, true, false, some d.faq⟩ := by
  have hempty : q.query.isEmpty = false := by simpa using hq
  simp [fallback, hempty, Answer.empty, Answer.offering, Answer.asPersonal]

/-- Where the run fails, the answer is help for the asking user alone, whatever comes of the report. -/
theorem answer_of_error {d : Desk (StateM σ)} {s : σ} {e : PipelineError} (hq : q.query ≠ "")
    (h : (d.pipeline q s).outcome = .error e) :
    ((d.answer q).run s).run.1 = ⟨q.queryId, [], 0, true, false, some d.faq⟩ := by
  rw [← d.result_watch_answer, d.watch_answer hq]
  simp only [h]
  exact d.fallback_of_ne_empty hq

/-- A run that fails is reported to the operator in one message, which is tried once, and a run that ends
in any other way in none. The message names the query, the user and the text that was typed, and tells
the whole chain of the failure line by line. What failed leaves no trace in the answer: any two failing
runs for the same text and query are answered alike, by whatever bots, and whether or not the reports
arrive. -/
theorem failure_told_to_operator_only (d : Desk (StateM σ)) (q : InlineQuery) (s : σ)
    (hq : q.query ≠ "") :
    let run := d.pipeline q s
    let effects := (d.watch (·.answer q) s).effects
    (∀ outcome, run.outcome = .ok outcome → effects = run.calls.map .asked) ∧
    (∀ e, run.outcome = .error e → ∃ report told,
      effects = run.calls.map .asked ++ [.sent ⟨.str d.adminPeer,
        s!"Inline query {q.queryId} from {q.userId} failed\nQuery: {q.query}\n\n" ++ report,
        none, false⟩ told] ∧
      Failure.linesOf report.toList = e.failure.lines ∧
      e.failure.chain = e.message :: e.causes) ∧
    ∀ (τ : Type) (d' : Desk (StateM τ)) (q' : InlineQuery) (t : τ) (e e' : PipelineError),
      run.outcome = .error e → (d'.pipeline q' t).outcome = .error e' →
      q'.query = q.query → q'.queryId = q.queryId → d'.faq = d.faq →
      ((d'.answer q').run t).run.1 = ((d.answer q).run s).run.1 := by
  intro run effects
  refine ⟨fun outcome hout => ?_, fun e hout => ?_, ?_⟩
  · exact congrArg Watched.effects (watch_answer_of_ok hq hout)
  · rcases htold : d.tellOperator q e.failure run.state with ⟨told, s'⟩
    refine ⟨e.failure.report, told, ?_, e.failure.linesOf_report, e.chain_failure⟩
    exact congrArg Watched.effects (watch_answer_of_error hq hout htold)
  · intro τ d' q' t e e' hout hout' htext hid hfaq
    rw [answer_of_error hq hout, answer_of_error (htext ▸ hq) hout', hid, hfaq]

end Desk

namespace Rehearsal

/-- A desk whose second bot does not answer and whose reports do not arrive. -/
def flaky : Desk (StateM Log) :=
  ⟨provider (duo.withFailure "@b"), messenger true, Pattern.matcher, 777, "@admin", ⟨"FAQ", "lel"⟩⟩

/-- A desk that knows no bots at all. -/
def deserted : Desk (StateM Log) :=
  ⟨provider .empty, messenger false, Pattern.matcher, 778, "@other", ⟨"FAQ", "lel"⟩⟩

end Rehearsal

theorem Desk.failure_told_to_operator_only_flaky :
    let q : InlineQuery := ⟨31, 4242, "hi | @a:2 | @b $", ""⟩
    let q' : InlineQuery := ⟨31, 7, "hi | @a:2 | @b $", "5"⟩
    let e : PipelineError := .provider "@b" (.ofText "Connection reset while querying @b")
    q.query ≠ "" ∧ (Rehearsal.flaky.pipeline q .empty).outcome = .error e ∧
      (Rehearsal.deserted.pipeline q' .empty).outcome =
        .error (.provider "@a" (.ofText "Unknown provider @a")) ∧
      (∃ report told, (Rehearsal.flaky.watch (·.answer q) .empty).effects =
        (Rehearsal.flaky.pipeline q .empty).calls.map .asked ++ [.sent ⟨.str "@admin",
          "Inline query 31 from 4242 failed\nQuery: hi | @a:2 | @b $\n\n" ++ report,
          none, false⟩ told] ∧
        Failure.linesOf report.toList = ["Provider @b failed", "", "Caused by:",
          "    Connection reset while querying @b"].map String.toList) ∧
      ((Rehearsal.deserted.answer q').run .empty).run.1 =
        ((Rehearsal.flaky.answer q).run .empty).run.1 := by
  intro q q' e
  have hparse : Query.parse "hi | @a:2 | @b $" = ⟨"hi", [⟨"@a", "2"⟩, ⟨"@b", ""⟩]⟩ := by decide
  have hout : (Rehearsal.flaky.pipeline q .empty).outcome = .error e := by
    rw [pipeline, hparse]
    rfl
  have hout' : (Rehearsal.deserted.pipeline q' .empty).outcome =
      .error (.provider "@a" (.ofText "Unknown provider @a")) := by
    rw [pipeline, hparse]
    rfl
  have hq : q.query ≠ "" := by decide
  obtain ⟨-, hfailed, halike⟩ :=
    Desk.failure_told_to_operator_only Rehearsal.flaky q .empty hq
  obtain ⟨report, told, heffects, hlines, -⟩ := hfailed e hout
  have htext : s!"Inline query {q.queryId} from {q.userId} failed\nQuery: {q.query}\n\n" =
      "Inline query 31 from 4242 failed\nQuery: hi | @a:2 | @b $\n\n" := by decide
  rw [htext] at heffects
  have hchain : e.failure.lines = ["Provider @b failed", "", "Caused by:",
      "    Connection reset while querying @b"].map String.toList := by decide
  have hanswer := halike _ Rehearsal.deserted q' .empty e _ hout hout' rfl rfl rfl
  exact ⟨hq, hout, hout', ⟨report, told, heffects, hlines.trans hchain⟩, hanswer⟩

end InlineRelay
