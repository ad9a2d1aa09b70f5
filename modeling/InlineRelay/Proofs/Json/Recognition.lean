import InlineRelay.Proofs.Json.Grammar

/-!
What is read is a text of the grammar: where a reader gets to the end of a value, it has passed the
gaps and the parts that spell it. So a text decodes just when it spells something, and that is read.
-/
namespace InlineRelay.Json

namespace Doc

theorem exists_gap (cs : List Char) : ∃ ws, Gap ws ∧ cs = ws ++ skipGap cs :=
  ⟨cs.takeWhile isGap, fun _ hc => List.mem_takeWhile_imp hc, List.takeWhile_append_dropWhile.symm⟩

theorem gap_of_skipGap {cs : List Char} (h : skipGap cs = []) : Gap cs :=
  fun c hc => List.dropWhile_eq_nil_iff.1 h c hc

theorem exists_gap_cons {c : Char} {cs ds : List Char} (h : skipGap cs = c :: ds) :
    ∃ ws, Gap ws ∧ cs = ws ++ c :: ds := by
  obtain ⟨ws, hws, hcs⟩ := exists_gap cs
  exact ⟨ws, hws, h ▸ hcs⟩

theorem word_of_readWord {value d : Doc} {ws cs rest : List Char}
    (h : readWord value ws cs = (d, some rest)) : cs = ws ++ rest ∧ value = d := by
  induction ws generalizing cs with
  | nil =>
      obtain ⟨hvalue, hcs⟩ := Prod.mk.inj h
      exact ⟨Option.some.inj hcs, hvalue⟩
  | cons w ws ih =>
      cases cs with
      | nil => cases h
      | cons c cs =>
          rw [readWord] at h
          split at h
          · next hc =>
            obtain ⟨rfl, hvalue⟩ := ih h
            exact ⟨by rw [hc, List.cons_append], hvalue⟩
          · cases h

/-! ### Numbers -/

section Numbers
variable {cs rest whole fraction : List Char} {negative : Bool} {d : Doc}

theorem digits_of_powerOf {sign p : Int} (h : powerOf sign cs = .ok (p, rest)) :
    ∃ ds, Digits ds ∧ cs = ds ++ rest ∧ p = sign * decimal ds := by
  cases cs with
  | nil => cases h
  | cons c cs =>
      unfold powerOf at h
      dsimp only at h
      split at h
      · next hc =>
        cases h
        refine ⟨(c :: cs).takeWhile Char.isDigit, ⟨?_, fun _ hd => List.mem_takeWhile_imp hd⟩,
          List.takeWhile_append_dropWhile.symm, rfl⟩
        rw [List.takeWhile_cons_of_pos hc]
        exact List.cons_ne_nil _ _
      · cases h

theorem exponent_of_readPower {e : Char} {p : Int} (he : e = 'e' ∨ e = 'E')
    (h : readPower cs = .ok (p, rest)) : ∃ pt, Exponent (some p) pt ∧ e :: cs = pt ++ rest := by
  unfold readPower at h
  split at h
  · obtain ⟨ds, hds, rfl, rfl⟩ := digits_of_powerOf h
    rw [Int.one_mul]
    exact ⟨_, .plus he hds, rfl⟩
  · obtain ⟨ds, hds, rfl, rfl⟩ := digits_of_powerOf h
    rw [Int.neg_one_mul]
    exact ⟨_, .minus he hds, rfl⟩
  · obtain ⟨ds, hds, rfl, rfl⟩ := digits_of_powerOf h
    rw [Int.one_mul]
    exact ⟨_, .bare he hds, rfl⟩

theorem exponent_of_readScaled (h : readScaled negative whole fraction cs = (d, some rest)) :
    ∃ power pt, Exponent power pt ∧ cs = pt ++ rest ∧
      numberOf negative whole fraction power = d := by
  cases cs with
  | nil =>
      cases h
      exact ⟨none, [], .none, rfl, rfl⟩
  | cons e cs =>
      unfold readScaled at h
      dsimp only at h
      split at h
      · next he =>
        cases hpower : readPower cs with
        | error d =>
            rw [hpower] at h
            cases h
        | ok r =>
            obtain ⟨p, t⟩ := r
            rw [hpower] at h
            cases h
            obtain ⟨pt, hpt, hcs⟩ := exponent_of_readPower he hpower
            exact ⟨some p, pt, hpt, hcs, rfl⟩
      · cases h
        exact ⟨none, [], .none, rfl, rfl⟩

/-- A number has integer digits, perhaps a fraction and perhaps an exponent. -/
theorem parts_of_readMagnitude (h : readMagnitude negative cs = (d, some rest)) :
    ∃ whole fraction ft power pt, (∀ c ∈ whole, c.isDigit = true) ∧ IsWhole whole ∧
      Fraction fraction ft ∧ Exponent power pt ∧ cs = whole ++ (ft ++ pt) ++ rest ∧
        numberOf negative whole fraction power = d := by
  have hwhole : IsWhole (cs.takeWhile Char.isDigit) := isWhole_of_readMagnitude h
  have hdigits : ∀ c ∈ cs.takeWhile Char.isDigit, c.isDigit = true :=
    fun _ hc => List.mem_takeWhile_imp hc
  have hcs : cs.takeWhile Char.isDigit ++ cs.dropWhile Char.isDigit = cs :=
    List.takeWhile_append_dropWhile
  by_cases hpoint : ∃ r, cs.dropWhile Char.isDigit = '.' :: r
  · obtain ⟨r, hr⟩ := hpoint
    rw [readMagnitude_of_point hwhole hr] at h
    split at h
    · cases h
    · next hfraction =>
      have hds : Digits (r.takeWhile Char.isDigit) :=
        ⟨by simpa using hfraction, fun _ hc => List.mem_takeWhile_imp hc⟩
      obtain ⟨power, pt, hpt, hrest, hd⟩ := exponent_of_readScaled h
      refine ⟨_, _, _, power, pt, hdigits, hwhole, .point hds, hpt, ?_, hd⟩
      have hr' : r.takeWhile Char.isDigit ++ (pt ++ rest) = r := by
        rw [← hrest, List.takeWhile_append_dropWhile]
      rw [List.append_assoc, List.append_assoc, List.cons_append, hr', ← hr, hcs]
  · have hnone : ∀ r, cs.dropWhile Char.isDigit ≠ '.' :: r := fun r hr => hpoint ⟨r, hr⟩
    rw [readMagnitude_of_whole hwhole rfl hnone] at h
    obtain ⟨power, pt, hpt, hrest, hd⟩ := exponent_of_readScaled h
    refine ⟨_, [], [], power, pt, hdigits, hwhole, .none, hpt, ?_, hd⟩
    rw [List.nil_append, List.append_assoc, ← hrest, hcs]

end Numbers

/-! ### Strings -/

theorem mem_escapes {e c : Char} (h : escaped? e = some c) : (e, c) ∈ escapes := by
  unfold escaped? at h
  split_ifs at h with hsame hb hf hn hr ht
  · obtain rfl := Option.some.inj h
    rcases hsame with rfl | rfl | rfl <;> decide
  all_goals
    obtain rfl := Option.some.inj h
    subst_vars
    decide

/-- A text that starts with the pieces of a string and its closing quote. -/
def Quotes (cs rest : List Char) : Prop :=
  ∃ ps ts, List.Forall₂ Piece.Spelled ps ts ∧ cs = ts.flatten ++ '"' :: rest

theorem Quotes.cons {p : Piece} {t cs rest : List Char} (hp : p.Spelled t) (h : Quotes cs rest) :
    Quotes (t ++ cs) rest := by
  obtain ⟨ps, ts, hps, rfl⟩ := h
  exact ⟨p :: ps, t :: ts, .cons hp hps, by rw [List.flatten_cons, List.append_assoc]⟩

theorem quotes_of_readQuoted {cs rest : List Char} (h : (readQuoted cs).rest = .ok rest) :
    Quotes cs rest := by
  fun_induction readQuoted cs with
  | case2 cs =>
      obtain rfl := Except.ok.inj h
      exact ⟨[], [], .nil, rfl⟩
  | case5 a b c d cs n hn htrail ih => exact (ih h).cons (.unit hn)
  | case9 a b c d n hn htrail hlead e f g k cs m hm htrail' ih =>
      exact ((ih h).cons (.unit hm)).cons (.unit hn)
  | case10 a b c d n hn htrail hlead e f g k cs m hm htrail' ih =>
      exact ((ih h).cons (.unit hm)).cons (.unit hn)
  | case12 a b c d n hn htrail hlead cs _ _ _ _ ih => exact (ih h).cons (.unit hn)
  | case13 a b c d cs n hn htrail hlead ih => exact (ih h).cons (.unit hn)
  | case15 e cs _ hu c hescaped ih => exact (ih h).cons (.letter (mem_escapes hescaped))
  | case18 c cs hquote hback _ _ hletter hc ih =>
      have hback : c ≠ '\\' := by
        rintro rfl
        cases cs with
        | nil => exact hback rfl rfl
        | cons e cs => exact hletter e cs rfl rfl
      exact (ih h).cons (.plain hc hquote hback)
  | _ => cases h

theorem pieces_of_readString {cs rest : List Char} {d : Doc}
    (h : readString cs = (d, some rest)) : ∃ ps ts, List.Forall₂ Piece.Spelled ps ts ∧
      cs = ts.flatten ++ '"' :: rest ∧ stringOf ps = d := by
  have hrest : (readQuoted cs).rest = .ok rest := by
    unfold readString at h
    dsimp only at h
    split at h
    · next hrest =>
      cases h
      exact hrest
    · next hrest =>
      cases h
      exact hrest
    · cases h
    · cases h
  obtain ⟨ps, ts, hps, rfl⟩ := quotes_of_readQuoted hrest
  rw [readString_spelled hps] at h
  exact ⟨ps, ts, hps, rfl, congrArg Prod.fst h⟩

/-! ### Values -/

section Containers
variable {fuel depth : Nat} {cs rest : List Char} {d : Doc}

theorem spelled_of_bracket (hitems : (readItems fuel (depth + 1) cs).rest = some rest →
      ∃ items text, SpellsItems items text ∧ cs = text ++ ']' :: rest ∧
        readItems fuel (depth + 1) cs = ⟨insideItems (depth + 1) items, none, some rest⟩)
    (h : readValue (fuel + 1) depth ('[' :: cs) = (d, some rest)) :
    ∃ d₀ text, Spells d₀ text ∧ '[' :: cs = text ++ rest ∧ d₀.inside depth = d := by
  cases hcs : skipGap cs with
  | nil =>
      rw [readValue_bracket, hcs] at h
      cases h
  | cons c ds =>
      by_cases hc : c = ']'
      · subst hc
        rw [readValue_empty_arr fuel depth hcs] at h
        cases h
        obtain ⟨ws, hws, rfl⟩ := exists_gap_cons hcs
        exact ⟨_, _, .noItems hws, by simp, rfl⟩
      · have hread : (readItems fuel (depth + 1) cs).rest = some rest := by
          have hrest := congrArg Prod.snd h
          rw [readValue_bracket, hcs] at hrest
          dsimp only at hrest
          split at hrest
          · next heq => cases heq
          · next heq => exact absurd (List.cons.inj heq).1 hc
          · rwa [← hcs, readItems_skipGap] at hrest
        obtain ⟨items, text, hspelled, rfl, hrun⟩ := hitems hread
        rw [readValue_items ⟨c, ds, hcs, hc⟩ hrun] at h
        cases h
        exact ⟨_, _, .items hspelled, by simp, rfl⟩

theorem spelled_of_brace (hmembers : (readMembers fuel (depth + 1) cs).rest = some rest →
      ∃ members text, SpellsMembers members text ∧ cs = text ++ '\x7d' :: rest ∧
        readMembers fuel (depth + 1) cs = ⟨insideMembers (depth + 1) members, none, some rest⟩)
    (h : readValue (fuel + 1) depth ('\x7b' :: cs) = (d, some rest)) :
    ∃ d₀ text, Spells d₀ text ∧ '\x7b' :: cs = text ++ rest ∧ d₀.inside depth = d := by
  by_cases hclosed : ∃ more, skipGap cs = '\x7d' :: more
  · obtain ⟨more, hmore⟩ := hclosed
    rw [readValue_empty_obj fuel depth hmore] at h
    cases h
    obtain ⟨ws, hws, rfl⟩ := exists_gap_cons hmore
    exact ⟨_, _, .noMembers hws, by simp, rfl⟩
  · rw [readValue_brace] at h
    dsimp only at h
    split at h
    · next heq => exact absurd ⟨_, heq⟩ hclosed
    · rw [readMembers_skipGap] at h
      obtain ⟨members, text, hspelled, rfl, hrun⟩ := hmembers (congrArg Prod.snd h)
      rw [hrun] at h
      cases h
      exact ⟨_, _, .members hspelled, by simp, rfl⟩

/-- A member starts with its key, up to the colon. -/
theorem key_of_readMembers (h : (readMembers (fuel + 1) depth cs).rest = some rest) :
    ∃ key ks vs, SpellsKey key ks ∧ cs = ks ++ ':' :: vs ∧
      readMembers (fuel + 1) depth cs =
        afterMember fuel depth key (readValue fuel depth vs) := by
  have hparts : ∃ qs t vs, skipGap cs = '"' :: qs ∧ (readQuoted qs).rest = .ok t ∧
      skipGap t = ':' :: vs := by
    rw [readMembers] at h
    dsimp only at h
    split at h
    · cases h
    · next qs hqs =>
      split at h
      · split at h <;> cases h
      · next t ht =>
        split at h
        · cases h
        · next vs hvs => exact ⟨qs, t, vs, hqs, ht, hvs⟩
        · cases h
    · cases h
  obtain ⟨qs, t, vs, hqs, ht, hvs⟩ := hparts
  obtain ⟨ps, ts, hps, rfl⟩ := quotes_of_readQuoted ht
  obtain ⟨before, hbefore, rfl⟩ := exists_gap_cons hqs
  obtain ⟨after, hafter, rfl⟩ := exists_gap_cons hvs
  have hkey := SpellsKey.key hbefore hps hafter
  have hcs : before ++ '"' :: (ts.flatten ++ '"' :: (after ++ ':' :: vs)) =
      (before ++ '"' :: (ts.flatten ++ '"' :: after)) ++ ':' :: vs := by
    simp only [List.append_assoc, List.cons_append]
  rw [hcs]
  exact ⟨_, _, vs, hkey, rfl, readMembers_spelled_key hkey fuel depth vs⟩

end Containers

mutual
/-- Where a value is read to its end, its text stands there. -/
theorem spelled_of_readValue (fuel depth : Nat) {cs rest : List Char} {d : Doc}
    (h : readValue fuel depth cs = (d, some rest)) :
    ∃ ws d₀ text, Gap ws ∧ Spells d₀ text ∧ cs = ws ++ (text ++ rest) ∧ d₀.inside depth = d := by
  cases fuel with
  | zero => cases h
  | succ fuel =>
      obtain ⟨ws, hws, hcs⟩ := exists_gap cs
      suffices hfront : ∃ d₀ text, Spells d₀ text ∧ skipGap cs = text ++ rest ∧
          d₀.inside depth = d by
        obtain ⟨d₀, text, hd₀, htext, hinside⟩ := hfront
        exact ⟨ws, d₀, text, hws, hd₀, htext ▸ hcs, hinside⟩
      have hread : readValue (fuel + 1) depth (skipGap cs) = (d, some rest) := by
        rw [readValue_skipGap, h]
      rw [readValue] at h
      generalize skipGap cs = ds at h hread ⊢
      dsimp only at h
      split at h
      · cases h
      · obtain ⟨rfl, rfl⟩ := word_of_readWord h
        exact ⟨_, _, .null, rfl, rfl⟩
      · obtain ⟨rfl, rfl⟩ := word_of_readWord h
        exact ⟨_, _, .true, rfl, rfl⟩
      · obtain ⟨rfl, rfl⟩ := word_of_readWord h
        exact ⟨_, _, .false, rfl, rfl⟩
      · obtain ⟨whole, fraction, ft, power, pt, hdigits, hwhole, hft, hpt, rfl, rfl⟩ :=
          parts_of_readMagnitude h
        exact ⟨_, _, .negative hdigits hwhole hft hpt, rfl, inside_numberOf _ _ _ _ _⟩
      · obtain ⟨ps, ts, hps, rfl, rfl⟩ := pieces_of_readString h
        exact ⟨_, _, .string hps, by simp, inside_stringOf _ _⟩
      · exact spelled_of_bracket (fun h => spelled_of_readItems fuel (depth + 1) h) hread
      · exact spelled_of_brace (fun h => spelled_of_readMembers fuel (depth + 1) h) hread
      · split at h
        · obtain ⟨whole, fraction, ft, power, pt, hdigits, hwhole, hft, hpt, hcs, rfl⟩ :=
            parts_of_readMagnitude h
          exact ⟨_, _, .positive hdigits hwhole hft hpt, hcs, inside_numberOf _ _ _ _ _⟩
        · cases h
theorem spelled_of_readItems (fuel depth : Nat) {cs rest : List Char}
    (h : (readItems fuel depth cs).rest = some rest) :
    ∃ items text, SpellsItems items text ∧ cs = text ++ ']' :: rest ∧
      readItems fuel depth cs = ⟨insideItems depth items, none, some rest⟩ := by
  cases fuel with
  | zero => cases h
  | succ fuel =>
      rcases hread : readValue fuel depth cs with ⟨d, _ | t⟩
      · rw [readItems, hread] at h
        cases h
      · obtain ⟨ws, d, text, hws, hd, rfl, rfl⟩ := spelled_of_readValue fuel depth hread
        rw [readItems, hread] at h
        dsimp only at h
        split at h
        · cases h
        · next more hcomma =>
          obtain ⟨items, text', hitems, rfl, hrun⟩ := spelled_of_readItems fuel depth h
          obtain ⟨after, hafter, rfl⟩ := exists_gap_cons hcomma
          refine ⟨d :: items, _, .more (.part hws hd hafter) hitems, ?_,
            readItems_more hread hcomma hrun⟩
          simp only [List.append_assoc, List.cons_append]
        · next more hbracket =>
          obtain rfl := Option.some.inj h
          obtain ⟨after, hafter, rfl⟩ := exists_gap_cons hbracket
          refine ⟨[d], _, .last (.part hws hd hafter), ?_, readItems_last hread hbracket⟩
          simp only [List.append_assoc]
        · cases h
theorem spelled_of_readMembers (fuel depth : Nat) {cs rest : List Char}
    (h : (readMembers fuel depth cs).rest = some rest) :
    ∃ members text, SpellsMembers members text ∧ cs = text ++ '\x7d' :: rest ∧
      readMembers fuel depth cs = ⟨insideMembers depth members, none, some rest⟩ := by
  cases fuel with
  | zero => cases h
  | succ fuel =>
      obtain ⟨key, ks, vs, hkey, rfl, hmember⟩ := key_of_readMembers h
      rw [hmember] at h ⊢
      rcases hread : readValue fuel depth vs with ⟨d, _ | t⟩
      · rw [hread] at h
        cases h
      · obtain ⟨ws, d, text, hws, hd, rfl, rfl⟩ := spelled_of_readValue fuel depth hread
        rw [hread, afterMember] at h
        split at h
        · cases h
        · next more hcomma =>
          obtain ⟨members, text', hmembers, rfl, hrun⟩ := spelled_of_readMembers fuel depth h
          refine ⟨(key, d) :: members, ?_⟩
          rw [afterMember_more hcomma hrun]
          obtain ⟨after, hafter, rfl⟩ := exists_gap_cons hcomma
          refine ⟨_, .more hkey (.part hws hd hafter) hmembers, ?_, rfl⟩
          simp only [List.append_assoc, List.cons_append]
        · next more hbrace =>
          obtain rfl := Option.some.inj h
          refine ⟨[(key, d)], ?_⟩
          rw [afterMember_last hbrace]
          obtain ⟨after, hafter, rfl⟩ := exists_gap_cons hbrace
          refine ⟨_, .last hkey (.part hws hd hafter), ?_, rfl⟩
          simp only [List.append_assoc, List.cons_append]
        · cases h
end

/-! ### Texts -/

/-- The whole of a text is one value just when the text spells it. -/
theorem readPart_eq_iff {cs : List Char} {d : Doc} :
    (∃ rest, readPart cs = (d, some rest) ∧ skipGap rest = []) ↔
      ∃ d₀, SpellsPart d₀ cs ∧ d₀.inside 0 = d := by
  constructor
  · rintro ⟨rest, hread, hrest⟩
    obtain ⟨ws, d₀, text, hws, hd₀, rfl, hinside⟩ := spelled_of_readValue _ 0 hread
    exact ⟨d₀, .part hws hd₀ (gap_of_skipGap hrest), hinside⟩
  · rintro ⟨d₀, hd₀, rfl⟩
    obtain ⟨rest, hread, hrest⟩ := readValue_part hd₀ (2 * cs.length + 2) 0 (by omega) ends_nil
    rw [List.append_nil] at hread
    exact ⟨rest, hread, hrest⟩

end Doc

/-- A text decodes just when it is spelled by a document, and what is read of that decodes. -/
theorem decodeText_eq_ok_iff {α : Type} {read : Doc → Decoded α} {text : String} {a : α} :
    decodeText read text = .ok a ↔
      ∃ d : Doc, d.SpellsPart text.toList ∧ read (d.inside 0) = .ok a := by
  have hparts : decodeText read text = .ok a ↔ ∃ d, read d = .ok a ∧
      ∃ rest, Doc.readPart text.toList = (d, some rest) ∧ Doc.skipGap rest = [] := by
    unfold decodeText
    rcases Doc.readPart text.toList with ⟨d, _ | rest⟩
    · simp [bind_eq_ok]
    · simp only [bind_eq_ok, Prod.mk.injEq, Option.some.injEq]
      constructor
      · rintro ⟨b, hb, h⟩
        split at h
        · next hrest =>
          cases h
          exact ⟨d, hb, rest, ⟨rfl, rfl⟩, List.isEmpty_iff.1 hrest⟩
        · cases h
      · rintro ⟨_, hb, _, ⟨rfl, rfl⟩, hrest⟩
        exact ⟨a, hb, by rw [hrest]; rfl⟩
  rw [hparts]
  constructor
  · rintro ⟨d, hd, hread⟩
    obtain ⟨d, hspelled, rfl⟩ := Doc.readPart_eq_iff.1 hread
    exact ⟨d, hspelled, hd⟩
  · rintro ⟨d, hspelled, hd⟩
    exact ⟨d.inside 0, hd, Doc.readPart_eq_iff.2 ⟨d, hspelled, rfl⟩⟩

end InlineRelay.Json
