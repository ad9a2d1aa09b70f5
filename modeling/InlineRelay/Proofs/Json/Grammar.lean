import InlineRelay.Proofs.Json.Spelling

/-!
The grammar of JSON texts. A text of the grammar is read as what it spells, whatever the gaps in it,
and has a value if its numbers and strings have.
-/
namespace InlineRelay.Json

namespace Doc

/-- The name a key stands for; there is none if a surrogate in it stands by itself. -/
def nameOf (ps : List Piece) : Option String := (charsOf ps).map String.ofList

/-- A key and the gaps around it. -/
inductive SpellsKey : Option String → List Char → Prop
  | key {before after : List Char} {ps : List Piece} {ts : List (List Char)} : Gap before →
      List.Forall₂ Piece.Spelled ps ts → Gap after →
      SpellsKey (nameOf ps) (before ++ '"' :: (ts.flatten ++ '"' :: after))

mutual
/-- A value and its text. -/
inductive Spells : Doc → List Char → Prop
  | null : Spells .null ['n', 'u', 'l', 'l']
  | true : Spells (.bool true) ['t', 'r', 'u', 'e']
  | false : Spells (.bool false) ['f', 'a', 'l', 's', 'e']
  | positive {whole fraction ft pt : List Char} {power : Option Int} :
      (∀ c ∈ whole, c.isDigit = true) → IsWhole whole → Fraction fraction ft → Exponent power pt →
      Spells (numberOf false whole fraction power) (whole ++ (ft ++ pt))
  | negative {whole fraction ft pt : List Char} {power : Option Int} :
      (∀ c ∈ whole, c.isDigit = true) → IsWhole whole → Fraction fraction ft → Exponent power pt →
      Spells (numberOf true whole fraction power) ('-' :: (whole ++ (ft ++ pt)))
  | string {ps : List Piece} {ts : List (List Char)} : List.Forall₂ Piece.Spelled ps ts →
      Spells (stringOf ps) ('"' :: (ts.flatten ++ ['"']))
  | noItems {ws : List Char} : Gap ws → Spells (.arr [] none) ('[' :: (ws ++ [']']))
  | items {items : List Doc} {cs : List Char} : SpellsItems items cs →
      Spells (.arr items none) ('[' :: (cs ++ [']']))
  | noMembers {ws : List Char} : Gap ws → Spells (.obj [] none) ('\x7b' :: (ws ++ ['\x7d']))
  | members {members : List (Option String × Doc)} {cs : List Char} : SpellsMembers members cs →
      Spells (.obj members none) ('\x7b' :: (cs ++ ['\x7d']))
/-- A value and its text with the gaps around it. -/
inductive SpellsPart : Doc → List Char → Prop
  | part {d : Doc} {before cs after : List Char} : Gap before → Spells d cs → Gap after →
      SpellsPart d (before ++ (cs ++ after))
inductive SpellsItems : List Doc → List Char → Prop
  | last {d : Doc} {cs : List Char} : SpellsPart d cs → SpellsItems [d] cs
  | more {d : Doc} {items : List Doc} {cs more : List Char} : SpellsPart d cs →
      SpellsItems items more → SpellsItems (d :: items) (cs ++ ',' :: more)
inductive SpellsMembers : List (Option String × Doc) → List Char → Prop
  | last {key : Option String} {d : Doc} {ks cs : List Char} : SpellsKey key ks →
      SpellsPart d cs → SpellsMembers [(key, d)] (ks ++ ':' :: cs)
  | more {key : Option String} {d : Doc} {members : List (Option String × Doc)}
      {ks cs more : List Char} : SpellsKey key ks → SpellsPart d cs → SpellsMembers members more →
      SpellsMembers ((key, d) :: members) (ks ++ ':' :: (cs ++ ',' :: more))
end

theorem Spells.bare {d : Doc} {cs : List Char} (h : Spells d cs) : SpellsPart d cs := by
  have hgap : Gap [] := fun c hc => absurd hc List.not_mem_nil
  have hpart := SpellsPart.part hgap h hgap
  rwa [List.nil_append, List.append_nil] at hpart

/-- A string can be written as it is if none of its characters needs an escape. -/
theorem Spells.plain {s : String} (h : s.toList.all isPlain) :
    Spells (.str s) ('"' :: (s.toList ++ ['"'])) := by
  have hstring := Spells.string (spelled_plain h)
  rwa [stringOf_map, ← List.flatMap_def, List.flatMap_singleton'] at hstring

theorem SpellsKey.plain {s : String} (h : s.toList.all isPlain) :
    SpellsKey (some s) ('"' :: (s.toList ++ ['"'])) := by
  have hgap : Gap [] := fun c hc => absurd hc List.not_mem_nil
  have hkey := SpellsKey.key hgap (spelled_plain h) hgap
  rwa [nameOf, charsOf_map, ← List.flatMap_def, List.flatMap_singleton', Option.map_some,
    String.ofList_toList] at hkey

mutual
/-- How many containers are nested in one another. -/
def depth : Doc → Nat
  | .arr items _ => depthItems items + 1
  | .obj members _ => depthMembers members + 1
  | _ => 0
def depthItems : List Doc → Nat
  | [] => 0
  | d :: ds => max d.depth (depthItems ds)
def depthMembers : List (Option String × Doc) → Nat
  | [] => 0
  | (_, d) :: ms => max d.depth (depthMembers ms)
end

/-! ### Texts are read -/

mutual
/-- What is read of it inside so many containers. -/
def inside : Nat → Doc → Doc
  | depth, .arr items cut => bounded depth (.arr (insideItems (depth + 1) items) cut)
  | depth, .obj members cut => bounded depth (.obj (insideMembers (depth + 1) members) cut)
  | _, d => d
def insideItems : Nat → List Doc → List Doc
  | _, [] => []
  | depth, d :: ds => d.inside depth :: insideItems depth ds
def insideMembers : Nat → List (Option String × Doc) → List (Option String × Doc)
  | _, [] => []
  | depth, (key, d) :: ms => (key, d.inside depth) :: insideMembers depth ms
end

/-- Digits make a number, or a text without a value. -/
theorem numberOf_cases (negative : Bool) (whole fraction : List Char) (power : Option Int) :
    (∃ n, numberOf negative whole fraction power = .num n) ∨
      numberOf negative whole fraction power = .spoilt .null := by
  unfold numberOf
  dsimp only
  split_ifs
  · cases Double.ofDecimal? _ _ _ with
    | some d => exact .inl ⟨_, rfl⟩
    | none => exact .inr rfl
  · exact .inl ⟨_, rfl⟩
  · exact .inl ⟨_, rfl⟩
  · cases Double.ofDecimal? _ _ _ with
    | some d => exact .inl ⟨_, rfl⟩
    | none => exact .inr rfl

theorem inside_numberOf (depth : Nat) (negative : Bool) (whole fraction : List Char)
    (power : Option Int) :
    (numberOf negative whole fraction power).inside depth =
      numberOf negative whole fraction power := by
  rcases numberOf_cases negative whole fraction power with ⟨n, hn⟩ | hn <;> rw [hn] <;> rfl

theorem inside_stringOf (depth : Nat) (ps : List Piece) :
    (stringOf ps).inside depth = stringOf ps := by
  unfold stringOf
  cases charsOf ps <;> rfl

theorem opens_of_key {key : Option String} {ks : List Char} (h : SpellsKey key ks)
    (cs : List Char) : ∃ ds, skipGap (ks ++ cs) = '"' :: ds := by
  cases h with
  | key hbefore hps hafter =>
      rw [List.append_assoc, List.cons_append, skipGap_gap_cons hbefore (by decide)]
      exact ⟨_, rfl⟩

/-- A key is read up to its colon. -/
theorem readMembers_spelled_key {key : Option String} {ks : List Char} (h : SpellsKey key ks)
    (fuel depth : Nat) (cs : List Char) :
    readMembers (fuel + 1) depth (ks ++ ':' :: cs) =
      afterMember fuel depth key (readValue fuel depth cs) := by
  cases h with
  | @key before after ps ts hbefore hps hafter =>
      obtain ⟨hrest, hchars⟩ := readQuoted_spelled hps (after ++ ':' :: cs)
      have hcs : skipGap ((before ++ '"' :: (ts.flatten ++ '"' :: after)) ++ ':' :: cs) =
          '"' :: (ts.flatten ++ '"' :: (after ++ ':' :: cs)) := by
        simp only [List.append_assoc, List.cons_append]
        exact skipGap_gap_cons hbefore (by decide) _
      rw [readMembers_quoted fuel depth hcs hrest (skipGap_gap_cons hafter (by decide) cs), hchars]
      rfl

mutual
/-- A value is read off its text. -/
theorem readValue_spelled {d : Doc} {cs : List Char} (h : Spells d cs) (fuel depth : Nat)
    {rest : List Char} (hfuel : 2 * cs.length + 1 ≤ fuel) (hends : Ends rest) :
    readValue fuel depth (cs ++ rest) = (d.inside depth, some rest) := by
  obtain ⟨fuel, rfl⟩ : ∃ n, fuel = n + 1 := ⟨fuel - 1, by omega⟩
  cases h with
  | null | true | false => rfl
  | positive hdigits hwhole hfraction hpower =>
      rw [List.append_assoc, List.append_assoc, readValue_whole hdigits hwhole, inside_numberOf]
      exact readMagnitude_spelled hdigits hwhole hfraction hpower hends
  | negative hdigits hwhole hfraction hpower =>
      rw [List.cons_append, readValue_minus, List.append_assoc, List.append_assoc, inside_numberOf]
      exact readMagnitude_spelled hdigits hwhole hfraction hpower hends
  | @string ps ts hps =>
      rw [List.cons_append, List.append_assoc, readValue, skipGap_cons (by decide), inside_stringOf]
      exact readString_spelled hps rest
  | noItems hws =>
      exact readValue_empty_arr fuel depth (skipGap_gap_last hws (by decide) rest)
  | noMembers hws =>
      exact readValue_empty_obj fuel depth (skipGap_gap_last hws (by decide) rest)
  | @items items cs hitems =>
      rw [List.length_cons, List.length_append, List.length_singleton] at hfuel
      obtain ⟨hread, hopens⟩ := readItems_spelled hitems fuel (depth + 1) rest (by omega)
      rw [List.cons_append, List.append_assoc]
      exact readValue_items hopens hread
  | @members members cs hmembers =>
      rw [List.length_cons, List.length_append, List.length_singleton] at hfuel
      obtain ⟨hread, hopens⟩ := readMembers_spelled hmembers fuel (depth + 1) rest (by omega)
      rw [List.cons_append, List.append_assoc]
      exact readValue_members hopens hread
termination_by (fuel, 0)
theorem readValue_part {d : Doc} {cs : List Char} (h : SpellsPart d cs) (fuel depth : Nat)
    {rest : List Char} (hfuel : 2 * cs.length + 1 ≤ fuel) (hends : Ends rest) :
    ∃ t, readValue fuel depth (cs ++ rest) = (d.inside depth, some t) ∧
      skipGap t = skipGap rest := by
  cases h with
  | @part _ before cs after hbefore hcs hafter =>
      rw [List.length_append, List.length_append] at hfuel
      refine ⟨after ++ rest, ?_, skipGap_gap hafter rest⟩
      rw [List.append_assoc, List.append_assoc, readValue_gap hbefore]
      exact readValue_spelled hcs fuel depth (by omega) (hends.gap hafter)
termination_by (fuel, 1)
theorem readItems_spelled {items : List Doc} {cs : List Char} (h : SpellsItems items cs)
    (fuel depth : Nat) (rest : List Char) (hfuel : 2 * cs.length + 2 ≤ fuel) :
    readItems fuel depth (cs ++ ']' :: rest) = ⟨insideItems depth items, none, some rest⟩ ∧
      ∃ c ds, skipGap (cs ++ ']' :: rest) = c :: ds ∧ c ≠ ']' := by
  obtain ⟨fuel, rfl⟩ : ∃ n, fuel = n + 1 := ⟨fuel - 1, by omega⟩
  cases h with
  | last hd =>
      obtain ⟨t, hread, ht⟩ := readValue_part hd fuel depth (by omega) (ends_bracket rest)
      exact ⟨readItems_last hread (ht.trans (skipGap_cons (by decide) rest)),
        opens_of_readValue hread⟩
  | @more d items cs more hd hmore =>
      rw [List.length_append, List.length_cons] at hfuel
      rw [List.append_assoc, List.cons_append]
      obtain ⟨t, hread, ht⟩ := readValue_part hd fuel depth (by omega)
        (ends_comma (more ++ ']' :: rest))
      obtain ⟨hitems, -⟩ := readItems_spelled hmore fuel depth rest (by omega)
      exact ⟨readItems_more hread (ht.trans (skipGap_cons (by decide) _)) hitems,
        opens_of_readValue hread⟩
termination_by (fuel, 0)
theorem readMembers_spelled {members : List (Option String × Doc)} {cs : List Char}
    (h : SpellsMembers members cs) (fuel depth : Nat) (rest : List Char)
    (hfuel : 2 * cs.length + 2 ≤ fuel) :
    readMembers fuel depth (cs ++ '\x7d' :: rest) =
        ⟨insideMembers depth members, none, some rest⟩ ∧
      ∃ ds, skipGap (cs ++ '\x7d' :: rest) = '"' :: ds := by
  obtain ⟨fuel, rfl⟩ : ∃ n, fuel = n + 1 := ⟨fuel - 1, by omega⟩
  cases h with
  | @last key d ks cs hkey hd =>
      rw [List.length_append, List.length_cons] at hfuel
      rw [List.append_assoc, List.cons_append]
      obtain ⟨t, hread, ht⟩ := readValue_part hd fuel depth (by omega) (ends_brace rest)
      refine ⟨?_, opens_of_key hkey _⟩
      rw [readMembers_spelled_key hkey, hread]
      exact afterMember_last (ht.trans (skipGap_cons (by decide) rest))
  | @more key d members ks cs more hkey hd hmore =>
      simp only [List.length_append, List.length_cons] at hfuel
      simp only [List.append_assoc, List.cons_append]
      obtain ⟨t, hread, ht⟩ := readValue_part hd fuel depth (by omega)
        (ends_comma (more ++ '\x7d' :: rest))
      obtain ⟨hmembers, -⟩ := readMembers_spelled hmore fuel depth rest (by omega)
      refine ⟨?_, opens_of_key hkey _⟩
      rw [readMembers_spelled_key hkey, hread]
      exact afterMember_more (ht.trans (skipGap_cons (by decide) _)) hmembers
termination_by (fuel, 0)
end

/-- A text is read as what it spells. -/
theorem readPart_spelled {d : Doc} {cs : List Char} (h : SpellsPart d cs) :
    (readPart cs).1 = d.inside 0 := by
  obtain ⟨t, hread, -⟩ := readValue_part h (2 * cs.length + 2) 0 (by omega) ends_nil
  rw [List.append_nil] at hread
  exact congrArg Prod.fst hread

/-! ### Texts with a value -/

theorem content_bounded {depth : Nat} {d : Doc} {v : Json} :
    Doc.content (bounded depth d) = .ok v ↔ depth < nesting ∧ Doc.content d = .ok v := by
  unfold bounded
  split
  · next h => simp [Doc.content, Nat.not_lt.2 h]
  · next h => simp [Nat.not_le.1 h]

mutual
/-- What is nested too deep has no value, and the rest has its own. -/
theorem content_inside {depth : Nat} (h : depth ≤ nesting) (d : Doc) (v : Json) :
    Doc.content (d.inside depth) = .ok v ↔
      d.depth + depth ≤ nesting ∧ Doc.content d = .ok v := by
  cases d with
  | null | bool | num | str | spoilt | broken => simp [inside, Doc.depth, h]
  | arr items cut =>
      rw [inside, content_bounded, Doc.depth, content_arr, content_arr]
      constructor
      · rintro ⟨hlt, rfl, vs, rfl, hvs⟩
        obtain ⟨hdepth, hvs⟩ := (contentItems_inside hlt items vs).1 hvs
        exact ⟨by omega, rfl, vs, rfl, hvs⟩
      · rintro ⟨hdepth, rfl, vs, rfl, hvs⟩
        have hlt : depth + 1 ≤ nesting := by omega
        exact ⟨hlt, rfl, vs, rfl, (contentItems_inside hlt items vs).2 ⟨by omega, hvs⟩⟩
  | obj members cut =>
      rw [inside, content_bounded, Doc.depth, content_obj, content_obj]
      constructor
      · rintro ⟨hlt, rfl, fs, rfl, hfs⟩
        obtain ⟨hdepth, hfs⟩ := (contentMembers_inside hlt members fs).1 hfs
        exact ⟨by omega, rfl, fs, rfl, hfs⟩
      · rintro ⟨hdepth, rfl, fs, rfl, hfs⟩
        have hlt : depth + 1 ≤ nesting := by omega
        exact ⟨hlt, rfl, fs, rfl, (contentMembers_inside hlt members fs).2 ⟨by omega, hfs⟩⟩
theorem contentItems_inside {depth : Nat} (h : depth ≤ nesting) (items : List Doc)
    (vs : List Json) :
    List.Forall₂ (fun d v => Doc.content d = .ok v) (insideItems depth items) vs ↔
      depthItems items + depth ≤ nesting ∧
        List.Forall₂ (fun d v => Doc.content d = .ok v) items vs := by
  cases items with
  | nil => simp [insideItems, depthItems, h]
  | cons d ds =>
      cases vs with
      | nil => simp [insideItems]
      | cons v vs =>
          rw [insideItems, List.forall₂_cons, List.forall₂_cons, content_inside h d v,
            contentItems_inside h ds vs, depthItems,
            ← Nat.add_max_add_right, Nat.max_le]
          exact and_and_and_comm
theorem contentMembers_inside {depth : Nat} (h : depth ≤ nesting)
    (members : List (Option String × Doc)) (fs : Fields) :
    List.Forall₂ (fun m n => m.1 = some n.1 ∧ Doc.content m.2 = .ok n.2)
        (insideMembers depth members) fs ↔
      depthMembers members + depth ≤ nesting ∧
        List.Forall₂ (fun m n => m.1 = some n.1 ∧ Doc.content m.2 = .ok n.2) members fs := by
  cases members with
  | nil => simp [insideMembers, depthMembers, h]
  | cons m ms =>
      obtain ⟨key, d⟩ := m
      cases fs with
      | nil => simp [insideMembers]
      | cons n fs =>
          rw [insideMembers, List.forall₂_cons, List.forall₂_cons, content_inside h d n.2,
            contentMembers_inside h ms fs, depthMembers,
            ← Nat.add_max_add_right, Nat.max_le]
          exact ⟨fun ⟨⟨hkey, hd, hv⟩, hds, hms⟩ => ⟨⟨hd, hds⟩, ⟨hkey, hv⟩, hms⟩,
            fun ⟨⟨hd, hds⟩, ⟨hkey, hv⟩, hms⟩ => ⟨⟨hkey, hd, hv⟩, hds, hms⟩⟩
end

mutual
/-- No number is too large for a double, and no surrogate in a string or a key stands by itself. -/
def Sound : Doc → Prop
  | .arr items _ => SoundItems items
  | .obj members _ => SoundMembers members
  | .spoilt _ => False
  | _ => True
def SoundItems : List Doc → Prop
  | [] => True
  | d :: ds => d.Sound ∧ SoundItems ds
def SoundMembers : List (Option String × Doc) → Prop
  | [] => True
  | (key, d) :: ms => key.isSome = true ∧ d.Sound ∧ SoundMembers ms
end

theorem content_numberOf {negative : Bool} {whole fraction : List Char} {power : Option Int}
    (h : (numberOf negative whole fraction power).Sound) :
    ∃ v, Doc.content (numberOf negative whole fraction power) = .ok v := by
  rcases numberOf_cases negative whole fraction power with ⟨n, hn⟩ | hn
  · exact ⟨.num n, congrArg Doc.content hn⟩
  · rw [hn] at h
    exact False.elim h

theorem content_stringOf {ps : List Piece} (h : (stringOf ps).Sound) :
    ∃ v, Doc.content (stringOf ps) = .ok v := by
  unfold stringOf at h ⊢
  cases hps : charsOf ps with
  | some cs => exact ⟨.str (String.ofList cs), rfl⟩
  | none =>
      rw [hps] at h
      exact False.elim h

mutual
/-- A sound text has a value. -/
theorem content_of_sound {d : Doc} {cs : List Char} (h : Spells d cs) (hsound : d.Sound) :
    ∃ v, Doc.content d = .ok v := by
  cases h with
  | null | true | false | noItems | noMembers => exact ⟨_, rfl⟩
  | positive | negative => exact content_numberOf hsound
  | string => exact content_stringOf hsound
  | items hitems =>
      obtain ⟨vs, hvs⟩ := contentItems_of_sound hitems hsound
      exact ⟨.arr vs, content_arr.2 ⟨rfl, vs, rfl, hvs⟩⟩
  | members hmembers =>
      obtain ⟨fs, hfs⟩ := contentMembers_of_sound hmembers hsound
      exact ⟨.obj fs, content_obj.2 ⟨rfl, fs, rfl, hfs⟩⟩
theorem contentItems_of_sound {items : List Doc} {cs : List Char} (h : SpellsItems items cs)
    (hsound : SoundItems items) :
    ∃ vs, List.Forall₂ (fun d v => Doc.content d = .ok v) items vs := by
  cases h with
  | last hd =>
      obtain ⟨v, hv⟩ := content_of_sound_part hd hsound.1
      exact ⟨[v], .cons hv .nil⟩
  | more hd hmore =>
      obtain ⟨v, hv⟩ := content_of_sound_part hd hsound.1
      obtain ⟨vs, hvs⟩ := contentItems_of_sound hmore hsound.2
      exact ⟨v :: vs, .cons hv hvs⟩
theorem content_of_sound_part {d : Doc} {cs : List Char} (h : SpellsPart d cs)
    (hsound : d.Sound) : ∃ v, Doc.content d = .ok v := by
  cases h with
  | part _ hcs _ => exact content_of_sound hcs hsound
theorem contentMembers_of_sound {members : List (Option String × Doc)} {cs : List Char}
    (h : SpellsMembers members cs) (hsound : SoundMembers members) :
    ∃ fs : Fields, List.Forall₂ (fun m n => m.1 = some n.1 ∧ Doc.content m.2 = .ok n.2)
      members fs := by
  cases h with
  | @last key d ks cs hkey hd =>
      obtain ⟨k, rfl⟩ := Option.isSome_iff_exists.1 hsound.1
      obtain ⟨v, hv⟩ := content_of_sound_part hd hsound.2.1
      exact ⟨[(k, v)], .cons ⟨rfl, hv⟩ .nil⟩
  | @more key d members ks cs more hkey hd hmore =>
      obtain ⟨k, rfl⟩ := Option.isSome_iff_exists.1 hsound.1
      obtain ⟨v, hv⟩ := content_of_sound_part hd hsound.2.1
      obtain ⟨fs, hfs⟩ := contentMembers_of_sound hmore hsound.2.2
      exact ⟨(k, v) :: fs, .cons ⟨rfl, hv⟩ hfs⟩
end

end Doc
end InlineRelay.Json
