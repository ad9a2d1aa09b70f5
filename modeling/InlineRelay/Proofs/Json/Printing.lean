import InlineRelay.Proofs.Json.Document
import InlineRelay.Proofs.Json.Numerals

/-!
Printed texts read back: a value whose numbers do, and which is not nested too deep, is what
stands in its text, whatever follows it.
-/
namespace InlineRelay.Json

namespace Doc

/-! ### Strings -/

theorem readQuoted_plain {c : Char} (hquote : c ≠ '"') (hback : c ≠ '\\') (hc : ¬ c.toNat < 0x20)
    (cs : List Char) : readQuoted (c :: cs) = (readQuoted cs).push (some c) := by
  rw [readQuoted]
  · rw [if_neg hc]
  all_goals simp_all

theorem readQuoted_letter {c d : Char} (hu : c ≠ 'u') (h : escaped? c = some d) (cs : List Char) :
    readQuoted ('\\' :: c :: cs) = (readQuoted cs).push (some d) := by
  rw [readQuoted]
  · simp [h]
  all_goals simp_all

/-- A unit that is no surrogate is a character. -/
theorem readQuoted_unit {a b c d : Char} {n : Nat} (h : hex4? a b c d = some n)
    (htrail : isTrail n = false) (hlead : isLead n = false) (cs : List Char) :
    readQuoted ('\\' :: 'u' :: a :: b :: c :: d :: cs) =
      (readQuoted cs).push (some (Char.ofNat n)) := by
  rw [readQuoted]
  simp [h, htrail, hlead]

theorem hex4?_control {n : Nat} (h : n < 0x20) :
    hex4? '0' '0' (hexDigits.getD (n / 16) '0') (hexDigits.getD (n % 16) '0') = some n ∧
      isTrail n = false ∧ isLead n = false := by
  have hall : ∀ n < 0x20,
      hex4? '0' '0' (hexDigits.getD (n / 16) '0') (hexDigits.getD (n % 16) '0') = some n ∧
        isTrail n = false ∧ isLead n = false := by
    decide
  exact hall n h

/-- A character is read off the escape it is written as. -/
theorem readQuoted_escapeChar (c : Char) (cs : List Char) :
    readQuoted (escapeChar c ++ cs) = (readQuoted cs).push (some c) := by
  unfold escapeChar
  split_ifs with h₁ h₂ h₃ h₄ h₅ h₆ h₇ h₈
  · subst h₁
    exact readQuoted_letter (by decide) (by decide) cs
  · subst h₂
    exact readQuoted_letter (by decide) (by decide) cs
  · subst h₃
    exact readQuoted_letter (by decide) (by decide) cs
  · subst h₄
    exact readQuoted_letter (by decide) (by decide) cs
  · subst h₅
    exact readQuoted_letter (by decide) (by decide) cs
  · subst h₆
    exact readQuoted_letter (by decide) (by decide) cs
  · subst h₇
    exact readQuoted_letter (by decide) (by decide) cs
  · obtain ⟨hhex, htrail, hlead⟩ := hex4?_control h₈
    have h := readQuoted_unit hhex htrail hlead cs
    rwa [Char.ofNat_toNat] at h
  · exact readQuoted_plain h₁ h₂ h₈ cs

theorem readQuoted_flatMap (cs rest : List Char) :
    readQuoted (cs.flatMap escapeChar ++ '"' :: rest) = ⟨cs.map some, .ok rest⟩ := by
  induction cs with
  | nil => rw [List.flatMap_nil, List.nil_append, readQuoted, List.map_nil]
  | cons c cs ih =>
      rw [List.flatMap_cons, List.append_assoc, readQuoted_escapeChar, ih]
      rfl

theorem chars?_map (cs : List Char) (rest : Except Fault (List Char)) :
    Quoted.chars? ⟨cs.map some, rest⟩ = some cs := by
  unfold Quoted.chars?
  induction cs with
  | nil => rfl
  | cons c cs ih =>
      rw [List.map_cons, List.mapM_cons]
      dsimp only at ih ⊢
      rw [ih]
      rfl

theorem quote_append (s : String) (rest : List Char) :
    quote s ++ rest = '"' :: (s.toList.flatMap escapeChar ++ '"' :: rest) := by
  simp [quote]

theorem readString_quote (s : String) (rest : List Char) :
    readString (s.toList.flatMap escapeChar ++ '"' :: rest) = (.str s, some rest) := by
  unfold readString
  simp only [readQuoted_flatMap, chars?_map, String.ofList_toList]

end Doc

/-! ### Values -/

mutual
/-- How many containers are nested in one another. -/
def depth : Json → Nat
  | .arr items => depthItems items + 1
  | .obj ms => depthMembers ms + 1
  | _ => 0
def depthItems : List Json → Nat
  | [] => 0
  | v :: vs => max v.depth (depthItems vs)
def depthMembers : List (String × Json) → Nat
  | [] => 0
  | (_, v) :: ms => max v.depth (depthMembers ms)
end

mutual
/-- The numbers in a value. -/
def numbers : Json → List Number
  | .num n => [n]
  | .arr items => numbersOfItems items
  | .obj ms => numbersOfMembers ms
  | _ => []
def numbersOfItems : List Json → List Number
  | [] => []
  | v :: vs => v.numbers ++ numbersOfItems vs
def numbersOfMembers : List (String × Json) → List Number
  | [] => []
  | (_, v) :: ms => v.numbers ++ numbersOfMembers ms
end

theorem depthMembers_le {fs : Fields} {n : Nat} :
    depthMembers fs ≤ n ↔ ∀ m ∈ fs, m.2.depth ≤ n := by
  induction fs with
  | nil => simp [depthMembers]
  | cons m fs ih => rw [depthMembers, Nat.max_le, ih, List.forall_mem_cons]

theorem mem_numbersOfMembers {fs : Fields} {n : Number} :
    n ∈ numbersOfMembers fs ↔ ∃ m ∈ fs, n ∈ m.2.numbers := by
  induction fs with
  | nil => simp [numbersOfMembers]
  | cons m fs ih => rw [numbersOfMembers, List.mem_append, ih, List.exists_mem_cons_iff]

theorem depth_ofFields_le {ms : Fields} {n : Nat} (h : ∀ m ∈ ms, m.2.depth ≤ n) :
    (ofFields ms).depth ≤ n + 1 := by
  rw [ofFields, depth, Nat.add_le_add_iff_right, depthMembers_le]
  exact fun m hm => h m (Fields.mem_ofMembers hm)

theorem mem_numbers_ofFields {ms : Fields} {n : Number} (h : n ∈ (ofFields ms).numbers) :
    ∃ m ∈ ms, n ∈ m.2.numbers := by
  rw [ofFields, numbers, mem_numbersOfMembers] at h
  obtain ⟨m, hm, hn⟩ := h
  exact ⟨m, Fields.mem_ofMembers hm, hn⟩

namespace Doc

theorem ends_comma (cs : List Char) : Ends (',' :: cs) := fun c hc => by
  cases hc
  decide

theorem ends_bracket (cs : List Char) : Ends (']' :: cs) := fun c hc => by
  cases hc
  decide

theorem ends_brace (cs : List Char) : Ends ('\x7d' :: cs) := fun c hc => by
  cases hc
  decide

/-- Where a value is found, no bracket closes. -/
theorem opens_of_readValue {fuel depth : Nat} {cs t : List Char} {d : Doc}
    (h : readValue fuel depth cs = (d, some t)) : ∃ c ds, skipGap cs = c :: ds ∧ c ≠ ']' := by
  cases fuel with
  | zero => cases h
  | succ fuel =>
      rw [readValue] at h
      cases hcs : skipGap cs with
      | nil =>
          rw [hcs] at h
          cases h
      | cons c ds =>
          refine ⟨c, ds, rfl, ?_⟩
          rintro rfl
          rw [hcs] at h
          cases h

theorem readItems_skipGap (fuel depth : Nat) (cs : List Char) :
    readItems fuel depth (skipGap cs) = readItems fuel depth cs := by
  cases fuel with
  | zero => rfl
  | succ fuel => rw [readItems, readItems, readValue_skipGap]

/-- A container inside `depth` others, which has no value if that is too deep. -/
def bounded (depth : Nat) (d : Doc) : Doc := if nesting ≤ depth then .spoilt d else d

theorem bounded_of_lt {depth : Nat} (h : depth < nesting) (d : Doc) : bounded depth d = d :=
  if_neg (Nat.not_le.2 h)

theorem readValue_bracket (fuel depth : Nat) (cs : List Char) :
    readValue (fuel + 1) depth ('[' :: cs) =
      let r := match skipGap cs with
        | [] => Run.cutOff .truncated
        | ']' :: cs => Run.closed cs
        | cs => readItems fuel (depth + 1) cs
      (bounded depth (.arr r.parts r.cut), r.rest) := by
  rw [readValue, skipGap_cons (by decide)]
  rfl

theorem readValue_brace (fuel depth : Nat) (cs : List Char) :
    readValue (fuel + 1) depth ('\x7b' :: cs) =
      let r := match skipGap cs with
        | '\x7d' :: cs => Run.closed cs
        | cs => readMembers fuel (depth + 1) cs
      (bounded depth (.obj r.parts r.cut), r.rest) := by
  rw [readValue, skipGap_cons (by decide)]
  rfl

theorem readMembers_skipGap (fuel depth : Nat) (cs : List Char) :
    readMembers fuel depth (skipGap cs) = readMembers fuel depth cs := by
  cases fuel with
  | zero => rfl
  | succ fuel => rw [readMembers, readMembers, skipGap_skipGap]

section Containers
variable {cs rest : List Char} (fuel depth : Nat)

theorem readValue_empty_arr (hcs : skipGap cs = ']' :: rest) :
    readValue (fuel + 1) depth ('[' :: cs) = (bounded depth (.arr [] none), some rest) := by
  rw [readValue_bracket, hcs]
  rfl

theorem readValue_empty_obj (hcs : skipGap cs = '\x7d' :: rest) :
    readValue (fuel + 1) depth ('\x7b' :: cs) = (bounded depth (.obj [] none), some rest) := by
  rw [readValue_brace, hcs]
  rfl

variable {fuel depth}

theorem readValue_items {items : List Doc} (hopens : ∃ c ds, skipGap cs = c :: ds ∧ c ≠ ']')
    (h : readItems fuel (depth + 1) cs = ⟨items, none, some rest⟩) :
    readValue (fuel + 1) depth ('[' :: cs) = (bounded depth (.arr items none), some rest) := by
  obtain ⟨c, ds, hcs, hc⟩ := hopens
  rw [← readItems_skipGap, hcs] at h
  rw [readValue_bracket, hcs]
  split
  · next heq => cases heq
  · next heq => exact absurd (List.cons.inj heq).1 hc
  · rw [h]

theorem readValue_members {members : List (Option String × Doc)}
    (hopens : ∃ ds, skipGap cs = '"' :: ds)
    (h : readMembers fuel (depth + 1) cs = ⟨members, none, some rest⟩) :
    readValue (fuel + 1) depth ('\x7b' :: cs) = (bounded depth (.obj members none), some rest) := by
  obtain ⟨ds, hcs⟩ := hopens
  rw [← readMembers_skipGap, hcs] at h
  have hrun : (match '"' :: ds with
      | '\x7d' :: cs => Run.closed cs
      | cs => readMembers fuel (depth + 1) cs) = ⟨members, none, some rest⟩ := h
  rw [readValue_brace, hcs, hrun]

end Containers

section Lists
variable {fuel depth : Nat} {cs t rest : List Char} {d : Doc} {items : List Doc}

theorem readItems_last (h : readValue fuel depth cs = (d, some t))
    (ht : skipGap t = ']' :: rest) :
    readItems (fuel + 1) depth cs = ⟨[d], none, some rest⟩ := by
  rw [readItems, h]
  dsimp only
  rw [ht]
  rfl

theorem readItems_more {more : List Char} (h : readValue fuel depth cs = (d, some t))
    (ht : skipGap t = ',' :: more)
    (hmore : readItems fuel depth more = ⟨items, none, some rest⟩) :
    readItems (fuel + 1) depth cs = ⟨d :: items, none, some rest⟩ := by
  rw [readItems, h]
  dsimp only
  rw [ht]
  exact congrArg (Run.cons d) hmore

/-- What follows a member. -/
def afterMember (fuel depth : Nat) (key : Option String) (value : Doc × Option (List Char)) :
    Run (Option String × Doc) :=
  match value with
  | (d, none) => ⟨[(key, d)], none, none⟩
  | (d, some rest) =>
    .cons (key, d) <| match skipGap rest with
      | [] => Run.cutOff .truncated
      | ',' :: cs => readMembers fuel depth cs
      | '\x7d' :: cs => Run.closed cs
      | _ => Run.cutOff .malformed

/-- What follows a key. -/
def afterKey (fuel depth : Nat) (key : Option String) (rest : List Char) :
    Run (Option String × Doc) :=
  match skipGap rest with
  | [] => ⟨[(key, .broken .truncated .truncated)], none, none⟩
  | ':' :: cs => afterMember fuel depth key (readValue fuel depth cs)
  | _ => ⟨[(key, .broken .malformed .malformed)], none, none⟩

theorem readMembers_quoted {ks vs : List Char} (fuel depth : Nat)
    (hcs : skipGap cs = '"' :: ks) (hrest : (readQuoted ks).rest = .ok t)
    (ht : skipGap t = ':' :: vs) :
    readMembers (fuel + 1) depth cs =
      afterMember fuel depth ((readQuoted ks).chars?.map String.ofList)
        (readValue fuel depth vs) := by
  have hkey : readMembers (fuel + 1) depth cs =
      afterKey fuel depth ((readQuoted ks).chars?.map String.ofList) t := by
    rw [readMembers, hcs]
    simp only [hrest]
    rfl
  rw [hkey, afterKey, ht]
  rfl

theorem readMembers_key (key : String) (fuel depth : Nat) (cs : List Char) :
    readMembers (fuel + 1) depth (quote key ++ ':' :: cs) =
      afterMember fuel depth (some key) (readValue fuel depth cs) := by
  have hquoted := readQuoted_flatMap key.toList (':' :: cs)
  have hcs : skipGap (quote key ++ ':' :: cs) =
      '"' :: (key.toList.flatMap escapeChar ++ '"' :: ':' :: cs) := by
    rw [quote_append]
    exact skipGap_cons (by decide) _
  rw [readMembers_quoted fuel depth hcs (congrArg (·.rest) hquoted) (skipGap_cons (by decide) cs),
    hquoted, chars?_map, Option.map_some, String.ofList_toList]

theorem afterMember_last {key : Option String} (ht : skipGap t = '\x7d' :: rest) :
    afterMember fuel depth key (d, some t) = ⟨[(key, d)], none, some rest⟩ := by
  rw [afterMember, ht]
  rfl

theorem afterMember_more {key : Option String} {more : List Char}
    {members : List (Option String × Doc)} (ht : skipGap t = ',' :: more)
    (hmore : readMembers fuel depth more = ⟨members, none, some rest⟩) :
    afterMember fuel depth key (d, some t) = ⟨(key, d) :: members, none, some rest⟩ := by
  rw [afterMember, ht]
  exact congrArg (Run.cons (key, d)) hmore

end Lists

theorem printMembers_cons (m : String × Json) (ms : List (String × Json)) :
    ∃ cs, printMembers (m :: ms) = '"' :: cs := by
  obtain ⟨k, v⟩ := m
  cases ms with
  | nil => exact ⟨_, rfl⟩
  | cons n ms => exact ⟨_, rfl⟩

mutual
theorem readValue_print (fuel depth : Nat) {rest : List Char} (v : Json)
    (hfuel : 2 * (print v).length + 1 ≤ fuel) (hdepth : v.depth + depth ≤ nesting)
    (hnum : ∀ n ∈ v.numbers, n.ReadsBack) (hends : Ends rest) :
    ∃ d, readValue fuel depth (print v ++ rest) = (d, some rest) ∧ Doc.content d = .ok v := by
  cases fuel with
  | zero => omega
  | succ fuel =>
      cases v with
      | null => exact ⟨.null, rfl, rfl⟩
      | bool b =>
          cases b
          · exact ⟨.bool false, rfl, rfl⟩
          · exact ⟨.bool true, rfl, rfl⟩
      | num n =>
          have hn : n.ReadsBack := hnum n (List.mem_singleton.2 rfl)
          exact ⟨.num n, readValue_num hends hn, rfl⟩
      | str s =>
          refine ⟨.str s, ?_, rfl⟩
          rw [print, quote_append, readValue, skipGap_cons (by decide)]
          exact readString_quote s rest
      | arr items =>
          have hprint : print (.arr items) ++ rest = '[' :: (printItems items ++ ']' :: rest) := by
            simp [print]
          have hlength : (print (.arr items)).length = (printItems items).length + 2 := by
            simp [print]
          rw [Json.depth] at hdepth
          have hinside : depth < nesting := by omega
          rw [hprint]
          cases items with
          | nil =>
              have hclosed := skipGap_cons (c := ']') (by decide) rest
              have hread := readValue_empty_arr fuel depth hclosed
              rw [bounded_of_lt hinside] at hread
              exact ⟨.arr [] none, hread, rfl⟩
          | cons v vs =>
              obtain ⟨ds, hds, hvs, hopens⟩ := readItems_print fuel (depth + 1) rest v vs
                (by omega) (by omega) hnum
              have hread := readValue_items hopens hds
              rw [bounded_of_lt hinside] at hread
              exact ⟨.arr ds none, hread, content_arr.2 ⟨rfl, _, rfl, hvs⟩⟩
      | obj ms =>
          have hprint : print (.obj ms) ++ rest =
              '\x7b' :: (printMembers ms ++ '\x7d' :: rest) := by
            simp [print]
          have hlength : (print (.obj ms)).length = (printMembers ms).length + 2 := by
            simp [print]
          rw [Json.depth] at hdepth
          have hinside : depth < nesting := by omega
          rw [hprint]
          cases ms with
          | nil =>
              have hclosed := skipGap_cons (c := '\x7d') (by decide) rest
              have hread := readValue_empty_obj fuel depth hclosed
              rw [bounded_of_lt hinside] at hread
              exact ⟨.obj [] none, hread, rfl⟩
          | cons m ms =>
              obtain ⟨ds, hds, hms⟩ := readMembers_print fuel (depth + 1) rest m ms
                (by omega) (by omega) hnum
              obtain ⟨cs, hcs⟩ := printMembers_cons m ms
              have hopens : skipGap (printMembers (m :: ms) ++ '\x7d' :: rest) =
                  '"' :: (cs ++ '\x7d' :: rest) := by
                rw [hcs]
                exact skipGap_cons (by decide) _
              have hread := readValue_members ⟨_, hopens⟩ hds
              rw [bounded_of_lt hinside] at hread
              exact ⟨.obj ds none, hread, content_obj.2 ⟨rfl, _, rfl, hms⟩⟩
theorem readItems_print (fuel depth : Nat) (rest : List Char) (v : Json) (vs : List Json)
    (hfuel : 2 * (printItems (v :: vs)).length + 2 ≤ fuel)
    (hdepth : depthItems (v :: vs) + depth ≤ nesting)
    (hnum : ∀ n ∈ numbersOfItems (v :: vs), n.ReadsBack) :
    ∃ ds, readItems fuel depth (printItems (v :: vs) ++ ']' :: rest) = ⟨ds, none, some rest⟩ ∧
      List.Forall₂ (fun d v => Doc.content d = .ok v) ds (v :: vs) ∧
      ∃ c cs, skipGap (printItems (v :: vs) ++ ']' :: rest) = c :: cs ∧ c ≠ ']' := by
  cases fuel with
  | zero => omega
  | succ fuel =>
      have hv : ∀ n ∈ v.numbers, n.ReadsBack := fun n hn => hnum n (List.mem_append_left _ hn)
      rw [depthItems] at hdepth
      cases vs with
      | nil =>
          rw [printItems] at hfuel ⊢
          obtain ⟨d, hd, hcontent⟩ := readValue_print fuel depth v (by omega)
            (by omega) hv (ends_bracket rest)
          exact ⟨[d], readItems_last hd (skipGap_cons (by decide) rest), .cons hcontent .nil,
            opens_of_readValue hd⟩
      | cons w ws =>
          have hprint : printItems (v :: w :: ws) ++ ']' :: rest =
              print v ++ ',' :: (printItems (w :: ws) ++ ']' :: rest) := by
            simp [printItems]
          have hlength : (printItems (v :: w :: ws)).length =
              (print v).length + (printItems (w :: ws)).length + 1 := by
            simp [printItems]
            omega
          obtain ⟨d, hd, hcontent⟩ := readValue_print fuel depth v (by omega)
            (by omega) hv (ends_comma (printItems (w :: ws) ++ ']' :: rest))
          obtain ⟨ds, hds, hvs, -⟩ := readItems_print fuel depth rest w ws
            (by omega) (by omega)
            fun n hn => hnum n (List.mem_append_right _ hn)
          rw [hprint]
          exact ⟨d :: ds, readItems_more hd (skipGap_cons (by decide) _) hds, .cons hcontent hvs,
            opens_of_readValue hd⟩
theorem readMembers_print (fuel depth : Nat) (rest : List Char) (m : String × Json)
    (ms : List (String × Json)) (hfuel : 2 * (printMembers (m :: ms)).length + 2 ≤ fuel)
    (hdepth : depthMembers (m :: ms) + depth ≤ nesting)
    (hnum : ∀ n ∈ numbersOfMembers (m :: ms), n.ReadsBack) :
    ∃ ds, readMembers fuel depth (printMembers (m :: ms) ++ '\x7d' :: rest) =
        ⟨ds, none, some rest⟩ ∧
      List.Forall₂ (fun d n => d.1 = some n.1 ∧ Doc.content d.2 = .ok n.2) ds (m :: ms) := by
  cases fuel with
  | zero => omega
  | succ fuel =>
      obtain ⟨k, v⟩ := m
      have hv : ∀ n ∈ v.numbers, n.ReadsBack := fun n hn => hnum n (List.mem_append_left _ hn)
      rw [depthMembers] at hdepth
      cases ms with
      | nil =>
          have hprint : printMembers [(k, v)] ++ '\x7d' :: rest =
              quote k ++ ':' :: (print v ++ '\x7d' :: rest) := by
            simp [printMembers]
          have hlength : (printMembers [(k, v)]).length =
              (quote k).length + (print v).length + 1 := by
            simp [printMembers]
            omega
          obtain ⟨d, hd, hcontent⟩ := readValue_print fuel depth v (by omega)
            (by omega) hv (ends_brace rest)
          rw [hprint, readMembers_key, hd]
          exact ⟨[(some k, d)], afterMember_last (skipGap_cons (by decide) rest),
            .cons ⟨rfl, hcontent⟩ .nil⟩
      | cons n ms =>
          have hprint : printMembers ((k, v) :: n :: ms) ++ '\x7d' :: rest =
              quote k ++ ':' :: (print v ++ ',' :: (printMembers (n :: ms) ++ '\x7d' :: rest)) := by
            simp [printMembers]
          have hlength : (printMembers ((k, v) :: n :: ms)).length =
              (quote k).length + (print v).length + (printMembers (n :: ms)).length + 2 := by
            simp [printMembers]
            omega
          obtain ⟨d, hd, hcontent⟩ := readValue_print fuel depth v (by omega)
            (by omega) hv (ends_comma (printMembers (n :: ms) ++ '\x7d' :: rest))
          obtain ⟨ds, hds, hms⟩ := readMembers_print fuel depth rest n ms
            (by omega) (by omega)
            fun n hn => hnum n (List.mem_append_right _ hn)
          rw [hprint, readMembers_key, hd]
          exact ⟨(some k, d) :: ds, afterMember_more (skipGap_cons (by decide) _) hds,
            .cons ⟨rfl, hcontent⟩ hms⟩
end

end Doc

theorem toList_text (v : Json) : v.text.toList = print v := String.toList_ofList

/-- The document of a printed value holds it, and nothing follows. -/
theorem readPart_text {v : Json} (hdepth : v.depth ≤ Doc.nesting)
    (hnum : ∀ n ∈ v.numbers, n.ReadsBack) :
    ∃ d, Doc.readPart v.text.toList = (d, some []) ∧ Source.content d = .ok v := by
  obtain ⟨d, hd, hcontent⟩ := Doc.readValue_print (2 * (print v).length + 2) 0 v
    (by omega) (by omega) hnum Doc.ends_nil
  rw [List.append_nil] at hd
  exact ⟨d, by rw [toList_text, Doc.readPart, hd], Doc.content_eq_ok.2 hcontent⟩

/-- A decoder finds in a printed value what it finds in the value. -/
theorem decodeText_text {α : Type} {read : Doc → Decoded α} {v : Json} {a : α}
    (hdepth : v.depth ≤ Doc.nesting) (hnum : ∀ n ∈ v.numbers, n.ReadsBack)
    (hread : ∀ d : Doc, Source.content d = .ok v → read d = .ok a) :
    decodeText read v.text = .ok a := by
  obtain ⟨d, hd, hcontent⟩ := readPart_text hdepth hnum
  rw [decodeText, hd]
  exact bind_eq_ok.2 ⟨a, hread d hcontent, rfl⟩

end InlineRelay.Json
