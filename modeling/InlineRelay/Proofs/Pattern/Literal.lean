import InlineRelay.Pattern.Matcher
import InlineRelay.Proofs.FirstMatch
import InlineRelay.Proofs.Pattern.Search

/-!
Literal patterns. A text without special characters is read as the sequence of its characters, and
so is found in exactly the texts that contain it.
-/
namespace InlineRelay

namespace Pattern
open Unicode (CharSet)

/-- The characters that patterns give a meaning of their own. -/
def specials : List Char :=
  ['\\', '.', '+', '*', '?', '(', ')', '|', '[', ']', '\x7b', '\x7d', '^', '$']

/-- The piece that takes just this character. -/
def Piece.ofChar (c : Char) : Piece := .ofAtom (.char (.single c))

namespace Reader

theorem skip_standard (cs : List Char) : Flags.standard.skip cs = cs := rfl

theorem read_plain {r : Reader} (hflags : r.flags = .standard) {c : Char} (hc : c ∉ specials)
    (cs : List Char) : r.read c cs = some (r.push (.ofChar c), cs) := by
  unfold read
  split
  case h_13 =>
    rw [hflags]
    rfl
  all_goals exact absurd (by decide) hc

/-- Characters that are not special are added to the pieces one by one. -/
theorem readAll_plain {cs : List Char} (hcs : ∀ c ∈ cs, c ∉ specials) {r : Reader}
    (hflags : r.flags = .standard) {rounds : Nat} (hrounds : cs.length < rounds) :
    r.readAll rounds cs = finish? { r with
      level := { r.level with pieces := (cs.map Piece.ofChar).reverse ++ r.level.pieces } } := by
  induction cs generalizing r rounds with
  | nil =>
      cases rounds with
      | zero => exact absurd hrounds (Nat.not_lt_zero _)
      | succ n =>
          unfold readAll
          rw [hflags, skip_standard]
          rfl
  | cons c cs ih =>
      cases rounds with
      | zero => exact absurd hrounds (Nat.not_lt_zero _)
      | succ n =>
          obtain ⟨hc, hcs⟩ := List.forall_mem_cons.1 hcs
          have hnext := ih hcs (r := r.push (.ofChar c)) hflags (Nat.lt_of_succ_lt_succ hrounds)
          unfold readAll
          rw [hflags, skip_standard]
          simp only [read_plain hflags hc, hnext]
          rw [List.map_cons, List.reverse_cons, List.append_assoc]
          rfl

end Reader

/-! ### What is read -/

theorem Piece.pattern_join_sequence (ps : List Piece) :
    (join sequence ps).pattern = sequence (ps.map (·.pattern)) := by
  unfold join
  split <;> rfl

theorem Piece.depth_join_ofChar_le (combine : List (Pattern Atom) → Pattern Atom)
    (cs : List Char) : (join combine (cs.map ofChar)).depth ≤ 1 := by
  have hflat : ((cs.map ofChar).map (·.depth)).foldl max 0 = 0 := by
    induction cs with
    | nil => rfl
    | cons c cs ih => exact ih
  unfold join
  split
  · rename_i p hp
    have hmem : p ∈ cs.map ofChar := hp ▸ List.mem_singleton.2 rfl
    obtain ⟨c, -, rfl⟩ := List.mem_map.1 hmem
    exact Nat.zero_le 1
  · dsimp only
    split
    · exact Nat.zero_le 1
    · rw [hflat]

theorem classes_map_single (cs : List Char) :
    classes (cs.map CharSet.single) = sequence ((cs.map Piece.ofChar).map (·.pattern)) := by
  rw [classes, List.map_map, List.map_map]
  rfl

/-- Every character of a literal takes the same room. -/
theorem room_literal_le (cs : List Char) :
    (classes (cs.map CharSet.single)).room ≤ 24 * (cs.length + 1) := by
  induction cs with
  | nil => exact Nat.le_refl 24
  | cons c cs ih =>
      cases cs with
      | nil => exact Nat.le_add_left 24 24
      | cons d cs =>
          have hstep : (classes ((c :: d :: cs).map CharSet.single)).room =
              24 + (classes ((d :: cs).map CharSet.single)).room := rfl
          rw [hstep, List.length_cons]
          omega

/-- A text without special characters is read as the sequence of its characters. -/
theorem ofText?_plain {cs : List Char} (hcs : ∀ c ∈ cs, c ∉ specials)
    (hlength : 24 * (cs.length + 1) ≤ roomLimit) :
    ofText? cs = some (classes (cs.map CharSet.single)) := by
  have hread : Reader.start.readAll (cs.length + 1) cs =
      some (.join sequence (cs.map Piece.ofChar)) := by
    rw [Reader.readAll_plain hcs rfl (Nat.lt_succ_self cs.length)]
    simp [Reader.finish?, Reader.start, Level.close, Level.branch, Level.empty, Piece.join]
  have hpattern : (Piece.join sequence (cs.map Piece.ofChar)).pattern =
      classes (cs.map CharSet.single) := by
    rw [classes_map_single, Piece.pattern_join_sequence]
  have hdepth : (Piece.join sequence (cs.map Piece.ofChar)).depth ≤ depthLimit :=
    (Piece.depth_join_ofChar_le sequence cs).trans (by decide)
  have hroom : (classes (cs.map CharSet.single)).room ≤ roomLimit :=
    (room_literal_le cs).trans hlength
  rw [ofText?, hread]
  simp only [bind, Option.bind, hpattern, if_pos (And.intro hdepth hroom)]
  rfl

theorem spells_map_single {cs run : List Char} : Spells (cs.map CharSet.single) run ↔ run = cs := by
  have hsame : (fun c d : Char => (CharSet.single c).contains d.toNat = true) = Eq := by
    funext c d
    exact propext (CharSet.contains_single.trans eq_comm)
  rw [Spells, List.forall₂_map_left_iff, hsame, List.forall₂_eq_eq_eq]
  exact eq_comm

/-- A literal is found in the texts that contain it. -/
theorem occursIn_literal (cs text : List Char) :
    (classes (cs.map CharSet.single)).occursIn text = true ↔ cs <:+: text := by
  rw [occursIn_classes]
  simp only [spells_map_single, exists_eq_left]

theorem compile_plain {selector : String} (hlength : selector.length ≤ 1000)
    (hplain : ∀ c ∈ selector.toList, c ∉ specials) :
    matcher.compile selector = some fun text =>
      (classes (selector.toList.map CharSet.single)).occursIn text.toList := by
  have hlimit : 24 * (1000 + 1) ≤ roomLimit := by decide
  have hroom : 24 * (selector.toList.length + 1) ≤ roomLimit := by
    rw [String.length_toList]
    omega
  unfold matcher
  dsimp only
  rw [ofText?_plain hplain hroom, Option.map_some]

end Pattern

namespace Selection

/-- A selector of at most a thousand characters, none of them special and not all of them digits,
selects the first result other than a game whose message contains it as it is written. All results
are kept where no message does. -/
theorem select_literal (cs : List Candidate) (selector : String) (hne : selector ≠ "")
    (hlength : selector.length ≤ 1000) (hplain : ∀ c ∈ selector.toList, c ∉ Pattern.specials)
    (hdigits : ¬ ∀ c ∈ selector.toList, '0' ≤ c ∧ c ≤ '9') :
    (∀ c, select Pattern.matcher cs selector = one c ↔ ∃ before after, cs = before ++ c :: after ∧
      c.Bears (selector.toList <:+: ·.toList) ∧
      ∀ d ∈ before, ¬ d.Bears (selector.toList <:+: ·.toList)) ∧
    (select Pattern.matcher cs selector = all cs ↔
      ∀ c ∈ cs, ¬ c.Bears (selector.toList <:+: ·.toList)) := by
  have hnumeral : isNumeral selector = false := by
    rw [← Bool.not_eq_true, isNumeral_iff]
    exact fun h => hdigits h.2
  rw [select_of_compile hnumeral hne (Pattern.compile_plain hlength hplain)]
  constructor
  · intro c
    rw [firstMatch_eq_one_iff]
    simp only [Pattern.occursIn_literal]
  · rw [firstMatch_eq_all_iff]
    simp only [Pattern.occursIn_literal]

/-- The game's message does not count, and the one before it has only parts of the selector. -/
theorem select_literal_overlap :
    let game := Candidate.game ⟨"2", "game", Rehearsal.plainMessage .mediaAuto (some "ab c"), []⟩
    let before := [Rehearsal.text "1" "ab Ab c", game]
    let found := Rehearsal.text "3" "abab c"
    let after := [Rehearsal.photo "4" none, Rehearsal.text "5" "ab c"]
    "ab c" ≠ "" ∧ "ab c".length ≤ 1000 ∧ (∀ c ∈ "ab c".toList, c ∉ Pattern.specials) ∧
      (¬ ∀ c ∈ "ab c".toList, '0' ≤ c ∧ c ≤ '9') ∧
      select Pattern.matcher (before ++ found :: after) "ab c" = one found ∧
      select Pattern.matcher before "ab c" = all before := by
  intro game before found after
  have hne : "ab c" ≠ "" := by decide
  have hlength : "ab c".length ≤ 1000 := by decide
  have hplain : ∀ c ∈ "ab c".toList, c ∉ Pattern.specials := by
    simp [Pattern.specials]
  have hdigits : ¬ ∀ c ∈ "ab c".toList, '0' ≤ c ∧ c ≤ '9' :=
    fun h => absurd (h 'a' (by decide)) (by decide)
  have hfound : found.Bears ("ab c".toList <:+: ·.toList) := by decide
  have hbefore : ∀ d ∈ before, ¬ d.Bears ("ab c".toList <:+: ·.toList) := by decide +kernel
  exact ⟨hne, hlength, hplain, hdigits,
    ((select_literal _ "ab c" hne hlength hplain hdigits).1 found).2
      ⟨before, after, rfl, hfound, hbefore⟩,
    (select_literal before "ab c" hne hlength hplain hdigits).2.2 hbefore⟩

end Selection
end InlineRelay
