import InlineRelay.Proofs.Position
import InlineRelay.Proofs.Success
import InlineRelay.Proofs.Text.Utf8
import InlineRelay.Settings

/-!
Reading settings. A port is what a 16-bit decimal denotes, and of all that may be wrong with the
variables the first in a fixed order is told.
-/
namespace InlineRelay.Settings

open Selection (numeral numeral_concat)

/-! ### Ports -/

/-- A text denotes a port: digits that fit into 16 bits, with a plus sign at will. -/
def IsPort (text : String) (port : Nat) : Prop :=
  ∃ sign digits, text.toList = sign ++ digits ∧ (sign = [] ∨ sign = ['+']) ∧ digits ≠ [] ∧
    (∀ c ∈ digits, '0' ≤ c ∧ c ≤ '9') ∧ port = numeral digits ∧ port ≤ 65535

theorem isDigit_iff {c : Char} : c.isDigit = true ↔ '0' ≤ c ∧ c ≤ '9' := by
  simp [Char.isDigit, Char.le_def]

theorem portDigits_singleton {n k : Nat} {c : Char} :
    portDigits n [c] = .ok k ↔ ('0' ≤ c ∧ c ≤ '9') ∧ k = n * 10 + (c.toNat - '0'.toNat) ∧
      k ≤ 65535 := by
  rw [← isDigit_iff]
  cases hc : c.isDigit with
  | false => simp [portDigits, hc]
  | true =>
      by_cases hlt : n * 10 + (c.toNat - '0'.toNat) < 0x10000
      · simp only [portDigits, hc, Bool.not_true, Bool.false_eq_true, if_false, if_pos hlt,
          Except.ok.injEq, true_and]
        omega
      · simp only [portDigits, hc, Bool.not_true, Bool.false_eq_true, if_false, if_neg hlt,
          reduceCtorEq, true_and, false_iff]
        omega

theorem portDigits_append (n : Nat) (front back : List Char) :
    portDigits n (front ++ back) = portDigits n front >>= fun k => portDigits k back := by
  induction front generalizing n with
  | nil => rfl
  | cons c front ih =>
      rw [List.cons_append, portDigits, portDigits]
      dsimp only
      split
      · rfl
      · split
        · exact ih _
        · rfl

/-- Reading may stop at any digit that makes the number too large, as none after it makes it smaller. -/
theorem portDigits_eq_ok_iff {digits : List Char} {port : Nat} :
    portDigits 0 digits = .ok port ↔
      (∀ c ∈ digits, '0' ≤ c ∧ c ≤ '9') ∧ port = numeral digits ∧ port ≤ 65535 := by
  induction digits using List.reverseRecOn generalizing port with
  | nil =>
      have hnone : numeral [] = 0 := rfl
      simp only [portDigits, hnone, Except.ok.injEq, List.not_mem_nil, false_imp_iff,
        implies_true, true_and]
      omega
  | append_singleton front c ih =>
      rw [portDigits_append, bind_eq_ok, numeral_concat]
      simp only [ih, portDigits_singleton, List.forall_mem_append, List.forall_mem_singleton]
      constructor
      · rintro ⟨k, ⟨hfront, rfl, -⟩, hc, hport, hle⟩
        exact ⟨⟨hfront, hc⟩, hport, hle⟩
      · rintro ⟨⟨hfront, hc⟩, hport, hle⟩
        exact ⟨numeral front, ⟨hfront, rfl, by omega⟩, hc, hport, hle⟩

theorem parsePort_signed {text : String} {rest : List Char} {port : Nat}
    (h : text.toList = '+' :: rest) :
    parsePort text = .ok port ↔ rest ≠ [] ∧ portDigits 0 rest = .ok port := by
  unfold parsePort
  rw [h]
  cases rest <;> simp

theorem parsePort_bare {text : String} {c : Char} {rest : List Char}
    (h : text.toList = c :: rest) (hc : c ≠ '+') :
    parsePort text = portDigits 0 (c :: rest) := by
  unfold parsePort
  rw [h]
  split
  case h_1 hnil => cases hnil
  case h_2 hplus => exact absurd (List.cons.inj hplus).1 hc
  case h_3 hplus => exact absurd (List.cons.inj hplus).1 hc
  case h_4 => rfl

theorem parsePort_eq_ok_iff {text : String} {port : Nat} :
    parsePort text = .ok port ↔ IsPort text port := by
  unfold IsPort
  cases htext : text.toList with
  | nil =>
      have hread : parsePort text = .error .empty := by
        unfold parsePort
        rw [htext]
      simp only [hread, reduceCtorEq, false_iff]
      rintro ⟨sign, digits, hall, -, hdigits, -⟩
      exact hdigits (List.append_eq_nil_iff.1 hall.symm).2
  | cons c rest =>
      by_cases hc : c = '+'
      · subst hc
        rw [parsePort_signed htext, portDigits_eq_ok_iff]
        constructor
        · rintro ⟨hne, hport⟩
          exact ⟨['+'], rest, rfl, .inr rfl, hne, hport⟩
        · rintro ⟨sign, digits, hall, rfl | rfl, hne, hrange, hport⟩
          · obtain rfl : '+' :: rest = digits := hall
            exact absurd (hrange '+' (.head _)) (by decide)
          · obtain rfl : rest = digits := (List.cons.inj hall).2
            exact ⟨hne, hrange, hport⟩
      · rw [parsePort_bare htext hc, portDigits_eq_ok_iff]
        constructor
        · intro hport
          exact ⟨[], c :: rest, rfl, .inl rfl, List.cons_ne_nil c rest, hport⟩
        · rintro ⟨sign, digits, hall, rfl | rfl, -, hport⟩
          · obtain rfl : c :: rest = digits := hall
            exact hport
          · exact absurd (List.cons.inj hall).1 hc

/-! ### Variables -/

section Texts
variable {vs : Variables} {name text : String} {bs : List UInt8}

theorem read_of_unset (h : vs.lookup name = none) : vs.read name = .error .unset := by
  unfold Variables.read
  rw [h]

theorem read_of_text (h : vs.lookup name = some (Text.octets text)) : vs.read name = .ok text := by
  unfold Variables.read
  simp only [h, Text.ofOctets?_octets]

theorem read_of_noText (h : vs.lookup name = some bs) (hbs : ∀ text, Text.octets text ≠ bs) :
    vs.read name = .error (.noText bs) := by
  have hnone : Text.ofOctets? bs = none := Text.ofOctets?_eq_none_iff.2 hbs
  unfold Variables.read
  simp only [h, hnone]

/-- A variable has a text if it is set to the octets of one. -/
theorem get?_eq_some_iff : vs.get? name = some text ↔ vs.lookup name = some (Text.octets text) := by
  constructor
  · intro h
    unfold Variables.get? Variables.read at h
    split at h
    · cases h
    · next bs hbs =>
      split at h
      · cases h
      · next htext =>
        cases h
        rw [hbs, Text.ofOctets?_eq_some_iff.1 htext]
  · intro h
    rw [Variables.get?, read_of_text h]
    rfl

theorem get?_eq_none_iff : vs.get? name = none ↔
    vs.lookup name = none ∨ ∃ bs, vs.lookup name = some bs ∧ ∀ text, Text.octets text ≠ bs := by
  simp only [Option.eq_none_iff_forall_ne_some, ne_eq, get?_eq_some_iff]
  cases vs.lookup name with
  | none => simp
  | some bs => simp [eq_comm]

theorem get?_of_unset (h : vs.lookup name = none) : vs.get? name = none :=
  get?_eq_none_iff.2 (.inl h)

theorem get?_of_noText (h : vs.lookup name = some bs) (hbs : ∀ text, Text.octets text ≠ bs) :
    vs.get? name = none :=
  get?_eq_none_iff.2 (.inr ⟨bs, h, hbs⟩)

end Texts

/-- The variables that can be wrong, in the order in which they are looked at. -/
def checked : List String :=
  ["PORT", "USER_GATEWAY_URL", "USER_SESSION", "BOT_GATEWAY_URL", "BOT_SESSION"]

/-- A variable is wrong: the port if it has another text, any other if it has none. -/
def Wrong (vs : Variables) (name : String) : Prop :=
  if name = "PORT" then ∃ text, vs.get? name = some text ∧ ¬ ∃ port, IsPort text port
  else vs.get? name = none

/-- The first variable that is wrong. -/
def FirstWrong (vs : Variables) (name : String) : Prop :=
  ∃ before after, checked = before ++ name :: after ∧ (∀ n ∈ before, ¬ Wrong vs n) ∧ Wrong vs name

/-- What is told of a variable that is wrong. -/
inductive Complaint (vs : Variables) : String → Failure → Prop
  | port {text : String} {e : PortError} : vs.get? "PORT" = some text → parsePort text = .error e →
      Complaint vs "PORT" ⟨"PORT must be a valid number", [e.message]⟩
  | unset {name : String} : name ≠ "PORT" → vs.lookup name = none →
      Complaint vs name ⟨s!"{name} must be set", ["environment variable not found"]⟩
  | noText {name : String} {octets : List UInt8} : name ≠ "PORT" → vs.lookup name = some octets →
      (∀ text, Text.octets text ≠ octets) →
      Complaint vs name ⟨s!"{name} must be set",
        [s!"environment variable was not valid unicode: {Text.quotedOctets octets}"]⟩

/-- The settings that variables describe, each as its text or, without one, with its default. -/
structure Describes (vs : Variables) (settings : Settings) : Prop where
  port : vs.get? "PORT" = none ∧ settings.port = 8080 ∨
    ∃ text, vs.get? "PORT" = some text ∧ IsPort text settings.port
  userUrl : vs.get? "USER_GATEWAY_URL" = some settings.userUrl
  userSession : vs.get? "USER_SESSION" = some settings.userSession
  botUrl : vs.get? "BOT_GATEWAY_URL" = some settings.botUrl
  botSession : vs.get? "BOT_SESSION" = some settings.botSession
  adminPeer : settings.adminPeer = (vs.get? "ADMIN_PEER").getD "@danogentili"
  faq : settings.faq =
    ⟨(vs.get? "FAQ_TEXT").getD "FAQ", (vs.get? "FAQ_START_PARAM").getD "lel"⟩

section Reading
variable {vs : Variables} {name value : String} {port : Nat} {settings : Settings} {f : Failure}

theorem wrong_of_ne_port (hname : name ≠ "PORT") : Wrong vs name ↔ vs.get? name = none := by
  rw [Wrong, if_neg hname]

theorem wrong_port_iff : Wrong vs "PORT" ↔
    ∃ text e, vs.get? "PORT" = some text ∧ parsePort text = .error e := by
  rw [Wrong, if_pos rfl]
  refine exists_congr fun text => ?_
  rw [exists_and_left]
  refine and_congr_right fun _ => ?_
  simp only [← parsePort_eq_ok_iff]
  cases parsePort text <;> simp

theorem portOf_eq_ok_iff : portOf vs = .ok port ↔ vs.get? "PORT" = none ∧ port = 8080 ∨
    ∃ text, vs.get? "PORT" = some text ∧ IsPort text port := by
  unfold portOf
  cases vs.get? "PORT" with
  | none =>
      have hdefault : parsePort "8080" = .ok 8080 := rfl
      simp [hdefault, Except.mapError, eq_comm]
  | some text =>
      simp only [← parsePort_eq_ok_iff, Option.getD_some]
      cases hparse : parsePort text <;> simp [hparse, Except.mapError]

theorem portOf_eq_error_iff : portOf vs = .error f ↔ Wrong vs "PORT" ∧ Complaint vs "PORT" f := by
  rw [wrong_port_iff]
  unfold portOf
  constructor
  · intro h
    cases htext : vs.get? "PORT" with
    | none =>
        rw [htext] at h
        cases h
    | some text =>
        rw [htext, Option.getD_some] at h
        cases hparse : parsePort text with
        | ok port =>
            rw [hparse] at h
            cases h
        | error e =>
            rw [hparse] at h
            cases h
            exact ⟨⟨text, e, rfl, hparse⟩, .port htext hparse⟩
  · rintro ⟨-, hcomplaint⟩
    cases hcomplaint with
    | port htext hparse =>
        rw [htext, Option.getD_some, hparse]
        rfl
    | unset hname | noText hname => exact absurd rfl hname

theorem required_eq_ok_iff : required vs name = .ok value ↔ vs.get? name = some value := by
  unfold required Variables.get?
  cases vs.read name <;> simp [Except.mapError, Except.toOption]

theorem required_eq_error_iff (hname : name ≠ "PORT") :
    required vs name = .error f ↔ Wrong vs name ∧ Complaint vs name f := by
  rw [wrong_of_ne_port hname]
  unfold required
  constructor
  · intro h
    cases hread : vs.read name with
    | ok value =>
        rw [hread] at h
        cases h
    | error e =>
        have hnone : vs.get? name = none := by rw [Variables.get?, hread]; rfl
        refine ⟨hnone, ?_⟩
        rw [hread] at h
        cases h
        rcases get?_eq_none_iff.1 hnone with hunset | ⟨bs, hbs, hnoText⟩
        · cases hread.symm.trans (read_of_unset hunset)
          exact .unset hname hunset
        · cases hread.symm.trans (read_of_noText hbs hnoText)
          exact .noText hname hbs hnoText
  · rintro ⟨-, hcomplaint⟩
    cases hcomplaint with
    | port => exact absurd rfl hname
    | unset _ hunset =>
        rw [read_of_unset hunset]
        rfl
    | noText _ hbs hnoText =>
        rw [read_of_noText hbs hnoText]
        rfl

theorem ofVariables_eq_ok_iff : ofVariables vs = .ok settings ↔ Describes vs settings := by
  unfold ofVariables
  simp only [bind_eq_ok, portOf_eq_ok_iff, required_eq_ok_iff]
  constructor
  · rintro ⟨port, hport, userUrl, huserUrl, userSession, huserSession, botUrl, hbotUrl, botSession,
      hbotSession, ⟨⟩⟩
    exact ⟨hport, huserUrl, huserSession, hbotUrl, hbotSession, rfl, rfl⟩
  · rintro ⟨hport, huserUrl, huserSession, hbotUrl, hbotSession, hadmin, hfaq⟩
    refine ⟨_, hport, _, huserUrl, _, huserSession, _, hbotUrl, _, hbotSession, ?_⟩
    rw [← hadmin, ← hfaq]
    rfl

theorem not_wrong_of_portOf (h : portOf vs = .ok port) : ¬ Wrong vs "PORT" := by
  rw [Wrong, if_pos rfl]
  rintro ⟨text, htext, hno⟩
  rcases portOf_eq_ok_iff.1 h with ⟨hnone, -⟩ | ⟨text', htext', hport⟩
  · exact absurd (hnone.symm.trans htext) (by simp)
  · obtain rfl := Option.some.inj (htext.symm.trans htext')
    exact hno ⟨_, hport⟩

theorem not_wrong_of_required (hname : name ≠ "PORT") (h : required vs name = .ok value) :
    ¬ Wrong vs name := by
  rw [wrong_of_ne_port hname, required_eq_ok_iff.1 h]
  exact Option.some_ne_none value

theorem Describes.not_wrong (h : Describes vs settings) : ∀ n ∈ checked, ¬ Wrong vs n := by
  have hset {n value : String} (hn : n ≠ "PORT") (hvalue : vs.get? n = some value) :
      ¬ Wrong vs n :=
    not_wrong_of_required hn (required_eq_ok_iff.2 hvalue)
  simp only [checked, List.forall_mem_cons, List.not_mem_nil, false_imp_iff, implies_true, and_true]
  exact ⟨not_wrong_of_portOf (portOf_eq_ok_iff.2 h.port), hset (by decide) h.userUrl,
    hset (by decide) h.userSession, hset (by decide) h.botUrl, hset (by decide) h.botSession⟩

theorem Complaint.unique {f' : Failure} (h : Complaint vs name f) (h' : Complaint vs name f') :
    f = f' := by
  by_cases hname : name = "PORT"
  · subst hname
    cases h with
    | unset hname | noText hname => exact absurd rfl hname
    | port htext hparse =>
        cases h' with
        | unset hname | noText hname => exact absurd rfl hname
        | port htext' hparse' =>
            obtain rfl := Option.some.inj (htext.symm.trans htext')
            obtain rfl := Except.error.inj (hparse.symm.trans hparse')
            rfl
  · cases h with
    | port => exact absurd rfl hname
    | unset _ hunset =>
        cases h' with
        | port => exact absurd rfl hname
        | unset => rfl
        | noText _ hset => cases hunset.symm.trans hset
    | noText _ hset =>
        cases h' with
        | port => exact absurd rfl hname
        | unset _ hunset => cases hset.symm.trans hunset
        | noText _ hset' =>
            obtain rfl := Option.some.inj (hset.symm.trans hset')
            rfl

open Classical in
theorem firstWrong_iff_find? :
    FirstWrong vs name ↔ checked.find? (fun n => Wrong vs n) = some name := by
  rw [List.find?_eq_some_iff_append]
  simp only [decide_eq_true_eq, Bool.not_eq_true', decide_eq_false_iff_not]
  constructor
  · rintro ⟨before, after, hall, hbefore, hwrong⟩
    exact ⟨hwrong, before, after, hall, hbefore⟩
  · rintro ⟨hwrong, before, after, hall, hbefore⟩
    exact ⟨before, after, hall, hbefore, hwrong⟩

theorem FirstWrong.unique {name' : String} (h : FirstWrong vs name) (h' : FirstWrong vs name') :
    name = name' :=
  Option.some.inj ((firstWrong_iff_find?.1 h).symm.trans (firstWrong_iff_find?.1 h'))

theorem FirstWrong.mem (h : FirstWrong vs name) : name ∈ checked := by
  obtain ⟨before, after, hall, -⟩ := h
  rw [hall]
  exact List.mem_append_right before (.head after)

theorem firstWrong_of_required (before : List String) {after : List String}
    (hall : checked = before ++ name :: after) (hbefore : ∀ n ∈ before, ¬ Wrong vs n)
    (hname : name ≠ "PORT") (h : required vs name = .error f) :
    ∃ name, FirstWrong vs name ∧ Complaint vs name f := by
  obtain ⟨hwrong, hcomplaint⟩ := (required_eq_error_iff hname).1 h
  exact ⟨name, ⟨before, after, hall, hbefore, hwrong⟩, hcomplaint⟩

/-- Each variable is looked at only once those before it are right. -/
theorem firstWrong_of_error (h : ofVariables vs = .error f) :
    ∃ name, FirstWrong vs name ∧ Complaint vs name f := by
  unfold ofVariables at h
  rcases bind_eq_error.1 h with h | ⟨port, hport, h⟩
  · obtain ⟨hwrong, hcomplaint⟩ := portOf_eq_error_iff.1 h
    exact ⟨"PORT", ⟨[], _, rfl, fun _ hn => absurd hn List.not_mem_nil, hwrong⟩, hcomplaint⟩
  have hport := not_wrong_of_portOf hport
  have hright {n value : String} (hn : n ≠ "PORT") (hvalue : required vs n = .ok value) :=
    not_wrong_of_required hn hvalue
  rcases bind_eq_error.1 h with h | ⟨userUrl, huserUrl, h⟩
  · exact firstWrong_of_required ["PORT"] rfl (by simp [hport]) (by decide) h
  have huserUrl := hright (by decide) huserUrl
  rcases bind_eq_error.1 h with h | ⟨userSession, huserSession, h⟩
  · exact firstWrong_of_required ["PORT", "USER_GATEWAY_URL"] rfl
      (by simp [hport, huserUrl]) (by decide) h
  have huserSession := hright (by decide) huserSession
  rcases bind_eq_error.1 h with h | ⟨botUrl, hbotUrl, h⟩
  · exact firstWrong_of_required ["PORT", "USER_GATEWAY_URL", "USER_SESSION"] rfl
      (by simp [hport, huserUrl, huserSession]) (by decide) h
  have hbotUrl := hright (by decide) hbotUrl
  rcases bind_eq_error.1 h with h | ⟨botSession, hbotSession, h⟩
  · exact firstWrong_of_required
      ["PORT", "USER_GATEWAY_URL", "USER_SESSION", "BOT_GATEWAY_URL"] rfl
      (by simp [hport, huserUrl, huserSession, hbotUrl]) (by decide) h
  · cases h

/-- Settings are not read just if a variable is wrong, and then the first such is told of. -/
theorem ofVariables_eq_error_iff :
    ofVariables vs = .error f ↔ ∃ name, FirstWrong vs name ∧ Complaint vs name f := by
  refine ⟨firstWrong_of_error, ?_⟩
  rintro ⟨name, hfirst, hcomplaint⟩
  cases hread : ofVariables vs with
  | ok settings =>
      have hwrong : Wrong vs name := by
        obtain ⟨before, after, -, -, hwrong⟩ := hfirst
        exact hwrong
      exact absurd hwrong ((ofVariables_eq_ok_iff.1 hread).not_wrong name hfirst.mem)
  | error f' =>
      obtain ⟨name', hfirst', hcomplaint'⟩ := firstWrong_of_error hread
      obtain rfl := hfirst.unique hfirst'
      rw [hcomplaint.unique hcomplaint']

theorem exists_wrong_iff :
    (∃ name ∈ checked, Wrong vs name) ↔ ¬ ∃ settings, Describes vs settings := by
  constructor
  · rintro ⟨name, hname, hwrong⟩ ⟨settings, hsettings⟩
    exact hsettings.not_wrong name hname hwrong
  · intro hno
    cases hread : ofVariables vs with
    | ok settings => exact absurd ⟨settings, ofVariables_eq_ok_iff.1 hread⟩ hno
    | error f =>
        obtain ⟨name, hfirst, -⟩ := firstWrong_of_error hread
        obtain ⟨before, after, -, -, hwrong⟩ := id hfirst
        exact ⟨name, hfirst.mem, hwrong⟩

end Reading

end InlineRelay.Settings
