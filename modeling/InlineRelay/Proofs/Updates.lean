import InlineRelay.Proofs.Gateway.Agreement
import InlineRelay.Proofs.Isolation

/-!
Updates one after another. Each is dealt with as if it were the only one: an inline query is answered
once, a message that asks for the welcome gets it, and nothing else is done about either.
-/
namespace InlineRelay

/-! ### What an update asks for -/

/-- The welcome, for a message of somebody else that starts with the command and tells its peer. -/
def ChatMessage.greeting? (msg : ChatMessage) : Option Outgoing :=
  if msg.outgoing = false ∧ "/start".toList <+: msg.text.toList then
    msg.peer.map fun peer => ⟨peer, welcome, some msg.id, true⟩
  else none

namespace Update

def queryId? : Update → Option Int
  | inlineQuery q => some q.queryId
  | _ => none

def greeting? : Update → Option Outgoing
  | newMessage msg | newChannelMessage msg => msg.greeting?
  | _ => none

end Update

theorem ChatMessage.greeting?_eq_some {msg : ChatMessage} {o : Outgoing} :
    msg.greeting? = some o ↔ msg.outgoing = false ∧ "/start".toList <+: msg.text.toList ∧
      ∃ peer, msg.peer = some peer ∧ o = ⟨peer, welcome, some msg.id, true⟩ := by
  unfold greeting?
  split
  case isTrue h =>
    simp only [Option.map_eq_some_iff, h, true_and, eq_comm (a := o)]
  case isFalse h =>
    constructor
    · rintro ⟨⟩
    · rintro ⟨houtgoing, htext, -⟩
      exact absurd ⟨houtgoing, htext⟩ h

theorem ChatMessage.markdown_of_greeting? {msg : ChatMessage} {o : Outgoing}
    (h : o ∈ msg.greeting?.toList) : o.markdown = true := by
  obtain ⟨-, -, peer, -, rfl⟩ := greeting?_eq_some.1 (Option.mem_toList.1 h)
  rfl

namespace Desk

theorem isStart_iff {msg : ChatMessage} :
    isStart msg = true ↔ msg.outgoing = false ∧ "/start".toList <+: msg.text.toList := by
  simp [isStart]

/-- Dealing with a message is sending the welcome, if it asks for that. -/
theorem handleMessage_eq {m : Type → Type} [Monad m] (d : Desk m) (msg : ChatMessage) :
    d.handleMessage msg =
      match msg.greeting? with
      | some o => do let _ ← d.messenger.send o
      | none => pure () := by
  unfold handleMessage ChatMessage.greeting?
  simp only [isStart_iff]
  split
  · cases msg.peer <;> rfl
  · rfl

end Desk

namespace Rehearsal

open Desk (Effect)

/-! ### What one update adds to the record -/

/-- Calls add neither to the answers nor to the messages of a record. -/
theorem Log.extend_asked_append (calls : List Provider.Call) (rest : List Effect) :
    ∃ resolved queried, Log.empty.extend (calls.map .asked ++ rest) =
      ⟨resolved, queried, rest.filterMap Effect.answer?, rest.filterMap Effect.message?⟩ := by
  have hanswers : (calls.map Effect.asked).filterMap Effect.answer? = [] := by simp [Effect.answer?]
  have hmessages : (calls.map Effect.asked).filterMap Effect.message? = [] := by
    simp [Effect.message?]
  refine ⟨_, _, Log.mk.injEq .. |>.mpr ⟨rfl, rfl, ?_, ?_⟩⟩
  · rw [List.filterMap_append, hanswers]
    rfl
  · rw [List.filterMap_append, hmessages]
    rfl

namespace World
variable (w : World)

/-- What handling an update adds to an empty record. -/
def added (u : Update) : Log := ((w.desk.handle u).run .empty).2

/-- What may come of an update: one answer to an inline query and perhaps a report that it failed,
for a message its welcome if it asks for one, and otherwise nothing. -/
inductive Causes : Update → Log → Prop
  | answered {q : InlineQuery} {resolved : List String} {queried : List Asked} {a : Answer} :
      a.queryId = q.queryId → Causes (.inlineQuery q) ⟨resolved, queried, [a], []⟩
  | reported {q : InlineQuery} {resolved : List String} {queried : List Asked} (f : Failure) :
      Causes (.inlineQuery q)
        ⟨resolved, queried, [w.desk.fallback q], [w.desk.reportTo q f]⟩
  | newMessage (msg : ChatMessage) :
      Causes (.newMessage msg) ⟨[], [], [], msg.greeting?.toList⟩
  | newChannelMessage (msg : ChatMessage) :
      Causes (.newChannelMessage msg) ⟨[], [], [], msg.greeting?.toList⟩
  | unsupported : Causes .unsupported .empty

/-- Whether the reports and the welcomes arrive makes no difference. -/
theorem handle_failMessages (b : Bool) (u : Update) :
    { w with failMessages := b }.desk.handle u = w.desk.handle u := by
  have hreport : { w with failMessages := b }.desk.report = w.desk.report := rfl
  have hanswer (q : InlineQuery) :
      { w with failMessages := b }.desk.answer q = w.desk.answer q := by
    simp only [Desk.answer, hreport]
    rfl
  cases u with
  | inlineQuery q =>
      show { w with failMessages := b }.desk.handleQuery q = w.desk.handleQuery q
      simp only [Desk.handleQuery, hanswer, hreport]
      rfl
  | newMessage msg | newChannelMessage msg =>
      show { w with failMessages := b }.desk.handleMessage msg = w.desk.handleMessage msg
      rw [Desk.handleMessage_eq, Desk.handleMessage_eq]
      cases msg.greeting? <;> rfl
  | unsupported => rfl

theorem run_handle (u : Update) (l : Log) : (w.desk.handle u).run l = ((), l ++ w.added u) :=
  w.desk_heedless.handle u l

theorem added_message (msg : ChatMessage) :
    ((w.desk.handleMessage msg).run .empty).2 = ⟨[], [], [], msg.greeting?.toList⟩ := by
  rw [Desk.handleMessage_eq]
  cases msg.greeting? <;> rfl

/-- An answer is found without delivering one; the operator is told of it if the run fails, and the
answer is the fallback then. -/
theorem causes_answered (q : InlineQuery) : w.Causes (.inlineQuery q) (w.added (.inlineQuery q)) := by
  -- A messenger that works delivers the answer that is found, and nothing after it.
  let kind : World := { w with failMessages := false }
  have hadded : w.added (.inlineQuery q) = (kind.desk.watch (·.handleQuery q) .empty).state :=
    calc w.added (.inlineQuery q)
        = ((kind.desk.handle (.inlineQuery q)).run .empty).2 := by
          rw [w.handle_failMessages, added]
      _ = (kind.desk.watch (·.handleQuery q) .empty).state :=
          congrArg Prod.snd (kind.desk.run_handleQuery q .empty)
  have hr : Rehearses w.cast kind.desk := ⟨rfl, rfl⟩
  obtain ⟨-, hstate⟩ := hr.trace (kind.desk.trace_watch_handleQuery q .empty)
  have hone {found : Answer} {effects : List Effect} {l : Log}
      (h : kind.desk.watch (·.answer q) .empty = ⟨found, effects, l⟩) :
      w.added (.inlineQuery q) = Log.empty.extend (effects ++ [.delivered found (.ok ())]) := by
    rw [hadded, hstate, Desk.watch_handleQuery_of_ok h rfl]
  by_cases hq : q.query = ""
  · obtain ⟨resolved, queried, hlog⟩ :=
      Log.extend_asked_append [] [.delivered (kind.desk.fallback q) (.ok ())]
    have hadd := (hone (kind.desk.watch_answer_of_empty hq .empty)).trans hlog
    exact hadd ▸ .answered (kind.desk.fallback_submittable q).queryId_eq
  · cases hout : (kind.desk.pipeline q .empty).outcome with
    | ok outcome =>
        obtain ⟨resolved, queried, hlog⟩ := Log.extend_asked_append
          (kind.desk.pipeline q .empty).calls [.delivered (kind.desk.answerTo q outcome) (.ok ())]
        have hadd := (hone (Desk.watch_answer_of_ok hq hout)).trans hlog
        exact hadd ▸ .answered (kind.desk.answerTo_submittable q hq outcome).queryId_eq
    | error e =>
        obtain ⟨resolved, queried, hlog⟩ := Log.extend_asked_append
          (kind.desk.pipeline q .empty).calls
          [.sent (kind.desk.reportTo q e.failure) (.ok ()),
            .delivered (kind.desk.fallback q) (.ok ())]
        have hfound := hone (Desk.watch_answer_of_error hq hout rfl)
        rw [List.append_assoc] at hfound
        exact hfound.trans hlog ▸ .reported e.failure

theorem causes_added (u : Update) : w.Causes u (w.added u) := by
  cases u with
  | inlineQuery q => exact w.causes_answered q
  | newMessage msg =>
      rw [show w.added (.newMessage msg) = _ from w.added_message msg]
      exact .newMessage msg
  | newChannelMessage msg =>
      rw [show w.added (.newChannelMessage msg) = _ from w.added_message msg]
      exact .newChannelMessage msg
  | unsupported => exact .unsupported

section Caused
variable {w : World} {u : Update} {l : Log}

theorem Causes.queryIds (h : w.Causes u l) :
    l.answers.map (·.queryId) = u.queryId?.toList := by
  cases h with
  | answered hid => exact congrArg (fun id => [id]) hid
  | @reported q resolved queried f =>
      exact congrArg (fun id => [id]) (w.desk.fallback_submittable q).queryId_eq
  | newMessage | newChannelMessage | unsupported => rfl

/-- Welcomes are what is sent in markdown; reports are plain. -/
theorem Causes.greetings (h : w.Causes u l) :
    l.sent.filter (·.markdown) = u.greeting?.toList := by
  cases h with
  | answered | reported | unsupported => rfl
  | newMessage msg | newChannelMessage msg =>
      exact List.filter_eq_self.2 fun o => ChatMessage.markdown_of_greeting?

theorem Causes.reports (h : w.Causes u l) {o : Outgoing} (ho : o ∈ l.sent)
    (hplain : o.markdown = false) : ∃ q f, u = .inlineQuery q ∧ o = w.desk.reportTo q f := by
  cases h with
  | answered | unsupported => cases ho
  | @reported q resolved queried f => exact ⟨q, f, rfl, List.mem_singleton.1 ho⟩
  | newMessage msg | newChannelMessage msg =>
      have hmarkdown := ChatMessage.markdown_of_greeting? ho
      exact absurd (hplain.symm.trans hmarkdown) (by decide)

end Caused

/-! ### What many updates add -/

/-- What handling updates adds to an empty record, each on its own. -/
def addedByAll (us : List Update) : Log := (us.map w.added).foldr (· ++ ·) .empty

theorem addedByAll_cons (u : Update) (us : List Update) :
    w.addedByAll (u :: us) = w.added u ++ w.addedByAll us := rfl

theorem run_forM_handle (us : List Update) (l : Log) :
    (us.forM w.desk.handle).run l = ((), l ++ w.addedByAll us) := by
  induction us generalizing l with
  | nil => exact congrArg (Prod.mk ()) l.append_empty.symm
  | cons u us ih =>
      calc ((u :: us).forM w.desk.handle).run l
          = (us.forM w.desk.handle).run ((w.desk.handle u).run l).2 := rfl
        _ = ((), l ++ w.addedByAll (u :: us)) := by
          rw [w.run_handle, ih, Log.append_assoc, w.addedByAll_cons]

theorem queryIds_addedByAll (us : List Update) :
    (w.addedByAll us).answers.map (·.queryId) = us.filterMap Update.queryId? := by
  induction us with
  | nil => rfl
  | cons u us ih =>
      rw [addedByAll_cons, Log.append_def, List.map_append, (w.causes_added u).queryIds, ih]
      cases hid : u.queryId? <;> simp [hid]

theorem greetings_addedByAll (us : List Update) :
    (w.addedByAll us).sent.filter (·.markdown) = us.filterMap Update.greeting? := by
  induction us with
  | nil => rfl
  | cons u us ih =>
      rw [addedByAll_cons, Log.append_def, List.filter_append, (w.causes_added u).greetings, ih]
      cases hgreeting : u.greeting? <;> simp [hgreeting]

theorem reports_addedByAll {us : List Update} {o : Outgoing} (ho : o ∈ (w.addedByAll us).sent)
    (hplain : o.markdown = false) : ∃ q f, .inlineQuery q ∈ us ∧ o = w.desk.reportTo q f := by
  induction us with
  | nil => cases ho
  | cons u us ih =>
      rw [addedByAll_cons, Log.append_def] at ho
      rcases List.mem_append.1 ho with ho | ho
      · obtain ⟨q, f, rfl, hreport⟩ := (w.causes_added u).reports ho hplain
        exact ⟨q, f, .head us, hreport⟩
      · obtain ⟨q, f, hmem, hreport⟩ := ih ho
        exact ⟨q, f, .tail u hmem, hreport⟩

theorem added_of_greeting?_eq_none {msg : ChatMessage} (h : msg.greeting? = none) :
    w.added (.newMessage msg) = .empty ∧ w.added (.newChannelMessage msg) = .empty := by
  have hadded : ((w.desk.handleMessage msg).run .empty).2 = .empty := by
    rw [w.added_message, h]
    rfl
  exact ⟨hadded, hadded⟩

/-- Updates one after another add to the record what each of them adds alone, and each adds its own:
the answers are one for each inline query, in order and with its id, the messages are the welcomes
that were asked for, in order, and besides these only reports on the inline queries. Nothing at all
is done about the bot's own messages, about messages without a peer and about what is not supported.
It makes no difference which kind a message update is of, nor whether any message arrives. -/
theorem updates_cause_their_own (us : List Update) (l : Log) :
    (us.forM w.desk.handle).run l = ((), l ++ w.addedByAll us) ∧
    (∀ u, w.Causes u (w.added u)) ∧
    (w.addedByAll us).answers.map (·.queryId) = us.filterMap Update.queryId? ∧
    (w.addedByAll us).sent.filter (·.markdown) = us.filterMap Update.greeting? ∧
    (∀ o ∈ (w.addedByAll us).sent, o.markdown = false →
      ∃ q f, .inlineQuery q ∈ us ∧ o = w.desk.reportTo q f) ∧
    (∀ msg : ChatMessage, msg.outgoing = true ∨ msg.peer = none →
      w.added (.newMessage msg) = .empty ∧ w.added (.newChannelMessage msg) = .empty) ∧
    w.added .unsupported = .empty ∧
    (∀ msg, w.desk.handle (.newMessage msg) = w.desk.handle (.newChannelMessage msg)) ∧
    ∀ b, us.forM { w with failMessages := b }.desk.handle = us.forM w.desk.handle := by
  refine ⟨w.run_forM_handle us l, w.causes_added, w.queryIds_addedByAll us,
    w.greetings_addedByAll us, fun o ho hplain => w.reports_addedByAll ho hplain, ?_, rfl,
    fun msg => rfl, fun b => ?_⟩
  · intro msg hmsg
    refine w.added_of_greeting?_eq_none (Option.eq_none_iff_forall_ne_some.2 fun o ho => ?_)
    obtain ⟨houtgoing, -, peer, hpeer, -⟩ := ChatMessage.greeting?_eq_some.1 ho
    rcases hmsg with hown | hnone
    · exact absurd (hown.symm.trans houtgoing) (by decide)
    · exact absurd (hnone.symm.trans hpeer) (by simp)
  · have hhandle : { w with failMessages := b }.desk.handle = w.desk.handle :=
      funext (w.handle_failMessages b)
    rw [hhandle]

end World

/-- In a world where no bot answers and no message arrives, a query, the bot's own message and a
command, in this order. -/
theorem World.updates_cause_their_own_deserted :
    let w : World := ⟨.empty, true, Pattern.matcher, 778, "@other", ⟨"FAQ", "lel"⟩⟩
    let own : ChatMessage := ⟨8, true, "/start", some (.str "@a"), none⟩
    let started : ChatMessage := ⟨9, false, "/start now", some (.str "@a"), none⟩
    let us : List Update :=
      [.inlineQuery ⟨31, 4242, "hi | @a $", ""⟩, .newMessage own, .newChannelMessage started]
    own.outgoing = true ∧ w.added (.newMessage own) = .empty ∧
      (w.addedByAll us).answers.map (·.queryId) = [31] ∧
      (w.addedByAll us).sent.filter (·.markdown) = [⟨.str "@a", welcome, some 9, true⟩] := by
  intro w own started us
  obtain ⟨-, -, hids, hgreetings, -, hnone, -⟩ := w.updates_cause_their_own us .empty
  have hstarted : Update.greeting? (.newChannelMessage started) =
      some ⟨.str "@a", welcome, some 9, true⟩ :=
    ChatMessage.greeting?_eq_some.2 ⟨rfl, by decide, _, rfl, rfl⟩
  have hall : us.filterMap Update.greeting? = [⟨.str "@a", welcome, some 9, true⟩] := by
    rw [List.filterMap_cons_none rfl, List.filterMap_cons_none rfl,
      List.filterMap_cons_some hstarted, List.filterMap_nil]
  exact ⟨rfl, (hnone own (.inl rfl)).1, hids, hgreetings.trans hall⟩

end Rehearsal

end InlineRelay
