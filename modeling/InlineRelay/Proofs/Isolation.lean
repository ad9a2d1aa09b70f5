import InlineRelay.Rehearsal
import InlineRelay.Script

/-!
Isolation. A rehearsing bot only ever adds to its record and never looks at it, so what a call comes
to and what it records do not depend on the calls before it.
-/
namespace InlineRelay

namespace Rehearsal

/-! ### Records put together -/

namespace Log

instance : Append Log where
  append l more :=
    ⟨l.resolved ++ more.resolved, l.queried ++ more.queried, l.answers ++ more.answers,
      l.sent ++ more.sent⟩

theorem append_def (l more : Log) : l ++ more =
    ⟨l.resolved ++ more.resolved, l.queried ++ more.queried, l.answers ++ more.answers,
      l.sent ++ more.sent⟩ := rfl

theorem append_empty (l : Log) : l ++ empty = l := by
  simp only [append_def, empty, List.append_nil]

theorem empty_append (l : Log) : empty ++ l = l := rfl

theorem append_assoc (l l' l'' : Log) : l ++ l' ++ l'' = l ++ (l' ++ l'') := by
  simp only [append_def, List.append_assoc]

theorem since_append (l more : Log) : l.since (l ++ more) = more := by
  simp only [since, append_def, List.drop_left]

end Log

/-! ### Actions that do not look at the record -/

/-- Whatever was recorded before, the action comes to the same and adds the same to the record. -/
def Heedless {α : Type} (x : StateM Log α) : Prop :=
  ∀ l, x.run l = ((x.run .empty).1, l ++ (x.run .empty).2)

namespace Heedless
variable {α β : Type} {x : StateM Log α} {f : α → StateM Log β}

protected theorem pure (a : α) : Heedless (pure a) := by
  intro l
  exact Prod.ext rfl l.append_empty.symm

/-- Each part adds to what the parts before it left, so the additions come one after another. -/
protected theorem bind (hx : Heedless x) (hf : ∀ a, Heedless (f a)) : Heedless (x >>= f) := by
  intro l
  let a := (x.run .empty).1
  let added := (x.run .empty).2
  calc (x >>= f).run l
      = (f (x.run l).1).run (x.run l).2 := rfl
    _ = (f a).run (l ++ added) := by rw [hx l]
    _ = (((f a).run .empty).1, l ++ added ++ ((f a).run .empty).2) := hf a (l ++ added)
    _ = (((f a).run added).1, l ++ ((f a).run added).2) := by
      rw [hf a added, Log.append_assoc]

theorem modify (update : Log → Log) (more : Log) (hupdate : ∀ l, update l = l ++ more) :
    Heedless (modify update) := by
  intro l
  have hmore : update .empty = more := by rw [hupdate, Log.empty_append]
  exact Prod.ext rfl ((hupdate l).trans (congrArg (l ++ ·) hmore.symm))

end Heedless

end Rehearsal

/-! ### Desks that do not look at the record -/

/-- A provider that answers without looking at the record. -/
structure Provider.Heedless (p : Provider (StateM Rehearsal.Log)) : Prop where
  resolve : ∀ handle, Rehearsal.Heedless (p.resolve handle)
  query : ∀ bot userId text, Rehearsal.Heedless (p.query bot userId text)

structure Messenger.Heedless (messenger : Messenger (StateM Rehearsal.Log)) : Prop where
  answer : ∀ a, Rehearsal.Heedless (messenger.answer a)
  send : ∀ o, Rehearsal.Heedless (messenger.send o)

namespace Provider.Heedless
variable {p : Provider (StateM Rehearsal.Log)}

theorem runStage (hp : p.Heedless) (runner : Runner) (stage : Stage) (text : String)
    (isLast : Bool) : Rehearsal.Heedless (Pipeline.runStage p runner stage text isLast) := by
  unfold Pipeline.runStage
  split
  case isTrue => exact .pure _
  case isFalse =>
    refine .bind (hp.resolve stage.handle) fun resolved => ?_
    cases resolved with
    | error f => exact .pure _
    | ok bot =>
        dsimp only
        split
        case isTrue => exact .pure _
        case isFalse =>
          refine .bind (hp.query bot runner.userId text) fun answer => ?_
          cases answer with
          | error f => exact .pure _
          | ok response => exact .pure _

theorem runStages (hp : p.Heedless) (runner : Runner) (stages : List Stage) (text : String) :
    Rehearsal.Heedless (Pipeline.runStages p runner stages text) := by
  induction stages generalizing text with
  | nil => exact .pure _
  | cons stage rest ih =>
      unfold Pipeline.runStages
      refine .bind (hp.runStage runner stage text rest.isEmpty) fun step => ?_
      match step with
      | .error e => exact .pure _
      | .ok (.handOn next) => exact ih next
      | .ok (.redirect button) => exact .pure _
      | .ok .selfReference => exact .pure _
      | .ok (.results cs gallery) =>
          dsimp only
          split <;> exact .pure _

end Provider.Heedless

/-- A desk whose provider and messenger do not look at the record. -/
structure Desk.Heedless (d : Desk (StateM Rehearsal.Log)) : Prop where
  provider : d.provider.Heedless
  messenger : d.messenger.Heedless

namespace Desk.Heedless
variable {d : Desk (StateM Rehearsal.Log)}

theorem report (hd : d.Heedless) (q : InlineQuery) (f : Failure) :
    Rehearsal.Heedless (d.report q f) :=
  .bind (hd.messenger.send _) fun _ => .pure _

theorem answer (hd : d.Heedless) (q : InlineQuery) : Rehearsal.Heedless (d.answer q) := by
  unfold Desk.answer
  split
  case isTrue => exact .pure _
  case isFalse =>
    refine .bind (hd.provider.runStages _ _ _) fun outcome => ?_
    cases outcome with
    | ok outcome => exact .pure _
    | error e => exact .bind (hd.report q e.failure) fun _ => .pure _

theorem handleQuery (hd : d.Heedless) (q : InlineQuery) :
    Rehearsal.Heedless (d.handleQuery q) := by
  refine .bind (hd.answer q) fun a => .bind (hd.messenger.answer a) fun delivered => ?_
  cases delivered with
  | ok _ => exact .pure _
  | error f =>
      exact .bind (hd.report q f) fun _ => .bind (hd.messenger.answer _) fun _ => .pure _

theorem handleMessage (hd : d.Heedless) (msg : ChatMessage) :
    Rehearsal.Heedless (d.handleMessage msg) := by
  unfold Desk.handleMessage
  split
  case isTrue =>
    cases msg.peer with
    | none => exact .pure _
    | some peer => exact .bind (hd.messenger.send _) fun _ => .pure _
  case isFalse => exact .pure _

theorem handle (hd : d.Heedless) (u : Update) : Rehearsal.Heedless (d.handle u) := by
  cases u with
  | inlineQuery q => exact hd.handleQuery q
  | newMessage msg => exact hd.handleMessage msg
  | newChannelMessage msg => exact hd.handleMessage msg
  | unsupported => exact .pure _

theorem serve (hd : d.Heedless) (r : Webhook.Request) : Rehearsal.Heedless (d.serve r) := by
  unfold Desk.serve
  cases Webhook.receive r with
  | health withBody => exact .pure _
  | update u => exact .bind (hd.handle u) fun _ => .pure _
  | refusal status => exact .pure _

theorem reading {α : Type} (read : Json → Json.Decoded α) (v : Json)
    {next : α → StateM Rehearsal.Log Report} (hnext : ∀ a, Rehearsal.Heedless (next a)) :
    Rehearsal.Heedless (Call.reading read v next) := by
  unfold Call.reading
  cases read v with
  | ok a => exact hnext a
  | error e => exact .pure _

/-- One call, whichever it is. -/
theorem run (hd : d.Heedless) (call : Call) : Rehearsal.Heedless (call.run d) := by
  cases call with
  | update v => exact reading _ _ fun u => .bind (hd.handle u) fun _ => .pure _
  | inlineQuery v => exact reading _ _ fun q => .bind (hd.handleQuery q) fun _ => .pure _
  | message v => exact reading _ _ fun msg => .bind (hd.handleMessage msg) fun _ => .pure _
  | answer v => exact reading _ _ fun q => .bind (hd.answer q) fun _ => .pure _
  | request r => exact .bind (hd.serve r) fun _ => .pure _
  | resolve handle => exact .bind (hd.provider.resolve handle) fun _ => .pure _
  | query bot userId text => exact .bind (hd.provider.query bot userId text) fun _ => .pure _
  | send o => exact .bind (hd.messenger.send o) fun _ => .pure _
  | deliver v => exact reading _ _ fun a => .bind (hd.messenger.answer a) fun _ => .pure _

/-- One call after another. Each finds a longer record than the one before, and none looks at it. -/
theorem play_calls (hd : d.Heedless) (calls : List Call) (l : Rehearsal.Log) :
    Script.play Rehearsal.Log.since (calls.map (Call.run d)) l =
      calls.map fun call => (call.run d).run .empty := by
  induction calls generalizing l with
  | nil => rfl
  | cons call rest ih =>
      simp only [List.map_cons, Script.play]
      rw [ih, hd.run call l, Rehearsal.Log.since_append]
      rfl

end Desk.Heedless

/-! ### Rehearsed scripts -/

namespace Rehearsal

theorem provider_heedless (cast : Cast) : (provider cast).Heedless where
  resolve handle :=
    .bind (.modify _ ⟨[handle], [], [], []⟩ fun l => by simp [Log.append_def]) fun _ => .pure _
  query bot userId text :=
    .bind (.modify _ ⟨[], [⟨bot.handle, userId, text⟩], [], []⟩ fun l => by
      simp [Log.append_def]) fun _ => .pure _

/-- Failing to send a message is recorded as sending it is. -/
theorem messenger_heedless (failMessages : Bool) : (messenger failMessages).Heedless where
  answer a := .bind (.modify _ ⟨[], [], [a], []⟩ fun l => by simp [Log.append_def]) fun _ => .pure _
  send o := .bind (.modify _ ⟨[], [], [], [o]⟩ fun l => by simp [Log.append_def]) fun _ => .pure _

/-- What a bot is rehearsed in. -/
structure World where
  cast : Cast
  failMessages : Bool
  matcher : Matcher
  selfId : Int
  adminPeer : String
  faq : Redirect

namespace World

def desk (w : World) : Desk (StateM Log) where
  provider := provider w.cast
  messenger := messenger w.failMessages
  matcher := w.matcher
  selfId := w.selfId
  adminPeer := w.adminPeer
  faq := w.faq

/-- Rehearse a script. Each call is reported with what it added to the record. -/
def perform (w : World) (calls : List Call) : List (Report × Log) :=
  Script.play Log.since (calls.map (Call.run w.desk)) .empty

theorem desk_heedless (w : World) : w.desk.Heedless where
  provider := provider_heedless w.cast
  messenger := messenger_heedless w.failMessages

theorem perform_eq (w : World) (calls : List Call) :
    w.perform calls = calls.map fun call => (call.run w.desk).run .empty :=
  w.desk_heedless.play_calls calls .empty

/-- A script reports of each call what the call alone does. So a script made of some calls of
another, in any order and as often as one likes, reports of each what the other reports. -/
theorem perform_isolated (w : World) (calls : List Call) :
    (w.perform calls).length = calls.length ∧
      (∀ i : Fin calls.length, ∃ report,
        w.perform [calls[i]] = [report] ∧ (w.perform calls)[i]? = some report) ∧
      ∀ picks : List (Fin calls.length),
        (w.perform (picks.map calls.get)).map some = picks.map fun i => (w.perform calls)[i]? := by
  refine ⟨?_, ?_, ?_⟩
  · rw [perform_eq, List.length_map]
  · intro i
    refine ⟨(calls[i].run w.desk).run .empty, w.perform_eq _, ?_⟩
    simp [perform_eq]
  · intro picks
    simp [perform_eq]

end World

end Rehearsal

end InlineRelay
