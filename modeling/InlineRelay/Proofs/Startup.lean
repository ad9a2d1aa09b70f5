import InlineRelay.Gateway.Line
import InlineRelay.Pattern.Matcher
import InlineRelay.Proofs.Settings
import InlineRelay.Startup

/-!
Starting up. What is posted and bound on the way is recorded: each check is made once, in order, and
the first that fails is the last thing that happens.
-/
namespace InlineRelay

open Gateway (Client Transport)

namespace Startup
variable {σ α : Type}

/-! ### What can be seen of a start -/

/-- Something done to the outside, and what came of it. -/
inductive Event
  | posted (address : Http.Address) (body : String) (reply : Option Gateway.Reply)
  | bound (port : Nat) (outcome : Except String Unit)

/-- Do this and note it in a record beside the state. -/
def noting (event : α → Event) (x : StateM σ α) : StateM (σ × List Event) α := do
  let (s, events) ← get
  let (a, s') := (x.run s).run
  set (s', events ++ [event a])
  return a

/-- The same network, keeping a record of what is posted. -/
def recorded (t : Transport (StateM σ)) : Transport (StateM (σ × List Event)) where
  address? := t.address?
  post address body := noting (.posted address body) (t.post address body)

def recordedBind (bind : Nat → StateM σ (Except String Unit)) (port : Nat) :
    StateM (σ × List Event) (Except String Unit) :=
  noting (.bound port) (bind port)

/-- What can be seen of a start: how it ends, what was done in order, and the state after. -/
structure Observation (σ : Type) where
  result : Except Failure (Desk (StateM (σ × List Event)) × Nat)
  events : List Event
  state : σ

def observe (t : Transport (StateM σ)) (matcher : Matcher)
    (bind : Nat → StateM σ (Except String Unit)) (vs : Variables) (s : σ) : Observation σ :=
  let r := ((run (recorded t) matcher (recordedBind bind) vs).run (s, [])).run
  ⟨r.1, r.2.2, r.2.1⟩

/-! ### The steps of a start -/

section Steps
variable (t : Transport (StateM σ)) (matcher : Matcher)
  (bind : Nat → StateM σ (Except String Unit)) (vs : Variables)

/-- A session is asked whose it is: with one request, or with none if its address is not absolute. -/
inductive Introduces (c : Client) (s : σ) :
    Except Gateway.Error Account → List Event → σ → Prop
  | noAddress : t.address? (c.url "getSelf") = none →
      Introduces c s (.error (.network "builder error")) [] s
  | noHost {address : Http.Address} : t.address? (c.url "getSelf") = some address →
      address.host = "" →
      Introduces c s (.error (.network s!"builder error for url ({address.text})")) [] s
  | noReply {address : Http.Address} {s' : σ} :
      t.address? (c.url "getSelf") = some address → address.host ≠ "" →
      ((t.post address "\x7b\x7d").run s).run = (none, s') →
      Introduces c s (.error (.network s!"error sending request for url ({address.text})"))
        [.posted address "\x7b\x7d" none] s'
  | replied {address : Http.Address} {reply : Gateway.Reply} {s' : σ} :
      t.address? (c.url "getSelf") = some address → address.host ≠ "" →
      ((t.post address "\x7b\x7d").run s).run = (some reply, s') →
      Introduces c s (reply.outcome Account.decode) [.posted address "\x7b\x7d" (some reply)] s'

/-- The clients that settings describe. -/
def userClient (settings : Settings) : Client := .ofUrl settings.userUrl settings.userSession

def botClient (settings : Settings) : Client := .ofUrl settings.botUrl settings.botSession

/-- The bot that runs with these settings and the account of its session. -/
def deskOf (settings : Settings) (self : Account) : Desk (StateM (σ × List Event)) where
  provider := Gateway.provider (recorded t) (userClient settings)
  messenger := Gateway.messenger (recorded t) (botClient settings)
  matcher := matcher
  selfId := self.id
  adminPeer := settings.adminPeer
  faq := settings.faq

/-- How a start goes, by the check at which it ends. -/
inductive Starts (s : σ) : Observation σ → Prop
  | misconfigured {name : String} {f : Failure} :
      Settings.FirstWrong vs name → Settings.Complaint vs name f →
      Starts s ⟨.error (f.within "Failed to load configuration"), [], s⟩
  | userUnreached {settings : Settings} {e : Gateway.Error} {es : List Event} {s₁ : σ} :
      Settings.Describes vs settings →
      Introduces t (userClient settings) s (.error e) es s₁ →
      Starts s ⟨.error (e.failure.within "Failed to reach the user session"), es, s₁⟩
  | userIsBot {settings : Settings} {me : Account} {es : List Event} {s₁ : σ} :
      Settings.Describes vs settings →
      Introduces t (userClient settings) s (.ok me) es s₁ → me.isBot = true →
      Starts s
        ⟨.error (.ofText "USER_SESSION must be logged in as a user, not a bot"), es, s₁⟩
  | botUnreached {settings : Settings} {me : Account} {e : Gateway.Error} {es es' : List Event}
      {s₁ s₂ : σ} : Settings.Describes vs settings →
      Introduces t (userClient settings) s (.ok me) es s₁ → me.isBot = false →
      Introduces t (botClient settings) s₁ (.error e) es' s₂ →
      Starts s ⟨.error (e.failure.within "Failed to reach the bot session"), es ++ es', s₂⟩
  | unbound {settings : Settings} {me self : Account} {e : String} {es es' : List Event}
      {s₁ s₂ s₃ : σ} : Settings.Describes vs settings →
      Introduces t (userClient settings) s (.ok me) es s₁ → me.isBot = false →
      Introduces t (botClient settings) s₁ (.ok self) es' s₂ →
      ((bind settings.port).run s₂).run = (.error e, s₃) →
      Starts s ⟨.error ⟨"Failed to bind to address", [e]⟩,
        es ++ es' ++ [.bound settings.port (.error e)], s₃⟩
  | running {settings : Settings} {me self : Account} {u : Unit} {es es' : List Event}
      {s₁ s₂ s₃ : σ} : Settings.Describes vs settings →
      Introduces t (userClient settings) s (.ok me) es s₁ → me.isBot = false →
      Introduces t (botClient settings) s₁ (.ok self) es' s₂ →
      ((bind settings.port).run s₂).run = (.ok u, s₃) →
      Starts s ⟨.ok (deskOf t matcher settings self, settings.port),
        es ++ es' ++ [.bound settings.port (.ok u)], s₃⟩

end Steps

section Going
variable {t : Transport (StateM σ)} {matcher : Matcher}
  {bind : Nat → StateM σ (Except String Unit)} {vs : Variables} {c : Client} {s s' : σ}
  {r : Except Gateway.Error Account} {es events : List Event}

theorem run_noting {event : α → Event} {x : StateM σ α} {a : α} (h : (x.run s).run = (a, s')) :
    ((noting event x).run (s, events)).run = (a, s', events ++ [event a]) := by
  have hrun : ((noting event x).run (s, events)).run =
      ((x.run s).run.1, (x.run s).run.2, events ++ [event (x.run s).run.1]) := rfl
  rw [hrun, h]

theorem run_post_recorded {address : Http.Address} {reply : Option Gateway.Reply}
    (h : ((t.post address "\x7b\x7d").run s).run = (reply, s')) :
    (((recorded t).post address (Json.obj []).text).run (s, events)).run =
      (reply, s', events ++ [.posted address "\x7b\x7d" reply]) := by
  have hbody : (Json.obj []).text = "\x7b\x7d" := by decide
  rw [hbody]
  exact run_noting h

theorem Introduces.run_getSelf (h : Introduces t c s r es s') :
    ((c.getSelf (recorded t)).run (s, events)).run = (r, s', events ++ es) := by
  have hreader : (recorded t).address? = t.address? := rfl
  unfold Client.getSelf Client.invoke
  rw [hreader]
  cases h with
  | noAddress haddress => simp [haddress]
  | noHost haddress hhost => simp [haddress, hhost]
  | noReply haddress hhost hpost =>
      simp [haddress, hhost, run_post_recorded hpost]
  | replied haddress hhost hpost =>
      simp [haddress, hhost, run_post_recorded hpost]

theorem exists_introduces (t : Transport (StateM σ)) (c : Client) (s : σ) :
    ∃ r es s', Introduces t c s r es s' := by
  cases haddress : t.address? (c.url "getSelf") with
  | none => exact ⟨_, _, _, .noAddress haddress⟩
  | some address =>
      by_cases hhost : address.host = ""
      · exact ⟨_, _, _, .noHost haddress hhost⟩
      · rcases hpost : ((t.post address "\x7b\x7d").run s).run with ⟨_ | reply, s'⟩
        · exact ⟨_, _, _, .noReply haddress hhost hpost⟩
        · exact ⟨_, _, _, .replied haddress hhost hpost⟩

section Sessions
variable {user bot : Client} {me self : Account} {e : Gateway.Error} {es' : List Event} {s₁ s₂ : σ}

theorem run_checkSessions_of_userUnreached (h : Introduces t user s (.error e) es s₁) :
    ((checkSessions (recorded t) user bot).run (s, events)).run =
      (.error (e.failure.within "Failed to reach the user session"), s₁, events ++ es) := by
  simp [checkSessions, h.run_getSelf, reached, Except.mapError]

theorem run_checkSessions_of_userIsBot (h : Introduces t user s (.ok me) es s₁)
    (hisBot : me.isBot = true) :
    ((checkSessions (recorded t) user bot).run (s, events)).run =
      (.error (.ofText "USER_SESSION must be logged in as a user, not a bot"), s₁,
        events ++ es) := by
  simp [checkSessions, h.run_getSelf, reached, Except.mapError, hisBot]

theorem run_checkSessions_of_botUnreached (h : Introduces t user s (.ok me) es s₁)
    (hisBot : me.isBot = false) (hbot : Introduces t bot s₁ (.error e) es' s₂) :
    ((checkSessions (recorded t) user bot).run (s, events)).run =
      (.error (e.failure.within "Failed to reach the bot session"), s₂, events ++ (es ++ es')) := by
  simp [checkSessions, h.run_getSelf, reached, Except.mapError, hisBot, hbot.run_getSelf]

theorem run_checkSessions_of_ok (h : Introduces t user s (.ok me) es s₁)
    (hisBot : me.isBot = false) (hbot : Introduces t bot s₁ (.ok self) es' s₂) :
    ((checkSessions (recorded t) user bot).run (s, events)).run =
      (.ok self.id, s₂, events ++ (es ++ es')) := by
  simp [checkSessions, h.run_getSelf, reached, Except.mapError, hisBot, hbot.run_getSelf]

end Sessions

section Settled
variable {settings : Settings} {f : Failure} {id : Int} {s₁ s₂ : σ}

theorem observe_of_sessions_error (hsettings : Settings.Describes vs settings)
    (h : ((checkSessions (recorded t) (userClient settings) (botClient settings)).run
      (s, [])).run = (.error f, s₁, es)) :
    observe t matcher bind vs s = ⟨.error f, es, s₁⟩ := by
  unfold userClient botClient at h
  unfold observe run
  simp [Settings.ofVariables_eq_ok_iff.2 hsettings, h]

theorem observe_of_sessions_ok (hsettings : Settings.Describes vs settings)
    (h : ((checkSessions (recorded t) (userClient settings) (botClient settings)).run
      (s, [])).run = (.ok id, s₁, es)) {outcome : Except String Unit}
    (hbound : ((bind settings.port).run s₁).run = (outcome, s₂)) :
    observe t matcher bind vs s =
      ⟨match outcome with
        | .error e => .error ⟨"Failed to bind to address", [e]⟩
        | .ok _ => .ok (⟨Gateway.provider (recorded t) (userClient settings),
            Gateway.messenger (recorded t) (botClient settings), matcher, id, settings.adminPeer,
            settings.faq⟩, settings.port),
        es ++ [.bound settings.port outcome], s₂⟩ := by
  have hnoted : ((recordedBind bind settings.port).run (s₁, es)).run =
      (outcome, s₂, es ++ [.bound settings.port outcome]) := run_noting hbound
  unfold userClient botClient at h ⊢
  unfold observe run
  cases outcome with
  | error e => simp [Settings.ofVariables_eq_ok_iff.2 hsettings, h, hnoted, Failure.within,
      Failure.ofText]
  | ok u => simp [Settings.ofVariables_eq_ok_iff.2 hsettings, h, hnoted]

end Settled

theorem Starts.observe_eq {o : Observation σ} (h : Starts t matcher bind vs s o) :
    observe t matcher bind vs s = o := by
  cases h with
  | misconfigured hfirst hcomplaint =>
      unfold observe run
      simp [Settings.ofVariables_eq_error_iff.2 ⟨_, hfirst, hcomplaint⟩]
  | userUnreached hsettings huser =>
      exact observe_of_sessions_error hsettings (run_checkSessions_of_userUnreached huser)
  | userIsBot hsettings huser hisBot =>
      exact observe_of_sessions_error hsettings (run_checkSessions_of_userIsBot huser hisBot)
  | botUnreached hsettings huser hisBot hbot =>
      exact observe_of_sessions_error hsettings
        (run_checkSessions_of_botUnreached huser hisBot hbot)
  | unbound hsettings huser hisBot hbot hbound =>
      exact observe_of_sessions_ok hsettings (run_checkSessions_of_ok huser hisBot hbot) hbound
  | running hsettings huser hisBot hbot hbound =>
      exact observe_of_sessions_ok hsettings (run_checkSessions_of_ok huser hisBot hbot) hbound

theorem exists_starts (t : Transport (StateM σ)) (matcher : Matcher)
    (bind : Nat → StateM σ (Except String Unit)) (vs : Variables) (s : σ) :
    ∃ o, Starts t matcher bind vs s o := by
  cases hread : Settings.ofVariables vs with
  | error f =>
      obtain ⟨name, hfirst, hcomplaint⟩ := Settings.ofVariables_eq_error_iff.1 hread
      exact ⟨_, .misconfigured hfirst hcomplaint⟩
  | ok settings =>
      have hsettings := Settings.ofVariables_eq_ok_iff.1 hread
      obtain ⟨r, es, s₁, huser⟩ := exists_introduces t (userClient settings) s
      match r with
      | .error e => exact ⟨_, .userUnreached hsettings huser⟩
      | .ok me =>
          cases hisBot : me.isBot with
          | true => exact ⟨_, .userIsBot hsettings huser hisBot⟩
          | false =>
              obtain ⟨r', es', s₂, hbot⟩ := exists_introduces t (botClient settings) s₁
              match r' with
              | .error e => exact ⟨_, .botUnreached hsettings huser hisBot hbot⟩
              | .ok self =>
                  rcases hbound : ((bind settings.port).run s₂).run with ⟨e | u, s₃⟩
                  · exact ⟨_, .unbound hsettings huser hisBot hbot hbound⟩
                  · exact ⟨_, .running hsettings huser hisBot hbot hbound⟩

theorem observe_eq_iff {o : Observation σ} :
    observe t matcher bind vs s = o ↔ Starts t matcher bind vs s o := by
  constructor
  · rintro rfl
    obtain ⟨o, ho⟩ := exists_starts t matcher bind vs s
    rwa [ho.observe_eq]
  · exact Starts.observe_eq

end Going

/-- Slashes that end the address of a gateway make no difference. -/
theorem ofUrl_append_slashes (url session : String) (n : Nat) :
    Client.ofUrl (url ++ String.ofList (List.replicate n '/')) session =
      Client.ofUrl url session := by
  unfold Client.ofUrl
  rw [String.toList_append, String.toList_ofList, List.reverse_append, List.reverse_replicate,
    List.dropWhile_append_of_pos]
  intro c hc
  exact decide_eq_true (List.eq_of_mem_replicate hc)

/-- A start fails for its settings just if a variable is wrong, and nothing is done then. -/
theorem observe_eq_misconfigured_iff {t : Transport (StateM σ)} {matcher : Matcher}
    {bind : Nat → StateM σ (Except String Unit)} {vs : Variables} {s : σ} :
    (∃ f : Failure, observe t matcher bind vs s =
        ⟨.error (f.within "Failed to load configuration"), [], s⟩) ↔
      ∃ name ∈ Settings.checked, Settings.Wrong vs name := by
  rw [Settings.exists_wrong_iff]
  constructor
  · rintro ⟨f, h⟩ ⟨settings, hsettings⟩
    have hstarts := observe_eq_iff.1 h
    generalize ho : (⟨.error (f.within "Failed to load configuration"), [], s⟩ : Observation σ) = o
      at hstarts
    have hmessage {g : Failure} (hresult : o.result = .error g) :
        g.message = "Failed to load configuration" := by
      rw [← ho] at hresult
      exact congrArg Failure.message (Except.error.inj hresult).symm
    cases hstarts with
    | misconfigured hfirst hcomplaint =>
        have hread := Settings.ofVariables_eq_error_iff.2 ⟨_, hfirst, hcomplaint⟩
        cases hread.symm.trans (Settings.ofVariables_eq_ok_iff.2 hsettings)
    | userUnreached | userIsBot | botUnreached | unbound =>
        exact absurd (hmessage rfl) (by simp [Failure.within, Failure.ofText])
    | running => cases congrArg Observation.result ho
  · intro hno
    cases hread : Settings.ofVariables vs with
    | ok settings => exact absurd ⟨settings, Settings.ofVariables_eq_ok_iff.1 hread⟩ hno
    | error f =>
        obtain ⟨name, hfirst, hcomplaint⟩ := Settings.ofVariables_eq_error_iff.1 hread
        exact ⟨f, (Starts.misconfigured hfirst hcomplaint).observe_eq⟩

/-! ### A gateway with two sessions -/

section Sessions

def user : Account := ⟨1, false, none, none⟩

def bot : Account := ⟨2, true, none, none⟩

/-- The reply that says whose a session is. -/
def introduction (a : Account) : Gateway.Reply :=
  .ofText 200 (Json.ofFields [("ok", .bool true), ("result", a.encode)]).text

/-- The session `user` is a user's, `bot` a bot's. -/
def gateway : Gateway.Line where
  up := true
  routes := [("user/getSelf", [.reply (introduction user)]),
    ("bot/getSelf", [.reply (introduction bot)])]
  log := []

/-- The line to it, and the ports of a machine where any can be had. -/
def line : Transport (StateM Gateway.Line) := Gateway.Line.transport Http.Address.ofText?

def anyPort (_ : Nat) : StateM Gateway.Line (Except String Unit) := pure (.ok ())

def userAddress : Http.Address :=
  ⟨"http://gateway.test/user/getSelf", "gateway.test", "/user/getSelf"⟩

def botAddress : Http.Address :=
  ⟨"http://gateway.test/bot/getSelf", "gateway.test", "/bot/getSelf"⟩

def userAsked : Event := .posted userAddress "\x7b\x7d" (some (introduction user))

def botAsked : Event := .posted botAddress "\x7b\x7d" (some (introduction bot))

/-- The gateway after requests to these addresses. -/
def asked (addresses : List Http.Address) : Gateway.Line :=
  { gateway with log := addresses.map fun address => ⟨address.path, "\x7b\x7d"⟩ }

theorem introduces_user : Introduces line (.ofUrl "http://gateway.test" "user") gateway (.ok user)
    [userAsked] (asked [userAddress]) := by
  have haddress : line.address? ((Client.ofUrl "http://gateway.test" "user").url "getSelf") =
      some userAddress := by decide +kernel
  have hpost : ((line.post userAddress "\x7b\x7d").run gateway).run =
      (some (introduction user), asked [userAddress]) := rfl
  have hread : (introduction user).outcome Account.decode = .ok user := by decide +kernel
  exact hread ▸ .replied haddress (by decide) hpost

/-- It makes no difference to the bot's session whether the user's was asked before. -/
theorem introduces_bot : ∀ before ∈ [[], [userAddress]],
    Introduces line (.ofUrl "http://gateway.test" "bot") (asked before) (.ok bot) [botAsked]
      (asked (before ++ [botAddress])) := by
  have haddress : line.address? ((Client.ofUrl "http://gateway.test" "bot").url "getSelf") =
      some botAddress := by decide +kernel
  have hread : (introduction bot).outcome Account.decode = .ok bot := by decide +kernel
  refine List.forall_mem_cons.2 ⟨?_, List.forall_mem_singleton.2 ?_⟩
  · have hpost : ((line.post botAddress "\x7b\x7d").run (asked [])).run =
        (some (introduction bot), asked [botAddress]) := rfl
    exact hread ▸ .replied haddress (by decide) hpost
  · have hpost : ((line.post botAddress "\x7b\x7d").run (asked [userAddress])).run =
        (some (introduction bot), asked [userAddress, botAddress]) := rfl
    exact hread ▸ .replied haddress (by decide) hpost

/-- A variable is not what it has to be, by whether it is set and to what octets. -/
def Misset (vs : Variables) : Prop :=
  (∃ octets, vs.lookup "PORT" = some octets ∧
    ∀ text port, Text.octets text = octets → ¬ Settings.IsPort text port) ∨
  ∃ name ∈ ["USER_GATEWAY_URL", "USER_SESSION", "BOT_GATEWAY_URL", "BOT_SESSION"],
    vs.lookup name = none

/-- Both gateways at one address, no port, and no settings that have defaults. -/
theorem describes_of_sessions {vs : Variables} {user : String} (hport : vs.get? "PORT" = none)
    (hurls : ∀ name ∈ ["USER_GATEWAY_URL", "BOT_GATEWAY_URL"],
      vs.lookup name = some (Text.octets "http://gateway.test"))
    (huser : vs.lookup "USER_SESSION" = some (Text.octets user))
    (hbot : vs.lookup "BOT_SESSION" = some (Text.octets "bot"))
    (hnone : ∀ name ∈ ["ADMIN_PEER", "FAQ_TEXT", "FAQ_START_PARAM"], vs.lookup name = none) :
    Settings.Describes vs ⟨8080, "http://gateway.test", user, "http://gateway.test", "bot",
      "@danogentili", ⟨"FAQ", "lel"⟩⟩ := by
  have hdefault {name : String} (h : name ∈ ["ADMIN_PEER", "FAQ_TEXT", "FAQ_START_PARAM"]) :
      vs.get? name = none := Settings.get?_of_unset (hnone name h)
  refine ⟨.inl ⟨hport, rfl⟩, Settings.get?_eq_some_iff.2 (hurls _ (.head _)),
    Settings.get?_eq_some_iff.2 huser, Settings.get?_eq_some_iff.2 (hurls _ (.tail _ (.head _))),
    Settings.get?_eq_some_iff.2 hbot, ?_, ?_⟩
  · rw [hdefault (.head _)]
    rfl
  · rw [hdefault (.tail _ (.head _)), hdefault (.tail _ (.tail _ (.head _)))]
    rfl

end Sessions

/-! ### All checks -/

/-- A start goes through its checks in order, each made once, and ends with the first that fails:
the variables, of which the first that is wrong is told of before anything is done, the user's
session, which must not be a bot's, the bot's session, and the port. A bot that runs has the id that
its own session was asked for, and the settings as the variables describe them, where a variable that
is not set to the octets of a text counts as if it were not set. Slashes that end the address of a
gateway make no difference. -/
theorem checks_in_order (t : Transport (StateM σ)) (matcher : Matcher)
    (bind : Nat → StateM σ (Except String Unit)) (vs : Variables) (s : σ) :
    (∀ o, observe t matcher bind vs s = o ↔ Starts t matcher bind vs s o) ∧
    ((∃ f : Failure, observe t matcher bind vs s =
        ⟨.error (f.within "Failed to load configuration"), [], s⟩) ↔
      ∃ name ∈ Settings.checked, Settings.Wrong vs name) ∧
    ((∃ name ∈ Settings.checked, Settings.Wrong vs name) ↔
      ¬ ∃ settings, Settings.Describes vs settings) ∧
    (∀ name text, vs.get? name = some text ↔ vs.lookup name = some (Text.octets text)) ∧
    ∀ url session n, Client.ofUrl (url ++ String.ofList (List.replicate n '/')) session =
      Client.ofUrl url session :=
  ⟨fun _ => observe_eq_iff, observe_eq_misconfigured_iff, Settings.exists_wrong_iff,
    fun _ _ => Settings.get?_eq_some_iff, ofUrl_append_slashes⟩

/-- The sessions of a user and of a bot, in this order. -/
theorem checks_in_order_sessions :
    let vs : Variables := .ofTexts
      [("PORT", "+080"), ("USER_GATEWAY_URL", "http://gateway.test/"), ("USER_SESSION", "user"),
        ("BOT_GATEWAY_URL", "http://gateway.test"), ("BOT_SESSION", "bot"), ("ADMIN_PEER", "")]
    let settings : Settings :=
      ⟨80, "http://gateway.test/", "user", "http://gateway.test", "bot", "", ⟨"FAQ", "lel"⟩⟩
    let started := observe line Pattern.matcher anyPort vs gateway
    Settings.Describes vs settings ∧
      started.result = .ok (deskOf line Pattern.matcher settings bot, 80) ∧
      started.events = [userAsked, botAsked, .bound 80 (.ok ())] := by
  intro vs settings started
  have hport : Settings.IsPort "+080" 80 :=
    ⟨['+'], ['0', '8', '0'], by decide, .inr rfl, by decide, by simp, by decide, by decide⟩
  have hset {name text : String} (h : vs.lookup name = some (Text.octets text)) :
      vs.get? name = some text := Settings.get?_eq_some_iff.2 h
  have hsettings : Settings.Describes vs settings := by
    refine ⟨.inr ⟨"+080", hset rfl, hport⟩, hset rfl, hset rfl, hset rfl, hset rfl, ?_, ?_⟩
    · have hadmin : vs.get? "ADMIN_PEER" = some "" := hset rfl
      rw [hadmin]
      rfl
    · rw [Settings.get?_of_unset rfl, Settings.get?_of_unset rfl]
      rfl
  have hslash : userClient settings = .ofUrl "http://gateway.test" "user" := by decide +kernel
  have hstarts := ((checks_in_order line Pattern.matcher anyPort vs gateway).1 _).2
    (.running hsettings (hslash ▸ introduces_user) rfl (introduces_bot _ (.tail _ (.head _))) rfl)
  exact ⟨hsettings, congrArg Observation.result hstarts, congrArg Observation.events hstarts⟩

/-- Octets that are no text do not count. A port that is set to them is not told of, a session is.
And the session of the bot is asked whose it is, although the user's is not as it has to be, if the
two are one session. -/
theorem textless_or_shared :
    let urls := [("USER_GATEWAY_URL", "http://gateway.test"),
      ("BOT_GATEWAY_URL", "http://gateway.test"), ("BOT_SESSION", "bot")]
    let textlessPort : Variables :=
      ("PORT", [0xFF]) :: Variables.ofTexts (("USER_SESSION", "user") :: urls)
    let textlessSession : Variables := ("USER_SESSION", [0xFF]) :: Variables.ofTexts urls
    let shared : Variables := .ofTexts (("USER_SESSION", "bot") :: urls)
    let started (vs : Variables) := observe line Pattern.matcher anyPort vs gateway
    (Misset textlessPort ∧
      (started textlessPort).events = [userAsked, botAsked, .bound 8080 (.ok ())]) ∧
    (¬ Misset textlessSession ∧ ∃ f : Failure, started textlessSession =
      ⟨.error (f.within "Failed to load configuration"), [], gateway⟩) ∧
    (started shared).result =
        .error (.ofText "USER_SESSION must be logged in as a user, not a bot") ∧
      (started shared).events = [botAsked] := by
  intro urls textlessPort textlessSession shared started
  have htextless : ∀ text, Text.octets text ≠ [0xFF] := Text.ofOctets?_eq_none_iff.1 (by decide)
  refine ⟨⟨.inl ⟨[0xFF], rfl, fun text port h => absurd h (htextless text)⟩, ?_⟩, ⟨?_, ?_⟩, ?_⟩
  · have hport : textlessPort.get? "PORT" = none := Settings.get?_of_noText rfl htextless
    have hsettings := describes_of_sessions hport
      (List.forall_mem_cons.2 ⟨rfl, List.forall_mem_singleton.2 rfl⟩) rfl rfl
      (List.forall_mem_cons.2 ⟨rfl, List.forall_mem_cons.2 ⟨rfl, List.forall_mem_singleton.2 rfl⟩⟩)
    have hstarts : Starts line Pattern.matcher anyPort textlessPort gateway _ :=
      .running hsettings introduces_user rfl (introduces_bot _ (.tail _ (.head _))) rfl
    exact congrArg Observation.events hstarts.observe_eq
  · rintro (⟨octets, hport, -⟩ | ⟨name, hname, hunset⟩)
    · cases hport
    · simp only [List.mem_cons, List.not_mem_nil, or_false] at hname
      rcases hname with rfl | rfl | rfl | rfl <;> cases hunset
  · have hfirst : Settings.FirstWrong textlessSession "USER_SESSION" := by
      refine ⟨["PORT", "USER_GATEWAY_URL"], ["BOT_GATEWAY_URL", "BOT_SESSION"], rfl, ?_, ?_⟩
      · have hport : textlessSession.get? "PORT" = none := Settings.get?_of_unset rfl
        have hurl : textlessSession.get? "USER_GATEWAY_URL" = some "http://gateway.test" :=
          Settings.get?_eq_some_iff.2 rfl
        simp [Settings.Wrong, hport, hurl]
      · exact (Settings.wrong_of_ne_port (by decide)).2 (Settings.get?_of_noText rfl htextless)
    exact ⟨_, Starts.observe_eq (.misconfigured hfirst (.noText (by decide) rfl htextless))⟩
  · have hsettings : Settings.Describes shared _ :=
      describes_of_sessions (Settings.get?_of_unset rfl)
        (List.forall_mem_cons.2 ⟨rfl, List.forall_mem_singleton.2 rfl⟩) rfl rfl
        (List.forall_mem_cons.2 ⟨rfl, List.forall_mem_cons.2 ⟨rfl, List.forall_mem_singleton.2 rfl⟩⟩)
    have hstarts : Starts line Pattern.matcher anyPort shared gateway _ :=
      .userIsBot hsettings (introduces_bot [] (.head _)) rfl
    exact ⟨congrArg Observation.result hstarts.observe_eq,
      congrArg Observation.events hstarts.observe_eq⟩

end Startup
end InlineRelay
