import InlineRelay.Gateway.Client
import InlineRelay.Settings

/-!
Starting up: the settings, then the user's session, then the bot's, then the port. The first that
fails ends it, and nothing after it is tried.
-/
namespace InlineRelay

/-- How a program ends. -/
structure Exit where
  code : Nat
  stderr : String
  deriving DecidableEq, Repr

def Exit.ofFailure (f : Failure) : Exit := ⟨1, s!"Error: {f.report}\n"⟩

namespace Startup
variable {m : Type → Type} [Monad m]

/-- A failure in one of the gateway's sessions, seen from further out. -/
def reached {α : Type} (context : String) (r : Except Gateway.Error α) : Except Failure α :=
  r.mapError fun e => e.failure.within context

/-- The id of the bot's account, once both sessions are as they have to be: the user's must not be
a bot, or it could not query others. -/
def checkSessions (t : Gateway.Transport m) (user bot : Gateway.Client) : m (Except Failure Int) := do
  match reached "Failed to reach the user session" (← user.getSelf t) with
  | .error f => return .error f
  | .ok me =>
    if me.isBot then
      return .error (.ofText "USER_SESSION must be logged in as a user, not a bot")
    match reached "Failed to reach the bot session" (← bot.getSelf t) with
    | .error f => return .error f
    | .ok self => return .ok self.id

/-- The running bot and its port. -/
def run (t : Gateway.Transport m) (matcher : Matcher) (bind : Nat → m (Except String Unit))
    (vs : Variables) : m (Except Failure (Desk m × Nat)) := do
  match Settings.ofVariables vs with
  | .error f => return .error (f.within "Failed to load configuration")
  | .ok settings =>
    let user := Gateway.Client.ofUrl settings.userUrl settings.userSession
    let bot := Gateway.Client.ofUrl settings.botUrl settings.botSession
    match ← checkSessions t user bot with
    | .error f => return .error f
    | .ok selfId =>
      match ← bind settings.port with
      | .error e => return .error (Failure.within "Failed to bind to address" (.ofText e))
      | .ok _ =>
        return .ok (⟨Gateway.provider t user, Gateway.messenger t bot, matcher, selfId,
          settings.adminPeer, settings.faq⟩, settings.port)

end Startup

end InlineRelay
